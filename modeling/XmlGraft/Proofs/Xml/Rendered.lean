import Mathlib.Data.List.Chain
import XmlGraft.Proofs.Xml.Scanned

/-!
# Rendered pieces — what is written is scanned again

A piece that can be written reads back as itself, whatever follows it, except that a run of
characters must not be followed by more of the same (`takeMarkup_render`). So a run of pieces in
which no two runs of characters stand side by side is scanned as it was written
(`scanMarkup_flatMap_render`).

What would be read as something else is written as a reference, in text as in attribute values, and
the name or number of a reference holds neither a quote nor a semicolon (`renderReference_eq`).
-/

namespace XmlGraft.Xml

open Text

/-! ## Names and references -/

/-- A name is found again before a character that cannot stand in it. -/
theorem takeName_append {name : String} (isName : TagName name) {rest : List Char}
    (ends : ∀ c ∈ rest.head?, isTagChar c = false) :
    takeName (name.toList ++ rest) = some (name.toList, rest) := by
  obtain ⟨c, others, spelled, start⟩ := isName.start
  obtain ⟨taken, dropped⟩ := Path.takeWhile_run isName.all ends
  have begins : ((name.toList ++ rest).head?.any fun c => isNameStart c || c = ':') = true := by
    rw [spelled]
    exact start
  rw [takeName, if_pos begins, taken, dropped]

/-- A reference that is written has a name or a number between its marks, and denotes its character.
-/
theorem renderReference_eq {c : Char} (escaped : escapedInText c = true ∨ escapedInValue c = true) :
    ∃ body, renderReference c = '&' :: body ++ [';'] ∧ referenced body = some c ∧
      ∀ d ∈ body, d ≠ ';' ∧ d ≠ '"' ∧ d ≠ '\r' := by
  have few : c = '&' ∨ c = '<' ∨ c = '>' ∨ c = '"' ∨ c = '\t' ∨ c = '\n' ∨ c = '\r' := by
    simp only [escapedInText, escapedInValue, Bool.or_eq_true, decide_eq_true_eq] at escaped
    tauto
  rcases few with rfl | rfl | rfl | rfl | rfl | rfl | rfl
  · exact ⟨['a', 'm', 'p'], rfl, rfl, by simp⟩
  · exact ⟨['l', 't'], rfl, rfl, by simp⟩
  · exact ⟨['g', 't'], rfl, rfl, by simp⟩
  · exact ⟨['q', 'u', 'o', 't'], rfl, rfl, by simp⟩
  · exact ⟨['#', '9'], rfl, rfl, by simp⟩
  · exact ⟨['#', '1', '0'], rfl, rfl, by simp⟩
  · exact ⟨['#', '1', '3'], rfl, rfl, by simp⟩

/-- A reference is read as its character. -/
theorem takeReference_render {c : Char} (escaped : escapedInText c = true) (rest : List Char) :
    ∃ body, renderReference c = '&' :: body ∧
      takeReference (body ++ rest) = some (.reference c, rest) := by
  obtain ⟨body, spelled, denotes, free⟩ := renderReference_eq (.inl escaped)
  refine ⟨body ++ [';'], spelled, ?_⟩
  have inside : ∀ d ∈ body, decide (d ≠ ';') = true := fun d member =>
    decide_eq_true (free d member).1
  have stops : ∀ d ∈ (';' :: rest).head?, decide (d ≠ ';') = false := by
    rintro _ ⟨⟩
    rfl
  obtain ⟨taken, dropped⟩ := Path.takeWhile_run inside stops
  rw [List.append_assoc, List.singleton_append, takeReference, dropped]
  dsimp only
  rw [taken, denotes]
  rfl

/-! ## Attributes -/

/-- Inside a reference, its characters are read up to its end. -/
theorem valueChars_pending {body : List Char} (free : ∀ d ∈ body, d ≠ ';')
    (before rest : List Char) :
    valueChars (some before) (body ++ ';' :: rest) =
      (referenced (before.reverse ++ body)).bind fun c =>
        (valueChars none rest).map (c :: ·) := by
  induction body generalizing before with
  | nil =>
    rw [List.nil_append, valueChars, if_pos rfl, List.append_nil]
    cases referenced before.reverse with
    | none => rfl
    | some c => rfl
  | cons d body ih =>
    obtain ⟨here, others⟩ := List.forall_mem_cons.mp free
    rw [List.cons_append, valueChars, if_neg here, ih others, List.reverse_cons, List.append_assoc,
      List.singleton_append]

/-- A written value denotes its characters. -/
theorem valueChars_renderValue {cs : List Char} (all : ∀ c ∈ cs, isXmlChar c = true) :
    valueChars none (cs.flatMap fun c => if escapedInValue c then renderReference c else [c]) =
      some cs := by
  induction cs with
  | nil => rfl
  | cons c rest ih =>
    obtain ⟨isChar, others⟩ := List.forall_mem_cons.mp all
    rw [List.flatMap_cons]
    by_cases escaped : escapedInValue c = true
    · obtain ⟨body, spelled, denotes, free⟩ := renderReference_eq (.inr escaped)
      rw [if_pos escaped, spelled, List.cons_append, List.cons_append, List.append_assoc,
        List.singleton_append, valueChars, if_pos rfl,
        valueChars_pending fun d member => (free d member).1]
      rw [List.reverse_nil, List.nil_append, denotes, Option.bind_some, ih others]
      rfl
    · have escaped := Bool.eq_false_iff.mpr escaped
      have stays : (if isBlank c then ' ' else c) = c := by
        split
        · next blank =>
          simp only [escapedInValue, Bool.or_eq_false_iff, decide_eq_false_iff_not] at escaped
          simp only [isBlank, Bool.or_eq_true, decide_eq_true_eq] at blank
          rcases blank with ((rfl | rfl) | rfl) | rfl <;> simp_all
        · rfl
      have notMark : c ≠ '&' ∧ (c = '<' || !isXmlChar c) = false := by
        simp only [escapedInValue, Bool.or_eq_false_iff, decide_eq_false_iff_not] at escaped
        simp [escaped, isChar]
      rw [escaped, if_neg Bool.false_ne_true, List.singleton_append, valueChars,
        if_neg notMark.1, notMark.2, if_neg Bool.false_ne_true, ih others, stays]
      rfl

/-- A written value holds neither a quote nor a carriage return. -/
theorem free_renderValue {value : String} :
    ∀ c ∈ renderValue value, c ≠ '"' ∧ c ≠ '\r' := by
  intro c member
  obtain ⟨d, _, member⟩ := List.mem_flatMap.mp member
  split at member
  · next escaped =>
    obtain ⟨body, spelled, _, free⟩ := renderReference_eq (.inr escaped)
    rw [spelled, List.cons_append] at member
    simp only [List.mem_cons, List.mem_append, List.not_mem_nil, or_false] at member
    rcases member with rfl | member | rfl
    · decide
    · exact (free c member).2
    · decide
  · next escaped =>
    rw [List.mem_singleton.mp member]
    simp only [escapedInValue, Bool.or_eq_true, decide_eq_true_eq, not_or] at escaped
    exact ⟨escaped.1.1.1.2, escaped.2⟩

/-- A written value in quotes is read as itself. -/
theorem takeValue_render {value : String} (writable : compatible value = true)
    (rest : List Char) :
    takeValue ('"' :: renderValue value ++ '"' :: rest) = some (value, rest) := by
  have inside : ∀ c ∈ renderValue value, decide (c ≠ '"') = true := fun c member =>
    decide_eq_true (free_renderValue c member).1
  have stops : ∀ c ∈ ('"' :: rest).head?, decide (c ≠ '"') = false := by
    rintro _ ⟨⟩
    rfl
  obtain ⟨taken, dropped⟩ := Path.takeWhile_run inside stops
  have unified : unifyLineBreaks (renderValue value) = renderValue value :=
    unifyLineBreaks_eq_self fun member => (free_renderValue _ member).2 rfl
  have denotes := valueChars_renderValue (List.all_eq_true.mp writable)
  rw [List.cons_append, takeValue, if_pos (by decide), dropped]
  dsimp only
  rw [taken, unified, renderValue, denotes, Option.map_some, String.ofList_toList]

/-- A name character is no blank, and neither is a colon. -/
theorem not_blank_of_isTagChar {c : Char} (isTag : isTagChar c = true) : isBlank c = false := by
  cases blank : isBlank c with
  | false => rfl
  | true =>
    simp only [isBlank, Bool.or_eq_true, decide_eq_true_eq] at blank
    rcases blank with ((rfl | rfl) | rfl) | rfl <;> exact absurd isTag (by decide)

/-- Blanks are dropped up to what is none. -/
theorem dropBlanks_cons {c : Char} (notBlank : isBlank c = false) (rest : List Char) :
    dropBlanks (c :: rest) = c :: rest :=
  List.dropWhile_cons_of_neg (Bool.not_eq_true _ ▸ notBlank)

/-- A written attribute is read as itself. -/
theorem takeAttribute_render {entry : String × String} (isEntry : IsEntry entry)
    (rest : List Char) :
    takeAttribute (entry.1.toList ++ '=' :: '"' :: renderValue entry.2 ++ '"' :: rest) =
      some (entry, rest) := by
  have ends : ∀ c ∈ ('=' :: '"' :: renderValue entry.2 ++ '"' :: rest).head?,
      isTagChar c = false := by
    rintro _ ⟨⟩
    decide
  have value := takeValue_render isEntry.2 rest
  rw [takeAttribute, List.append_assoc, List.cons_append, List.cons_append] at *
  rw [takeName_append isEntry.1 ends]
  dsimp only
  rw [dropBlanks_cons (by decide)]
  show (takeValue (dropBlanks ('"' :: _))).map _ = _
  rw [dropBlanks_cons (by decide), value, Option.map_some, String.ofList_toList]

/-- The end of a start tag. -/
def tagEnd (empty : Bool) : List Char := if empty then ['/', '>'] else ['>']

/-- Where a name follows blanks in a start tag, it is that of an attribute. -/
theorem takeAttributes_of_name {rounds : Nat} {cs : List Char} {c : Char} {others : List Char}
    (blank : cs.head?.any isBlank = true) (dropped : dropBlanks cs = c :: others)
    (isTag : isTagChar c = true) :
    takeAttributes (rounds + 1) cs =
      (takeAttribute (c :: others)).bind fun (entry, rest) =>
        (takeAttributes rounds rest).map fun (entries, empty, rest) =>
          (entry :: entries, empty, rest) := by
  rw [takeAttributes, dropped]
  split
  · next same =>
    cases same
    exact absurd isTag (by decide)
  · next same =>
    cases same
    exact absurd isTag (by decide)
  · rw [if_pos blank]
    cases takeAttribute (c :: others) with
    | none => rfl
    | some taken => rfl

/-- Written attributes are read as themselves, in as many rounds as there are and one more. -/
theorem takeAttributes_render {entries : List (String × String)}
    (areEntries : ∀ entry ∈ entries, IsEntry entry) (empty : Bool) (rest : List Char) {rounds : Nat}
    (enough : entries.length < rounds) :
    takeAttributes rounds (entries.flatMap renderAttribute ++ (tagEnd empty ++ rest)) =
      some (entries, empty, rest) := by
  induction entries generalizing rounds with
  | nil =>
    obtain ⟨rounds, rfl⟩ := Nat.exists_eq_add_of_lt enough
    cases empty with
    | false => rfl
    | true => rfl
  | cons entry others ih =>
    obtain ⟨isEntry, areOthers⟩ := List.forall_mem_cons.mp areEntries
    obtain ⟨rounds, rfl⟩ : ∃ more, rounds = more + 1 :=
      Nat.exists_eq_succ_of_ne_zero (Nat.ne_zero_of_lt enough)
    have value := takeAttribute_render isEntry
      (others.flatMap renderAttribute ++ (tagEnd empty ++ rest))
    have spelled : (entry :: others).flatMap renderAttribute ++ (tagEnd empty ++ rest) =
        ' ' :: (entry.1.toList ++ '=' :: '"' :: renderValue entry.2 ++
          '"' :: (others.flatMap renderAttribute ++ (tagEnd empty ++ rest))) := by
      simp [renderAttribute]
    obtain ⟨c, name, starts, _⟩ := isEntry.1.start
    have isTag := isEntry.1.all c (starts ▸ List.mem_cons_self)
    have dropped : ∀ tail, dropBlanks (' ' :: (entry.1.toList ++ tail)) = c :: (name ++ tail) := by
      intro tail
      rw [starts]
      exact dropBlanks_cons (not_blank_of_isTagChar isTag) _
    rw [spelled]
    rw [List.append_assoc] at *
    rw [takeAttributes_of_name rfl (dropped _) isTag, ← List.cons_append, ← starts, value,
      Option.bind_some]
    dsimp only
    rw [ih areOthers (Nat.lt_of_succ_lt_succ enough)]
    rfl

/-! ## Pieces -/

namespace Markup

/-- Whether a piece is a run of characters. -/
def isRun : Markup → Bool
  | chars _ => true
  | _ => false

/-- What a piece is like that can be written: a lawful tag, comment or instruction, a reference
where one is due, or characters that need none. -/
def Renderable : Markup → Prop
  | chars run => run ≠ [] ∧ ∀ c ∈ run, isXmlChar c = true ∧ escapedInText c = false
  | reference c => escapedInText c = true
  | cdata _ => False
  | piece => piece.Lawful

/-- A piece that is no run of characters begins with a mark. -/
theorem Renderable.starts {piece : Markup} (renderable : piece.Renderable)
    (notRun : piece.isRun = false) :
    ∃ c others, piece.render = c :: others ∧ isOrdinary c = false := by
  cases piece with
  | chars run => cases notRun
  | cdata run => exact renderable.elim
  | reference c =>
    obtain ⟨body, spelled, _⟩ := takeReference_render renderable []
    exact ⟨'&', body, spelled, rfl⟩
  | _ => exact ⟨'<', _, rfl, rfl⟩

/-- A piece is written with at least one character. -/
theorem Renderable.render_ne_nil {piece : Markup} (renderable : piece.Renderable) :
    piece.render ≠ [] := by
  cases kind : piece.isRun with
  | false =>
    obtain ⟨c, others, spelled, _⟩ := renderable.starts kind
    rw [spelled]
    exact List.cons_ne_nil c others
  | true =>
    cases piece with
    | chars run => exact renderable.1
    | _ => cases kind

end Markup

/-- A start tag is found where a name follows the bracket. -/
theorem takeMarkup_opening (rounds : Nat) {c : Char} (isTag : isTagChar c = true)
    (others : List Char) :
    takeMarkup rounds ('<' :: c :: others) = takeOpening rounds (c :: others) := by
  have differs : ∀ d : Char, isTagChar d = false → c ≠ d := by
    rintro d notTag rfl
    rw [isTag] at notTag
    cases notTag
  unfold takeMarkup
  split
  · next same => exact absurd (List.cons.inj (List.cons.inj same).2).1 (differs '!' (by decide))
  · next same => exact absurd (List.cons.inj (List.cons.inj same).2).1 (differs '!' (by decide))
  · next same => exact absurd (List.cons.inj (List.cons.inj same).2).1 (differs '?' (by decide))
  · next same => exact absurd (List.cons.inj (List.cons.inj same).2).1 (differs '/' (by decide))
  · next same => rw [(List.cons.inj same).2]
  · next same => exact absurd (List.cons.inj same).1 (by decide)
  · next none _ => exact absurd rfl (none _)

/-- A run of characters is found where there is no mark. -/
theorem takeMarkup_run (rounds : Nat) {c : Char} (ordinary : isOrdinary c = true)
    (others : List Char) : takeMarkup rounds (c :: others) = takeRun (c :: others) := by
  have differs : ∀ d : Char, isOrdinary d = false → c ≠ d := by
    rintro d mark rfl
    rw [ordinary] at mark
    cases mark
  unfold takeMarkup
  split
  · next same => exact absurd (List.cons.inj same).1 (differs '<' rfl)
  · next same => exact absurd (List.cons.inj same).1 (differs '<' rfl)
  · next same => exact absurd (List.cons.inj same).1 (differs '<' rfl)
  · next same => exact absurd (List.cons.inj same).1 (differs '<' rfl)
  · next same => exact absurd (List.cons.inj same).1 (differs '<' rfl)
  · next same => exact absurd (List.cons.inj same).1 (differs '&' rfl)
  · rfl

/-- A tag has at least as many characters as attributes. -/
theorem length_le_render (entries : List (String × String)) :
    entries.length ≤ (entries.flatMap renderAttribute).length := by
  induction entries with
  | nil => exact Nat.le_refl 0
  | cons entry rest ih =>
    simp only [List.flatMap_cons, List.length_cons, List.length_append, renderAttribute,
      List.cons_append]
    omega

/-- A written start tag is read as itself. -/
theorem takeOpening_render {name : String} (isName : TagName name)
    {entries : List (String × String)} (areEntries : ∀ entry ∈ entries, IsEntry entry)
    (empty : Bool) (rest : List Char) {rounds : Nat} (enough : entries.length < rounds) :
    takeOpening rounds
        (name.toList ++ (entries.flatMap renderAttribute ++ (tagEnd empty ++ rest))) =
      some (.opening name entries empty, rest) := by
  have ends : ∀ c ∈ (entries.flatMap renderAttribute ++ (tagEnd empty ++ rest)).head?,
      isTagChar c = false := by
    cases entries with
    | nil =>
      cases empty with
      | false =>
        rintro _ ⟨⟩
        decide
      | true =>
        rintro _ ⟨⟩
        decide
    | cons entry others =>
      rintro _ ⟨⟩
      decide
  rw [takeOpening, takeName_append isName ends]
  dsimp only
  rw [takeAttributes_render areEntries empty rest enough, Option.map_some, String.ofList_toList]

/-- A written comment is read as itself. -/
theorem takeComment_render {content : String} (isComment : IsComment content) (rest : List Char) :
    takeComment (content.toList ++ ['-', '-'] ++ '>' :: rest) = some (.comment content, rest) := by
  have all : content.toList.all isXmlChar = true := isComment.writable
  rw [takeComment, splitAtMarker_append (by decide) isComment.first]
  show (if content.toList.all isXmlChar = true then _ else _) = _
  rw [if_pos all, unifyLineBreaks_eq_self isComment.unified, String.ofList_toList]

/-- A written instruction without data is read as itself. -/
theorem takeInstruction_bare {target : String} (isInstruction : IsInstruction target none)
    (rest : List Char) :
    takeInstruction (target.toList ++ '?' :: '>' :: rest) =
      some (.instruction target none, rest) := by
  have ends : ∀ c ∈ ('?' :: '>' :: rest).head?, isTagChar c = false := by
    rintro _ ⟨⟩
    decide
  rw [takeInstruction, takeName_append isInstruction.name ends]
  dsimp only
  rw [isInstruction.free, if_neg Bool.false_ne_true, String.ofList_toList]
  rfl

/-- A written instruction with data is read as itself. -/
theorem takeInstruction_data {target data : String}
    (isInstruction : IsInstruction target (some data)) (rest : List Char) :
    takeInstruction (target.toList ++ ' ' :: (data.toList ++ '?' :: '>' :: rest)) =
      some (.instruction target (some data), rest) := by
  have isData := isInstruction.data data rfl
  have ends : ∀ c ∈ (' ' :: (data.toList ++ '?' :: '>' :: rest)).head?, isTagChar c = false := by
    rintro _ ⟨⟩
    decide
  have noBlanks : dropBlanks (data.toList ++ '?' :: '>' :: rest) =
      data.toList ++ '?' :: '>' :: rest := by
    cases spelled : data.toList with
    | nil => rfl
    | cons c others => exact dropBlanks_cons (isData.start c (by rw [spelled]; rfl)) _
  have split : splitAtMarker ['?', '>'] (data.toList ++ '?' :: '>' :: rest) =
      some (data.toList, rest) := by
    have split := splitAtMarker_append (by decide) isData.first rest
    rwa [List.append_assoc] at split
  have all : data.toList.all isXmlChar = true := isData.writable
  rw [takeInstruction, takeName_append isInstruction.name ends]
  dsimp only
  rw [isInstruction.free, if_neg Bool.false_ne_true]
  split
  · next wrote => exact absurd (List.cons.inj wrote).1 (by decide)
  · next wrote =>
    obtain ⟨rfl, rfl⟩ := List.cons.inj wrote
    rw [if_pos (show isBlank ' ' = true from rfl), noBlanks, split]
    dsimp only
    rw [if_pos all, unifyLineBreaks_eq_self isData.unified, String.ofList_toList,
      String.ofList_toList]
  · next wrote => cases wrote

/-- A character that needs no reference is no mark. -/
theorem isOrdinary_of_unescaped {c : Char} (unescaped : escapedInText c = false) :
    isOrdinary c = true := by
  simp only [escapedInText, Bool.or_eq_false_iff, decide_eq_false_iff_not] at unescaped
  simp [isOrdinary, unescaped]

/-- A run of characters that need no reference is read as itself, up to a mark. -/
theorem takeRun_render {run : List Char}
    (plain : ∀ c ∈ run, isXmlChar c = true ∧ escapedInText c = false) {rest : List Char}
    (ends : ∀ c ∈ rest.head?, isOrdinary c = false) :
    takeRun (run ++ rest) = some (.chars run, rest) := by
  have ordinary : ∀ c ∈ run, isOrdinary c = true := fun c member =>
    isOrdinary_of_unescaped (plain c member).2
  obtain ⟨taken, dropped⟩ := Path.takeWhile_run ordinary ends
  have noEnd : splitAtMarker [']', ']', '>'] run = none := by
    rw [Option.eq_none_iff_forall_ne_some]
    rintro ⟨before, after⟩ split
    have inRun : '>' ∈ run := by
      rw [(splitAtMarker_eq_some split).1]
      simp
    exact absurd (plain '>' inRun).2 (by decide)
  have all : run.all isXmlChar = true := List.all_eq_true.mpr fun c member => (plain c member).1
  rw [takeRun, taken, dropped, noEnd, all]
  rfl

/-- The text of a start tag. -/
theorem render_opening (name : String) (entries : List (String × String)) (empty : Bool) :
    (Markup.opening name entries empty).render =
      '<' :: (name.toList ++ (entries.flatMap renderAttribute ++ tagEnd empty)) :=
  congrArg ('<' :: ·) (List.append_assoc _ _ _)

/-- A start tag is read as itself. -/
theorem takeMarkup_render_opening {name : String} (isName : TagName name)
    {entries : List (String × String)} (areEntries : ∀ entry ∈ entries, IsEntry entry)
    (empty : Bool) (rest : List Char) {rounds : Nat}
    (enough : (Markup.opening name entries empty).render.length ≤ rounds) :
    takeMarkup rounds ((Markup.opening name entries empty).render ++ rest) =
      some (.opening name entries empty, rest) := by
  have fewer : entries.length < rounds := by
    refine Nat.lt_of_lt_of_le (Nat.lt_succ_of_le (length_le_render entries)) (le_trans ?_ enough)
    rw [render_opening]
    simp only [List.length_cons, List.length_append]
    omega
  have taken := takeOpening_render isName areEntries empty rest fewer
  have spelled : (Markup.opening name entries empty).render ++ rest =
      '<' :: (name.toList ++ (entries.flatMap renderAttribute ++ (tagEnd empty ++ rest))) := by
    rw [render_opening]
    simp only [List.cons_append, List.append_assoc]
  obtain ⟨c, others, starts, _⟩ := isName.start
  have isTag := isName.all c (starts ▸ List.mem_cons_self)
  rw [spelled]
  rw [starts, List.cons_append] at taken ⊢
  exact (takeMarkup_opening rounds isTag _).trans taken

/-- An end tag is read as itself. -/
theorem takeClosing_render {name : String} (isName : TagName name) (rest : List Char) :
    takeClosing (name.toList ++ '>' :: rest) = some (.closing name, rest) := by
  have ends : ∀ c ∈ ('>' :: rest).head?, isTagChar c = false := by
    rintro _ ⟨⟩
    decide
  rw [takeClosing, takeName_append isName ends]
  dsimp only
  rw [dropBlanks_cons (by decide), String.ofList_toList]
  rfl

/-- A piece that can be written is read as itself, if a run of characters is not followed by more
of them. -/
theorem takeMarkup_render {piece : Markup} (renderable : piece.Renderable) {rest : List Char}
    (ends : piece.isRun = true → ∀ c ∈ rest.head?, isOrdinary c = false) {rounds : Nat}
    (enough : piece.render.length ≤ rounds) :
    takeMarkup rounds (piece.render ++ rest) = some (piece, rest) := by
  cases piece with
  | chars run =>
    obtain ⟨present, plain⟩ := renderable
    cases run with
    | nil => exact absurd rfl present
    | cons c others =>
      have ordinary := isOrdinary_of_unescaped (plain c List.mem_cons_self).2
      have taken := takeRun_render plain (ends rfl)
      exact (takeMarkup_run rounds ordinary (others ++ rest)).trans taken
  | reference c =>
    have escaped : escapedInText c = true := renderable
    obtain ⟨body, spelled, taken⟩ := takeReference_render escaped rest
    show takeMarkup rounds (renderReference c ++ rest) = _
    rw [spelled]
    exact taken
  | cdata run => exact renderable.elim
  | opening name entries empty =>
    exact takeMarkup_render_opening renderable.1 renderable.2 empty rest enough
  | closing name =>
    have spelled : (Markup.closing name).render ++ rest =
        '<' :: '/' :: (name.toList ++ '>' :: rest) :=
      congrArg ('<' :: '/' :: ·) (List.append_assoc name.toList ['>'] rest)
    rw [spelled]
    exact takeClosing_render renderable rest
  | comment content =>
    have spelled : (Markup.comment content).render ++ rest =
        '<' :: '!' :: '-' :: '-' :: (content.toList ++ ['-', '-'] ++ '>' :: rest) := by
      show '<' :: '!' :: '-' :: '-' :: (content.toList ++ ['-', '-', '>'] ++ rest) = _
      simp only [List.append_assoc, List.cons_append, List.nil_append]
    rw [spelled]
    exact takeComment_render renderable rest
  | instruction target content =>
    cases content with
    | none =>
      have spelled : (Markup.instruction target none).render ++ rest =
          '<' :: '?' :: (target.toList ++ '?' :: '>' :: rest) := by
        show '<' :: '?' :: (target.toList ++ [] ++ ['?', '>'] ++ rest) = _
        simp only [List.append_assoc, List.cons_append, List.nil_append]
      rw [spelled]
      exact takeInstruction_bare renderable rest
    | some data =>
      have spelled : (Markup.instruction target (some data)).render ++ rest =
          '<' :: '?' :: (target.toList ++ ' ' :: (data.toList ++ '?' :: '>' :: rest)) := by
        show '<' :: '?' :: (target.toList ++ ' ' :: data.toList ++ ['?', '>'] ++ rest) = _
        simp only [List.append_assoc, List.cons_append, List.nil_append]
      rw [spelled]
      exact takeInstruction_data renderable rest

/-! ## Runs of pieces -/

/-- No two runs of characters stand side by side. -/
def Spaced (pieces : List Markup) : Prop :=
  pieces.IsChain fun piece next => piece.isRun = true → next.isRun = false

/-- Pieces that can be written are scanned as they were written, if no two runs of characters stand
side by side. -/
theorem scanMarkup_flatMap_render {pieces : List Markup}
    (renderable : ∀ piece ∈ pieces, piece.Renderable) (spaced : Spaced pieces) {rounds : Nat}
    (enough : (pieces.flatMap Markup.render).length ≤ rounds) :
    scanMarkup rounds (pieces.flatMap Markup.render) = some pieces := by
  induction pieces generalizing rounds with
  | nil =>
    cases rounds with
    | zero => rfl
    | succ rounds => rfl
  | cons piece rest ih =>
    obtain ⟨here, others⟩ := List.forall_mem_cons.mp renderable
    have ends : piece.isRun = true →
        ∀ c ∈ (rest.flatMap Markup.render).head?, isOrdinary c = false := by
      intro isRun c first
      cases rest with
      | nil => cases first
      | cons next rest =>
        have notRun := (List.isChain_cons_cons.mp spaced).1 isRun
        obtain ⟨d, body, spelled, mark⟩ := (others next List.mem_cons_self).starts notRun
        rw [List.flatMap_cons, spelled] at first
        cases first
        exact mark
    rw [List.flatMap_cons] at enough ⊢
    cases spelled : piece.render with
    | nil => exact absurd spelled here.render_ne_nil
    | cons c body =>
      have length := enough
      rw [spelled, List.cons_append, List.length_cons, List.length_append] at length
      obtain ⟨rounds, rfl⟩ : ∃ more, rounds = more + 1 := ⟨rounds - 1, by omega⟩
      have fits : piece.render.length ≤ rounds + 1 := by
        rw [spelled, List.length_cons]
        omega
      have taken := takeMarkup_render here ends fits
      rw [spelled, List.cons_append] at taken
      rw [List.cons_append, scanMarkup, taken]
      dsimp only
      rw [ih others spaced.tail (by omega)]
      rfl

end XmlGraft.Xml
