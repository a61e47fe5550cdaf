import XmlGraft.Proofs.Path.Written
import XmlGraft.Proofs.Xml.Marker
import XmlGraft.Proofs.Xml.Plain

/-!
# Scanned pieces — what every piece that was read is like

Pieces that were cut from the characters of a document are lawful (`Markup.Lawful`): tags have
names of name characters and colons, and what they hold, like all text, can stand in markup;
comments and instructions have nothing in them that would end them. These are all the conditions
under which a piece that is written reads back.
-/

namespace XmlGraft.Xml

open Text

/-! ## Names -/

/-- A name as tags have it: of name characters and colons. -/
structure TagName (name : String) : Prop where
  start : ∃ c rest, name.toList = c :: rest ∧ (isNameStart c || c = ':') = true
  all : ∀ c ∈ name.toList, isTagChar c = true

/-- A name that was taken is one, and stood at the front. -/
theorem takeName_eq_some {cs name rest : List Char} (taken : takeName cs = some (name, rest)) :
    TagName (String.ofList name) ∧ cs = name ++ rest := by
  rw [takeName] at taken
  split at taken
  · next begins =>
    cases taken
    refine ⟨⟨?_, ?_⟩, List.takeWhile_append_dropWhile.symm⟩
    · cases cs with
      | nil => cases begins
      | cons c rest =>
        have start : (isNameStart c || c = ':') = true := begins
        have isTag : isTagChar c = true := by
          rcases Bool.or_eq_true_iff.mp start with start | colon
          · rw [isTagChar, isNameChar_of_isNameStart start, Bool.true_or]
          · rw [isTagChar, colon, Bool.or_true]
        rw [String.toList_ofList, List.takeWhile_cons_of_pos isTag]
        exact ⟨c, _, rfl, start⟩
    · rw [String.toList_ofList]
      exact List.all_eq_true.mp List.all_takeWhile
  · cases taken

/-- A name without a colon is a name as tags have it. -/
theorem tagName_of_isNCName {name : String} (isName : isNCName name = true) : TagName name := by
  obtain ⟨c, rest, spelled, start, all⟩ := isNCName_cons isName
  refine ⟨⟨c, rest, spelled, by rw [start, Bool.true_or]⟩, ?_⟩
  intro d member
  rw [isTagChar, all d member, Bool.true_or]

/-! ## Characters -/

/-- Characters that a document may hold are those of a text that can stand in markup. -/
theorem compatible_ofList {cs : List Char} :
    compatible (String.ofList cs) = true ↔ ∀ c ∈ cs, isXmlChar c = true := by
  rw [compatible, String.toList_ofList, List.all_eq_true]
  rfl

/-- Bringing line breaks into one form keeps characters that a document may hold. -/
theorem xmlChars_unifyLineBreaks {cs : List Char} (all : ∀ c ∈ cs, isXmlChar c = true) :
    ∀ c ∈ unifyLineBreaks cs, isXmlChar c = true := by
  intro c member
  rcases mem_unifyLineBreaks member with rfl | member
  · rfl
  · exact all c member

/-- A character that a code stands for may stand in a document. -/
theorem isXmlChar_of_charOfCode {code : Nat} {c : Char} (found : charOfCode code = some c) :
    isXmlChar c = true := by
  by_cases valid : code.isValidChar
  · rw [charOfCode, dif_pos valid] at found
    obtain ⟨isChar, same⟩ := Option.ite_none_right_eq_some.mp found
    cases same
    exact isChar
  · rw [charOfCode, dif_neg valid] at found
    cases found

/-- A character that a reference stands for may stand in a document. -/
theorem isXmlChar_of_referenced {cs : List Char} {c : Char} (found : referenced cs = some c) :
    isXmlChar c = true := by
  unfold referenced at found
  split at found
  iterate 5
    · cases found
      rfl
  · split at found
    · exact isXmlChar_of_charOfCode found
    · cases found
  · split at found
    · exact isXmlChar_of_charOfCode found
    · cases found
  · cases found

/-- The characters that an attribute value denotes may stand in a document. -/
theorem xmlChars_of_valueChars {pending : Option (List Char)} {cs value : List Char}
    (read : valueChars pending cs = some value) : ∀ c ∈ value, isXmlChar c = true := by
  fun_induction valueChars pending cs generalizing value with
  | case1 =>
    cases read
    exact fun _ member => absurd member List.not_mem_nil
  | case2 => cases read
  | case3 rest ih => exact ih read
  | case4 => cases read
  | case5 c rest _ refused ih =>
    obtain ⟨others, readOthers, rfl⟩ := Option.map_eq_some_iff.mp read
    refine List.forall_mem_cons.mpr ⟨?_, ih readOthers⟩
    split
    · rfl
    · cases isChar : isXmlChar c with
      | true => rfl
      | false => simp [isChar] at refused
  | case6 pending rest d found ih =>
    obtain ⟨others, readOthers, rfl⟩ := Option.map_eq_some_iff.mp read
    exact List.forall_mem_cons.mpr ⟨isXmlChar_of_referenced found, ih readOthers⟩
  | case7 => cases read
  | case8 _ c rest _ ih => exact ih read

/-! ## Pieces -/

/-- An attribute as a start tag may hold it. -/
def IsEntry (entry : String × String) : Prop := TagName entry.1 ∧ compatible entry.2 = true

/-- What a comment may hold: its line breaks are in one form, and nothing in it ends it. -/
structure IsComment (content : String) : Prop where
  writable : compatible content = true
  unified : '\r' ∉ content.toList
  first : MarkerFirst ['-', '-'] content.toList

/-- What an instruction may hold after its target: it does not begin with a blank, its line breaks
are in one form, and nothing in it ends it. -/
structure IsData (data : String) : Prop where
  writable : compatible data = true
  unified : '\r' ∉ data.toList
  first : MarkerFirst ['?', '>'] data.toList
  start : ∀ c ∈ data.toList.head?, isBlank c = false

/-- What an instruction may be. -/
structure IsInstruction (target : String) (content : Option String) : Prop where
  name : TagName target
  free : isReservedTarget target.toList = false
  data : ∀ data ∈ content, IsData data

/-- What every piece that was read is like. -/
def Markup.Lawful : Markup → Prop
  | .chars run | .cdata run => ∀ c ∈ run, isXmlChar c = true
  | .reference c => isXmlChar c = true
  | .opening name entries _ => TagName name ∧ ∀ entry ∈ entries, IsEntry entry
  | .closing name => TagName name
  | .comment content => IsComment content
  | .instruction target content => IsInstruction target content

/-- A value in quotes can stand in markup. -/
theorem compatible_of_takeValue {cs rest : List Char} {value : String}
    (taken : takeValue cs = some (value, rest)) : compatible value = true := by
  unfold takeValue at taken
  split at taken
  · split at taken
    · split at taken
      · cases taken
      · obtain ⟨chars, read, same⟩ := Option.map_eq_some_iff.mp taken
        cases same
        exact compatible_ofList.mpr (xmlChars_of_valueChars read)
    · cases taken
  · cases taken

/-- An attribute that was taken is one. -/
theorem isEntry_of_takeAttribute {cs rest : List Char} {entry : String × String}
    (taken : takeAttribute cs = some (entry, rest)) : IsEntry entry := by
  unfold takeAttribute at taken
  split at taken
  · next name _ named =>
    split at taken
    · obtain ⟨⟨value, _⟩, read, same⟩ := Option.map_eq_some_iff.mp taken
      cases same
      exact ⟨(takeName_eq_some named).1, compatible_of_takeValue read⟩
    · cases taken
  · cases taken

/-- The attributes that were taken are attributes. -/
theorem isEntry_of_takeAttributes {rounds : Nat} {cs rest : List Char}
    {entries : List (String × String)} {empty : Bool}
    (taken : takeAttributes rounds cs = some (entries, empty, rest)) :
    ∀ entry ∈ entries, IsEntry entry := by
  induction rounds generalizing cs entries empty rest with
  | zero => cases taken
  | succ rounds ih =>
    unfold takeAttributes at taken
    split at taken
    · cases taken
      exact fun _ member => absurd member List.not_mem_nil
    · cases taken
      exact fun _ member => absurd member List.not_mem_nil
    · split at taken
      · split at taken
        · next first =>
          obtain ⟨⟨others, _, _⟩, readOthers, same⟩ := Option.map_eq_some_iff.mp taken
          cases same
          exact List.forall_mem_cons.mpr ⟨isEntry_of_takeAttribute first, ih readOthers⟩
        · cases taken
      · cases taken

/-- A comment that was taken may be one. -/
theorem lawful_of_takeComment {cs rest : List Char} {piece : Markup}
    (taken : takeComment cs = some (piece, rest)) : piece.Lawful := by
  unfold takeComment at taken
  split at taken
  · next content _ split =>
    split at taken
    · next all =>
      cases taken
      refine ⟨compatible_ofList.mpr (xmlChars_unifyLineBreaks (List.all_eq_true.mp all)), ?_, ?_⟩
      · rw [String.toList_ofList]
        exact not_mem_unifyLineBreaks content
      · rw [String.toList_ofList]
        exact (splitAtMarker_eq_some split).2.unifyLineBreaks (by decide) (by decide)
    · cases taken
  · cases taken

/-- A CDATA section that was taken holds what it may. -/
theorem lawful_of_takeCdata {cs rest : List Char} {piece : Markup}
    (taken : takeCdata cs = some (piece, rest)) : piece.Lawful := by
  unfold takeCdata at taken
  split at taken
  · split at taken
    · next all =>
      cases taken
      exact xmlChars_unifyLineBreaks (List.all_eq_true.mp all)
    · cases taken
  · cases taken

/-- What follows dropped blanks does not begin with a blank. -/
theorem not_blank_of_dropBlanks {cs : List Char} :
    ∀ c ∈ (dropBlanks cs).head?, isBlank c = false := by
  intro c first
  have notBlank := List.head?_dropWhile_not isBlank cs
  rw [dropBlanks] at first
  rw [first] at notBlank
  exact notBlank

/-- An instruction that was taken may be one. -/
theorem lawful_of_takeInstruction {cs rest : List Char} {piece : Markup}
    (taken : takeInstruction cs = some (piece, rest)) : piece.Lawful := by
  unfold takeInstruction at taken
  split at taken
  · next target after named =>
    obtain ⟨isName, _⟩ := takeName_eq_some named
    split at taken
    · cases taken
    · next free =>
      have free : isReservedTarget (String.ofList target).toList = false := by
        rw [String.toList_ofList]
        exact Bool.eq_false_iff.mpr free
      split at taken
      · cases taken
        exact ⟨isName, free, fun _ none => nomatch none⟩
      · next after _ =>
        split at taken
        · split at taken
          · next content _ split =>
            split at taken
            · next all =>
              cases taken
              refine ⟨isName, free, ?_⟩
              rintro _ ⟨⟩
              obtain ⟨spelled, first⟩ := splitAtMarker_eq_some split
              refine ⟨compatible_ofList.mpr
                (xmlChars_unifyLineBreaks (List.all_eq_true.mp all)), ?_, ?_, ?_⟩
              · rw [String.toList_ofList]
                exact not_mem_unifyLineBreaks content
              · rw [String.toList_ofList]
                exact first.unifyLineBreaks (by decide) (by decide)
              · rw [String.toList_ofList]
                cases content with
                | nil => exact fun _ none => nomatch none
                | cons c content =>
                  have notBlank := not_blank_of_dropBlanks c (by rw [spelled]; rfl)
                  have notReturn : c ≠ '\r' := by
                    rintro rfl
                    cases notBlank
                  rw [unifyLineBreaks_cons notReturn]
                  rintro _ ⟨⟩
                  exact notBlank
            · cases taken
          · cases taken
        · cases taken
      · cases taken
  · cases taken

/-- Every piece that was taken is lawful. -/
theorem lawful_of_takeMarkup {rounds : Nat} {cs rest : List Char} {piece : Markup}
    (taken : takeMarkup rounds cs = some (piece, rest)) : piece.Lawful := by
  unfold takeMarkup at taken
  split at taken
  · exact lawful_of_takeComment taken
  · exact lawful_of_takeCdata taken
  · exact lawful_of_takeInstruction taken
  · unfold takeClosing at taken
    split at taken
    · next named =>
      split at taken
      · cases taken
        exact (takeName_eq_some named).1
      · cases taken
    · cases taken
  · unfold takeOpening at taken
    split at taken
    · next named =>
      obtain ⟨⟨entries, empty, _⟩, read, same⟩ := Option.map_eq_some_iff.mp taken
      cases same
      exact ⟨(takeName_eq_some named).1, isEntry_of_takeAttributes read⟩
    · cases taken
  · unfold takeReference at taken
    split at taken
    · cases taken
    · obtain ⟨c, found, same⟩ := Option.map_eq_some_iff.mp taken
      cases same
      exact isXmlChar_of_referenced found
  · unfold takeRun at taken
    dsimp only at taken
    split at taken
    · next all =>
      cases taken
      exact List.all_eq_true.mp (Bool.and_eq_true_iff.mp all).1
    · cases taken

/-- All pieces that characters are cut into are lawful. -/
theorem lawful_of_scanMarkup {rounds : Nat} {cs : List Char} {pieces : List Markup}
    (scanned : scanMarkup rounds cs = some pieces) : ∀ piece ∈ pieces, piece.Lawful := by
  induction rounds generalizing cs pieces with
  | zero =>
    cases cs with
    | nil =>
      cases scanned
      exact fun _ member => absurd member List.not_mem_nil
    | cons c rest => cases scanned
  | succ rounds ih =>
    cases cs with
    | nil =>
      cases scanned
      exact fun _ member => absurd member List.not_mem_nil
    | cons c rest =>
      unfold scanMarkup at scanned
      split at scanned
      · next taken =>
        obtain ⟨others, scannedOthers, same⟩ := Option.map_eq_some_iff.mp scanned
        cases same
        exact List.forall_mem_cons.mpr ⟨lawful_of_takeMarkup taken, ih scannedOthers⟩
      · cases scanned

end XmlGraft.Xml
