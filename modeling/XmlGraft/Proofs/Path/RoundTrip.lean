import XmlGraft.Proofs.Path.WellFormed

/-!
# Round trip — a written path reads back as its steps

`parse_print` is the law: a well-formed path can be written, and the text reads back as the same
steps. Three pieces meet in it. The printer writes the spelling of a path's tokens
(`print_eq_spell`); a spelling is cut into the tokens again, since a path never puts two tokens side
by side that would run together (`parts_pathTokens`); and the steps derive from their tokens
(`derives_pathTokens`). Whatever was read is well formed, so it can be written too, and the text is
its own canonical text (`canonical_of_parse`).
-/

namespace XmlGraft.Path

open Text

/-! ## The tokens of a path -/

/-- The tokens of a part. -/
def Part.tokens : Part → List Token
  | .element name => [.name name]
  | .filtered name predicate => .name name :: .openBracket :: predicate.tokens ++ [.closeBracket]
  | .attribute name => [.at, .name name]
  | .position index => [.integer index.toNat]
  | .attributeIs key value => [.at, .name key, .equals, .literal value]
  | .childIs key value => [.name key, .equals, .literal value]

/-- The tokens of a path. -/
def pathTokens (steps : List Part) : List Token :=
  steps.flatMap fun step => .separator :: step.tokens

/-- The text of some tokens written side by side. -/
def spell (tokens : List Token) : String := String.ofList (tokens.flatMap Token.spelling)

theorem spell_append (front back : List Token) :
    spell (front ++ back) = spell front ++ spell back := by
  simp only [spell, List.flatMap_append, String.ofList_append]

/-- The tokens of a predicate are lawful. -/
theorem Part.IsPredicate.lawful {part : Part} (predicate : part.IsPredicate) :
    ∀ token ∈ part.tokens, token.Lawful := by
  cases part with
  | position index =>
    intro token member
    rw [List.mem_singleton.mp member]
    have positive := predicate.1
    have same : index.toNat = index.natAbs := by omega
    simp only [Token.Lawful, same]
    exact predicate.2
  | attributeIs key value =>
    simp only [Part.tokens, List.mem_cons, List.not_mem_nil, or_false]
    rintro token (rfl | rfl | rfl | rfl)
    · exact trivial
    · exact predicate.1
    · exact trivial
    · exact predicate.2
  | childIs key value =>
    simp only [Part.tokens, List.mem_cons, List.not_mem_nil, or_false]
    rintro token (rfl | rfl | rfl)
    · exact predicate.1
    · exact trivial
    · exact predicate.2
  | _ => exact predicate.elim

/-- The tokens of a step are lawful. -/
theorem Part.IsStep.lawful {part : Part} (step : part.IsStep) :
    ∀ token ∈ part.tokens, token.Lawful := by
  cases part with
  | element name =>
    intro token member
    rw [List.mem_singleton.mp member]
    exact step
  | filtered name predicate =>
    simp only [Part.tokens, List.cons_append, List.mem_cons, List.mem_append, List.not_mem_nil,
      or_false]
    rintro token (rfl | rfl | member | rfl)
    · exact step.1
    · exact trivial
    · exact step.2.lawful token member
    · exact trivial
  | «attribute» name =>
    simp only [Part.tokens, List.mem_cons, List.not_mem_nil, or_false]
    rintro token (rfl | rfl)
    · exact trivial
    · exact step
  | _ => exact step.elim

/-- The tokens of a path are lawful. -/
theorem lawful_pathTokens {steps : List Part} (all : ∀ step ∈ steps, step.IsStep) :
    ∀ token ∈ pathTokens steps, token.Lawful := by
  intro token member
  obtain ⟨step, stepIn, member⟩ := List.mem_flatMap.mp member
  rcases List.mem_cons.mp member with rfl | member
  · trivial
  · exact (all step stepIn).lawful token member

/-! ## Printing is spelling -/

theorem spell_cons (token : Token) (tokens : List Token) :
    spell (token :: tokens) = String.ofList token.spelling ++ spell tokens := by
  simp only [spell, List.flatMap_cons, String.ofList_append]

@[simp] theorem spell_nil : spell [] = "" := rfl

/-- A literal is written as its token is spelled. -/
theorem literal_eq_spell {value : String} (lawful : (Token.literal value).Lawful) :
    literal value = .ok (spell [.literal value]) := by
  unfold literal
  split
  next holds =>
    have noSingle : ¬value.toList.contains '\'' = true := fun single =>
      lawful ⟨List.contains_iff_mem.mp holds, List.contains_iff_mem.mp single⟩
    rw [if_neg noSingle]
    refine congrArg Except.ok ?_
    rw [← String.toList_inj]
    simp only [spell, List.flatMap_cons, List.flatMap_nil, List.append_nil, Token.spelling,
      quoteAround, if_pos holds, String.toList_append, String.toList_ofList]
    rfl
  next holdsNot =>
    refine congrArg Except.ok ?_
    rw [← String.toList_inj]
    simp only [spell, List.flatMap_cons, List.flatMap_nil, List.append_nil, Token.spelling,
      quoteAround, if_neg holdsNot, String.toList_append, String.toList_ofList]
    rfl

/-- A predicate is written as its tokens are spelled. -/
theorem Part.IsPredicate.print_eq {part : Part} (predicate : part.IsPredicate) :
    part.print = .ok (spell part.tokens) := by
  cases part with
  | position index =>
    have positive := predicate.1
    have written : Decimal.integer? index = some (spell [.integer index.toNat]) := by
      have same : index.natAbs = index.toNat := by omega
      have notNegative : ¬index < 0 := by omega
      rw [Decimal.integer?, if_pos predicate.2, if_neg notNegative, same]
      simp only [spell, List.flatMap_cons, List.flatMap_nil, List.append_nil, Token.spelling]
    rw [Part.print, positionText, written, Option.elim_some, Part.tokens]
  | attributeIs key value =>
    simp only [Part.print, literal_eq_spell predicate.2, ok_map, Part.tokens, spell_cons]
    refine congrArg Except.ok ?_
    simp only [Token.spelling, String.ofList_toList, String.append_assoc]
  | childIs key value =>
    simp only [Part.print, literal_eq_spell predicate.2, ok_map, Part.tokens, spell_cons]
    refine congrArg Except.ok ?_
    simp only [Token.spelling, String.ofList_toList, String.append_assoc]
  | _ => exact predicate.elim

/-- A step is written as its tokens are spelled. -/
theorem Part.IsStep.print_eq {part : Part} (step : part.IsStep) :
    part.print = .ok (spell part.tokens) := by
  cases part with
  | element name =>
    simp only [Part.print, Part.tokens, spell_cons, spell_nil, Token.spelling, String.ofList_toList,
      String.append_empty]
  | filtered name predicate =>
    simp only [Part.print, step.2.print_eq, ok_map, Part.tokens, List.cons_append, spell_cons,
      spell_append, Token.spelling, String.ofList_toList, spell_nil, String.append_empty]
    refine congrArg Except.ok ?_
    simp only [String.append_assoc]
  | «attribute» name =>
    simp only [Part.print, Part.tokens, spell_cons, spell_nil, Token.spelling, String.ofList_toList,
      String.append_empty]
  | _ => exact step.elim

/-- A path is written as its tokens are spelled. -/
theorem print_eq_spell {steps : List Part} (all : ∀ step ∈ steps, step.IsStep) :
    print steps = .ok (spell (pathTokens steps)) := by
  induction steps with
  | nil => rfl
  | cons step rest ih =>
    have printed := (all step List.mem_cons_self).print_eq
    have others := ih fun other member => all other (List.mem_cons_of_mem step member)
    simp only [print, printed, others, ok_bind, pathTokens, List.flatMap_cons, List.cons_append,
      spell_cons, spell_append, String.append_assoc]
    rfl

/-! ## The tokens of a path come apart -/

/-- Every token ends before a bracket or a sign of equality. -/
theorem Token.ends_before {token mark : Token} (isMark : mark = .openBracket ∨
    mark = .closeBracket ∨ mark = .equals) (tokens : List Token) :
    token.Ends ((mark :: tokens).flatMap Token.spelling) := by
  rcases isMark with rfl | rfl | rfl
  · exact ends_of_head (c := '[') (fun d member => (Option.some.inj member).symm) rfl rfl
  · exact ends_of_head (c := ']') (fun d member => (Option.some.inj member).symm) rfl rfl
  · exact ends_of_head (c := '=') (fun d member => (Option.some.inj member).symm) rfl rfl

/-- Every token ends before the rest of a path, which is a separator if anything. -/
theorem Token.ends_before_path {token : Token} (steps : List Part) :
    token.Ends ((pathTokens steps).flatMap Token.spelling) := by
  refine ends_of_head (c := '/') ?_ rfl rfl
  cases steps with
  | nil => exact fun _ member => nomatch member
  | cons step rest => exact fun _ member => (Option.some.inj member).symm

/-- The tokens of a predicate come apart before its closing bracket. -/
theorem parts_predicate {part : Part} (predicate : part.IsPredicate) {tokens : List Token}
    (parts : Token.Parts tokens) : Token.Parts (part.tokens ++ .closeBracket :: tokens) := by
  cases part with
  | position index => exact ⟨Token.ends_before (Or.inr (Or.inl rfl)) tokens, trivial, parts⟩
  | attributeIs key value =>
    exact ⟨trivial, Token.ends_before (Or.inr (Or.inr rfl)) _, trivial, trivial, trivial, parts⟩
  | childIs key value =>
    exact ⟨Token.ends_before (Or.inr (Or.inr rfl)) _, trivial, trivial, trivial, parts⟩
  | _ => exact predicate.elim

/-- The tokens of a step come apart before the rest of a path. -/
theorem parts_step {part : Part} (step : part.IsStep) {steps : List Part}
    (parts : Token.Parts (pathTokens steps)) : Token.Parts (part.tokens ++ pathTokens steps) := by
  cases part with
  | element name => exact ⟨Token.ends_before_path steps, parts⟩
  | filtered name predicate =>
    simp only [Part.tokens, List.cons_append, List.append_assoc, List.nil_append]
    exact ⟨Token.ends_before (Or.inl rfl) _, trivial, parts_predicate step.2 parts⟩
  | «attribute» name => exact ⟨trivial, Token.ends_before_path steps, parts⟩
  | _ => exact step.elim

/-- The tokens of a path come apart. -/
theorem parts_pathTokens {steps : List Part} (all : ∀ step ∈ steps, step.IsStep) :
    Token.Parts (pathTokens steps) := by
  induction steps with
  | nil => trivial
  | cons step rest ih =>
    have others := ih fun other member => all other (List.mem_cons_of_mem step member)
    exact ⟨trivial, parts_step (all step List.mem_cons_self) others⟩

/-! ## Reading the tokens of a path -/

/-- A predicate derives from its tokens. -/
theorem Part.IsPredicate.derives {part : Part} (predicate : part.IsPredicate) :
    DerivesPredicate part.tokens part := by
  cases part with
  | position index =>
    have positive := predicate.1
    have counted : 1 ≤ index.toNat := by omega
    have same : (index.toNat : Int) = index := by omega
    have derives := DerivesPredicate.position counted
    rw [same] at derives
    exact derives
  | attributeIs key value => exact .attributeIs key value
  | childIs key value => exact .childIs key value
  | _ => exact predicate.elim

/-- A step derives from its tokens. -/
theorem Part.IsStep.derives {part : Part} (step : part.IsStep) :
    DerivesStep part.tokens part := by
  cases part with
  | element name => exact .element name
  | filtered name predicate => exact .filtered name step.2.derives
  | «attribute» name => exact .attribute name
  | _ => exact step.elim

/-- A path derives from its tokens. -/
theorem derives_pathTokens {steps : List Part} (nonempty : steps ≠ [])
    (all : ∀ step ∈ steps, step.IsStep) : DerivesPath (pathTokens steps) steps := by
  induction steps with
  | nil => exact absurd rfl nonempty
  | cons step rest ih =>
    have first := (all step List.mem_cons_self).derives
    rw [pathTokens, List.flatMap_cons]
    cases rest with
    | nil =>
      rw [List.flatMap_nil, List.append_nil]
      exact .last first
    | cons next more =>
      refine .more first (ih (List.cons_ne_nil next more) fun other member => ?_)
      exact all other (List.mem_cons_of_mem step member)

/-- A well-formed path can be written, and reads back as its steps. -/
theorem parse_print {steps : List Part} (path : WellFormed steps) :
    ∃ text, print steps = .ok text ∧ parse text = .ok steps := by
  obtain ⟨nonempty, all, last⟩ := wellFormed_iff.mp path
  refine ⟨spell (pathTokens steps), print_eq_spell all, ?_⟩
  have spells : (spell (pathTokens steps)).toList = (pathTokens steps).flatMap Token.spelling :=
    String.toList_ofList
  have begins : (spell (pathTokens steps)).toList.head? = some '/' := by
    cases steps with
    | nil => exact absurd rfl nonempty
    | cons step rest => exact congrArg List.head? String.toList_ofList
  obtain ⟨lexemes, cuts, same⟩ := cuts_spelling (lawful_pathTokens all) (parts_pathTokens all) 0
  rw [← spells] at cuts
  refine parse_eq_ok_iff.mpr ⟨begins, ⟨lexemes, cuts, ?_⟩, attributesLast_iff.mp last⟩
  rw [same]
  exact derives_pathTokens nonempty all

/-! ## The canonical text -/

/-- The canonical text of a path reads back as the same steps, and is its own canonical text. -/
theorem canonical_of_parse {expression : String} {steps : List Part}
    (parsed : parse expression = .ok steps) :
    ∃ text, canonical expression = .ok text ∧ parse text = .ok steps ∧
      canonical text = .ok text := by
  obtain ⟨text, printed, again⟩ := parse_print (wellFormed_of_parse parsed)
  refine ⟨text, ?_, again, ?_⟩
  · rw [canonical, parsed, ok_bind, printed]
  · rw [canonical, again, ok_bind, printed]

/-- The well-formed paths are the steps that can be written and read back. Whatever is read is
well formed, and its canonical text is the same however often it is taken. -/
theorem print_parse_inverse :
    (∀ steps, WellFormed steps ↔ ∃ text, print steps = .ok text ∧ parse text = .ok steps) ∧
      ∀ expression steps, parse expression = .ok steps → WellFormed steps ∧
        ∃ text, canonical expression = .ok text ∧ parse text = .ok steps ∧
          canonical text = .ok text := by
  constructor
  · intro steps
    constructor
    · exact parse_print
    · rintro ⟨text, _, parsed⟩
      exact wellFormed_of_parse parsed
  · intro expression steps parsed
    exact ⟨wellFormed_of_parse parsed, canonical_of_parse parsed⟩

/-- A literal with one kind of quote, a blank before a bracket and an attribute step: the text that
is written has the other kind of quote and no blank. -/
theorem print_parse_inverse_quoted :
    WellFormed [.filtered "a" (.childIs "k" "x\"]"), .attribute "c"] ∧
      parse "/a [k = 'x\"]']/@c" = .ok [.filtered "a" (.childIs "k" "x\"]"), .attribute "c"] ∧
      canonical "/a [k = 'x\"]']/@c" = .ok "/a[k='x\"]']/@c" ∧
      canonical "/a[k='x\"]']/@c" = .ok "/a[k='x\"]']/@c" := by
  have parsed : parse "/a [k = 'x\"]']/@c" =
      .ok [.filtered "a" (.childIs "k" "x\"]"), .attribute "c"] := rfl
  have written : canonical "/a [k = 'x\"]']/@c" = .ok "/a[k='x\"]']/@c" := rfl
  obtain ⟨wellFormed, text, canonical, _, again⟩ := print_parse_inverse.2 _ _ parsed
  rw [written] at canonical
  cases canonical
  exact ⟨wellFormed, parsed, written, again⟩

end XmlGraft.Path
