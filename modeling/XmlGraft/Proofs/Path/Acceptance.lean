import XmlGraft.Proofs.Path.Cutting
import XmlGraft.Proofs.Path.Derivation

/-!
# Acceptance — which expressions are paths

An expression is a path (`IsPath`) if it begins with `/`, is cut into tokens that the grammar
derives, and has its attribute steps where a path can use them. It meets a numeral that is too long
(`MeetsLongNumeral`) if it begins with `/` and, after tokens that a path begins with, the longest
token at some place is a number with more digits than are ever read. The reader gives the steps of
the one, the length of the other, and refuses every other expression as no path at all
(`parse_trichotomy`).
-/

namespace XmlGraft.Path

/-! ## Where attribute steps stand -/

/-- An attribute step is the last step and not the only one. -/
def AttributesAtEnd (steps : List Part) : Prop :=
  ∀ front name back, steps = front ++ .attribute name :: back → front ≠ [] ∧ back = []

/-- Only the last step may be an attribute step if nothing stands after one. -/
theorem dropLast_all_iff {steps : List Part} :
    steps.dropLast.all (fun part => !part.isAttribute) = true ↔
      ∀ front name back, steps = front ++ .attribute name :: back → back = [] := by
  rw [List.all_eq_true]
  constructor
  · rintro elements front name back rfl
    by_contra after
    have inFront : Part.attribute name ∈ (front ++ .attribute name :: back).dropLast := by
      rw [List.dropLast_append_of_ne_nil (List.cons_ne_nil _ back),
        List.dropLast_cons_of_ne_nil after]
      exact List.mem_append_right front List.mem_cons_self
    cases elements _ inFront
  · intro nothingAfter part member
    cases part with
    | «attribute» name =>
      -- the last step of all would stand after it
      obtain ⟨front, back, stands⟩ := List.append_of_mem member
      have nonempty : steps ≠ [] := by
        rintro rfl
        cases member
      have whole := List.dropLast_concat_getLast nonempty
      rw [stands, List.append_assoc, List.cons_append] at whole
      exact absurd (nothingAfter _ _ _ whole.symm) (List.append_ne_nil_of_right_ne_nil back
        (List.cons_ne_nil _ []))
    | _ => rfl

/-- The check on attribute steps is that they stand at the end, and not alone. -/
theorem attributesLast_iff {steps : List Part} :
    attributesLast steps = true ↔ AttributesAtEnd steps := by
  rcases steps with _ | ⟨step, _ | ⟨next, rest⟩⟩
  · apply iff_of_true rfl
    intro front name back empty
    exact absurd empty.symm (List.append_ne_nil_of_right_ne_nil front (List.cons_ne_nil _ back))
  · simp only [attributesLast, Bool.not_eq_true']
    constructor
    · intro element front name back alone
      cases front with
      | nil =>
        cases alone
        cases element
      | cons first front =>
        have nothing := (List.cons.inj alone).2.symm
        exact absurd nothing
          (List.append_ne_nil_of_right_ne_nil front (List.cons_ne_nil _ back))
    · intro atEnd
      cases step with
      | «attribute» name => exact absurd rfl (atEnd [] name [] rfl).1
      | _ => rfl
  · show (step :: next :: rest).dropLast.all (fun part => !part.isAttribute) = true ↔ _
    rw [dropLast_all_iff]
    constructor
    · intro nothingAfter front name back stands
      have last := nothingAfter front name back stands
      refine ⟨?_, last⟩
      rintro rfl
      rw [last] at stands
      cases stands
    · exact fun atEnd front name back stands => (atEnd front name back stands).2

/-! ## The bare grammar -/

/-- The bare grammar reads what is cut into the tokens of a path, to its end. -/
theorem parseSteps_eq_ok_iff {expression : String} {steps : List Part} :
    parseSteps expression = .ok steps ↔
      ∃ lexemes, Cuts 0 expression.toList lexemes [] ∧
        DerivesPath (lexemes.map Lexeme.token) steps := by
  rw [parseSteps, run_start_eq_ok_iff]
  constructor
  · rintro ⟨noFault, derives⟩
    obtain ⟨rest, cuts, stops⟩ := scan_eq_iff.mp (rfl : scan expression = _)
    rw [noFault] at stops
    cases stops
    exact ⟨_, cuts, derives⟩
  · rintro ⟨lexemes, cuts, derives⟩
    rw [scan_eq_iff (s := ⟨lexemes, none⟩) |>.mpr ⟨[], cuts, .done⟩]
    exact ⟨rfl, derives⟩

/-- A numeral that is too long stands in an expression after tokens that a path begins with. -/
def LongNumeralAfter (expression : String) (lexemes : List Lexeme) (digits : Nat) : Prop :=
  ∃ value text rest, Cuts 0 expression.toList lexemes (text ++ rest) ∧
    Token.Written (.integer value) text ∧ Longest text rest ∧ text.length = digits ∧
      Decimal.digitLimit < digits

/-- The bare grammar stops at a numeral that is too long after tokens that a path begins with. -/
theorem parseSteps_eq_longNumeral_iff {expression : String} {digits : Nat} :
    parseSteps expression = .error (.longNumeral digits) ↔
      ∃ lexemes, LongNumeralAfter expression lexemes digits ∧
        Viable (lexemes.map Lexeme.token) := by
  rw [parseSteps, run_start_eq_longNumeral_iff]
  constructor
  · rintro ⟨faulty, viable⟩
    obtain ⟨rest, cuts, stops⟩ := scan_eq_iff.mp (rfl : scan expression = _)
    rw [faulty] at stops
    cases stops with
    | @long token text rest written longest long =>
      refine ⟨_, ?_, viable⟩
      cases token with
      | integer value =>
        exact ⟨value, text, rest, cuts, written, longest, rfl, Nat.lt_of_not_le long⟩
      | _ => exact absurd trivial long
  · rintro ⟨lexemes, ⟨value, text, rest, cuts, written, longest, rfl, long⟩, viable⟩
    have stops := Stops.long written longest (Nat.not_le_of_lt long)
    rw [scan_eq_iff (s := ⟨lexemes, _⟩) |>.mpr ⟨_, cuts, stops⟩]
    exact ⟨rfl, viable⟩

/-! ## Paths -/

/-- The expression is a path of some steps. -/
structure IsPath (expression : String) (steps : List Part) : Prop where
  /-- It begins with a separator, not with a blank. -/
  begins : expression.toList.head? = some '/'
  /-- Its tokens, the longest at each place, derive the steps. -/
  derives : ∃ lexemes, Cuts 0 expression.toList lexemes [] ∧
    DerivesPath (lexemes.map Lexeme.token) steps
  /-- An attribute step is the last and not the only one. -/
  attributes : AttributesAtEnd steps

/-- The expression has a numeral of some digits, too many to be read, and nothing before it is
wrong. -/
structure MeetsLongNumeral (expression : String) (digits : Nat) : Prop where
  /-- It begins with a separator, not with a blank. -/
  begins : expression.toList.head? = some '/'
  /-- A path begins with the tokens before the numeral. -/
  viable : ∃ lexemes, LongNumeralAfter expression lexemes digits ∧ Viable (lexemes.map Lexeme.token)

/-- A path is read as its steps. -/
theorem IsPath.parse_eq {expression : String} {steps : List Part}
    (path : IsPath expression steps) : parse expression = .ok steps := by
  obtain ⟨rest, begins⟩ := List.head?_eq_some_iff.mp path.begins
  simp only [parse, begins, parseSteps_eq_ok_iff.mpr path.derives,
    attributesLast_iff.mpr path.attributes, if_true]

/-- A numeral that is too long is found if nothing before it is wrong. -/
theorem MeetsLongNumeral.parse_eq {expression : String} {digits : Nat}
    (long : MeetsLongNumeral expression digits) :
    parse expression = .error (.longNumeral digits) := by
  obtain ⟨rest, begins⟩ := List.head?_eq_some_iff.mp long.begins
  simp only [parse, begins, parseSteps_eq_longNumeral_iff.mpr long.viable]

/-- The reader gives the steps of a path, or finds a numeral too long, or refuses the expression as
no path. -/
theorem parse_cases (expression : String) :
    (∃ steps, parse expression = .ok steps ∧ IsPath expression steps) ∨
      (∃ digits, parse expression = .error (.longNumeral digits) ∧
        MeetsLongNumeral expression digits) ∨
      parse expression = .error (.invalidPath expression) := by
  unfold parse
  split
  · next rest begins =>
    have first : expression.toList.head? = some '/' := List.head?_eq_some_iff.mpr ⟨rest, begins⟩
    split
    · next steps read =>
      split
      · next last =>
        have derives := parseSteps_eq_ok_iff.mp read
        exact .inl ⟨steps, rfl, first, derives, attributesLast_iff.mp last⟩
      · exact .inr (.inr rfl)
    · next digits read =>
      exact .inr (.inl ⟨digits, rfl, first, parseSteps_eq_longNumeral_iff.mp read⟩)
    · exact .inr (.inr rfl)
  · exact .inr (.inr rfl)

/-- The reader gives the steps of a path, and of nothing else. -/
theorem parse_eq_ok_iff {expression : String} {steps : List Part} :
    parse expression = .ok steps ↔ IsPath expression steps := by
  constructor
  · intro parsed
    rcases parse_cases expression with ⟨_, found, path⟩ | ⟨_, found, _⟩ | found
    all_goals
      rw [parsed] at found
      cases found
    exact path
  · exact IsPath.parse_eq

/-- The reader finds a numeral too long where nothing before it is wrong, and nowhere else. -/
theorem parse_eq_longNumeral_iff {expression : String} {digits : Nat} :
    parse expression = .error (.longNumeral digits) ↔ MeetsLongNumeral expression digits := by
  constructor
  · intro parsed
    rcases parse_cases expression with ⟨_, found, _⟩ | ⟨_, found, long⟩ | found
    all_goals
      rw [parsed] at found
      cases found
    exact long
  · exact MeetsLongNumeral.parse_eq

/-- The reader gives exactly the paths their steps, finds a numeral too long exactly where nothing
before it is wrong, and refuses exactly the rest as no path. -/
theorem parse_trichotomy (expression : String) :
    (∀ steps, parse expression = .ok steps ↔ IsPath expression steps) ∧
      (∀ digits, parse expression = .error (.longNumeral digits) ↔
        MeetsLongNumeral expression digits) ∧
      (parse expression = .error (.invalidPath expression) ↔
        (∀ steps, ¬IsPath expression steps) ∧ ∀ digits, ¬MeetsLongNumeral expression digits) := by
  refine ⟨fun steps => parse_eq_ok_iff, fun digits => parse_eq_longNumeral_iff, ?_⟩
  constructor
  · intro refused
    constructor
    · intro steps path
      rw [parse_eq_ok_iff.mpr path] at refused
      cases refused
    · intro digits long
      rw [parse_eq_longNumeral_iff.mpr long] at refused
      cases refused
  · rintro ⟨noPath, noLong⟩
    rcases parse_cases expression with ⟨steps, _, path⟩ | ⟨digits, _, long⟩ | refused
    · exact absurd path (noPath steps)
    · exact absurd long (noLong digits)
    · exact refused

/-- Blanks, leading zeros and the other kind of quote do not keep an expression from being a path; a
position of zero does. -/
theorem parse_trichotomy_spacious :
    IsPath "/a\t[ 01 ] / b[@k='\"']/@c " [.filtered "a" (.position 1),
      .filtered "b" (.attributeIs "k" "\""), .attribute "c"] ∧
      ∀ steps, ¬IsPath "/a[0]/b" steps :=
  ⟨((parse_trichotomy _).1 _).mp rfl, ((parse_trichotomy _).2.2.mp rfl).1⟩

end XmlGraft.Path
