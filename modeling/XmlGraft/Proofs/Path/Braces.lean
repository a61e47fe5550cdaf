import XmlGraft.Proofs.Path.Acceptance
import XmlGraft.Proofs.Path.Spelling

/-!
# Braces — no path holds a brace outside a literal

A namespace is given in braces, and the path language has none: an opening brace begins no token and
stands inside none but a literal. So an expression in which one stands before any quote is not a
path, whatever follows (`parse_brace_ne_ok`).
-/

namespace XmlGraft.Path

open Text

/-- Whether a character is neither a quote nor an opening brace. -/
def isFlat (c : Char) : Bool := c ≠ '"' && c ≠ '\'' && c ≠ '\x7b'

/-- A flat character is no quote. -/
theorem not_isFlat_of_quote {c : Char} (kind : c = '"' ∨ c = '\'') : ¬isFlat c = true := by
  rcases kind with rfl | rfl
  · decide
  · decide

/-- What is true of a class with neither quotes nor braces is true of flat characters. -/
theorem isFlat_of_class {p : Char → Bool} (doubled : p '"' = false) (single : p '\'' = false)
    (brace : p '\x7b' = false) {c : Char} (inside : p c = true) : isFlat c = true := by
  have other : ∀ d, p d = false → c ≠ d := by
    rintro d outside rfl
    rw [inside] at outside
    cases outside
  simp [isFlat, other _ doubled, other _ single, other _ brace]

/-- Names are flat. -/
theorem isFlat_of_isNCName {text : List Char} (isName : isNCName text = true) :
    text.all isFlat = true := by
  obtain ⟨c, rest, rfl, start, others⟩ := isNCName_eq_true_iff.mp isName
  have inName : ∀ d ∈ c :: rest, isNameChar d = true := by
    refine List.forall_mem_cons.mpr ⟨?_, others⟩
    rw [isNameChar, start, Bool.true_or]
  exact List.all_eq_true.mpr fun d member =>
    isFlat_of_class (by decide) (by decide) (by decide) (inName d member)

/-- Numerals are flat. -/
theorem isFlat_of_isDigit {text : List Char} (digits : ∀ c ∈ text, isDigit c = true) :
    text.all isFlat = true :=
  List.all_eq_true.mpr fun c member =>
    isFlat_of_class (by decide) (by decide) (by decide) (digits c member)

/-- A token that is no literal is flat. A literal begins with a quote. -/
theorem Token.Written.flat {token : Token} {text : List Char} (written : token.Written text) :
    text.all isFlat = true ∨ ∃ quote rest, text = quote :: rest ∧ (quote = '"' ∨ quote = '\'') := by
  cases written with
  | literal kind _ => exact .inr ⟨_, _, rfl, kind⟩
  | integer _ digits => exact .inl (isFlat_of_isDigit digits)
  | name isName => exact .inl (isFlat_of_isNCName isName)
  | _ => exact .inl rfl

/-- A cut of all of an expression leaves no brace behind flat characters. -/
theorem Cuts.not_brace {offset : Nat} {cs : List Char} {lexemes : List Lexeme}
    (cuts : Cuts offset cs lexemes []) {front more : List Char} (flat : front.all isFlat = true) :
    cs ≠ front ++ '\x7b' :: more := by
  generalize ended : ([] : List Char) = rest at cuts
  induction cuts generalizing front with
  | stop =>
    subst ended
    exact (List.append_ne_nil_of_right_ne_nil front (List.cons_ne_nil _ more)).symm
  | @blank offset c cs rest lexemes isBlank later ih =>
    cases front with
    | nil =>
      intro same
      cases same
      cases isBlank
    | cons first others =>
      intro same
      simp only [List.all_cons, Bool.and_eq_true] at flat
      exact ih flat.2 ended (List.cons.inj same).2
  | @token offset token text after rest lexemes written _ _ later ih =>
    intro same
    rcases List.append_eq_append_iff.mp same with ⟨others, rfl, behind⟩ | ⟨inside, rfl, behind⟩
    · -- the brace is behind this token
      rw [List.all_append, Bool.and_eq_true] at flat
      exact ih flat.2 ended behind
    · cases inside with
      | nil =>
        have flat : ([] : List Char).all isFlat = true := rfl
        exact ih flat ended behind.symm
      | cons c inside =>
        obtain ⟨rfl, -⟩ := List.cons.inj behind
        rcases written.flat with flat | ⟨quote, rest, begins, kind⟩
        · rw [List.all_append, Bool.and_eq_true, List.all_cons, Bool.and_eq_true] at flat
          exact absurd flat.2.1 (by decide)
        · cases front with
          | nil =>
            obtain ⟨rfl, -⟩ := List.cons.inj begins
            rcases kind with kind | kind
            · cases kind
            · cases kind
          | cons first others =>
            obtain ⟨rfl, -⟩ := List.cons.inj begins
            simp only [List.all_cons, Bool.and_eq_true] at flat
            exact not_isFlat_of_quote kind flat.1

/-- An expression with a brace behind flat characters is no path. -/
theorem parse_brace_ne_ok {expression : String} {front more : List Char}
    (spelled : expression.toList = front ++ '\x7b' :: more) (flat : front.all isFlat = true)
    (steps : List Part) : parse expression ≠ .ok steps := by
  intro parsed
  obtain ⟨lexemes, cuts, _⟩ := (parse_eq_ok_iff.mp parsed).derives
  exact cuts.not_brace flat spelled

end XmlGraft.Path
