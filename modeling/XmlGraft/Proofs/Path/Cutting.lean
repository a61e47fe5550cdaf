import XmlGraft.Proofs.Path.Written

/-!
# Cutting — how an expression falls into tokens

An expression is *cut* (`Cuts`) by passing over blanks and taking, where no blank stands, the
longest token that begins there. The cut *stops* (`Stops`) at the end of the expression, where no
token begins, or at a number that has too many digits to be read. Cutting and stopping determine the
tokens and the fault, and the scan finds just these (`scan_eq_iff`).
-/

namespace XmlGraft.Path

open Text

/-- Tokens cut off the front of some characters that stand at an offset, and what is left of them.
-/
inductive Cuts : Nat → List Char → List Lexeme → List Char → Prop
  | stop (offset : Nat) (rest : List Char) : Cuts offset rest [] rest
  | blank {offset : Nat} {c : Char} {cs rest : List Char} {lexemes : List Lexeme}
    (isBlank : isBlank c = true) (later : Cuts (offset + 1) cs lexemes rest) :
    Cuts offset (c :: cs) lexemes rest
  | token {offset : Nat} {token : Token} {text after rest : List Char} {lexemes : List Lexeme}
    (written : token.Written text) (longest : Longest text after) (readable : token.Readable text)
    (later : Cuts (offset + text.length) after lexemes rest) :
    Cuts offset (text ++ after) (⟨token, offset⟩ :: lexemes) rest

/-- Where a cut stops, and the fault found there. -/
inductive Stops : List Char → Option Fault → Prop
  | done : Stops [] none
  | unknown {c : Char} {cs : List Char} (notBlank : isBlank c = false) (none : NoToken (c :: cs)) :
    Stops (c :: cs) (some (.unknownText (String.ofList (c :: cs))))
  | long {token : Token} {text rest : List Char} (written : token.Written text)
    (longest : Longest text rest) (long : ¬token.Readable text) :
    Stops (text ++ rest) (some (.longNumeral text.length))

/-! ## The scan cuts -/

/-- As many rounds as characters cut them up to where the cut stops. -/
theorem cuts_scanFrom {rounds offset : Nat} {cs : List Char} (enough : cs.length ≤ rounds) :
    ∃ rest, Cuts offset cs (scanFrom rounds offset cs).lexemes rest ∧
      Stops rest (scanFrom rounds offset cs).fault := by
  induction rounds generalizing offset cs with
  | zero =>
    obtain rfl := List.eq_nil_of_length_eq_zero (Nat.le_zero.mp enough)
    exact ⟨[], .stop offset [], .done⟩
  | succ rounds ih =>
    cases cs with
    | nil => exact ⟨[], .stop offset [], .done⟩
    | cons c cs =>
      have fewer : cs.length ≤ rounds := Nat.le_of_succ_le_succ enough
      rw [scanFrom]
      by_cases blank : isBlank c = true
      · rw [if_pos blank]
        obtain ⟨rest, cuts, stops⟩ := ih fewer
        exact ⟨rest, .blank blank cuts, stops⟩
      rw [if_neg blank]
      rcases begins_cases (c :: cs) with none | ⟨token, text, rest, stands, written, longest⟩
      · rw [read_of_no_token none]
        exact ⟨c :: cs, .stop offset _, .unknown (Bool.eq_false_iff.mpr blank) none⟩
      rw [read_of_longest written longest stands, ← stands]
      by_cases readable : token.Readable text
      · -- a token takes at least one character, so the rounds left are enough for the rest
        have shorter : rest.length ≤ rounds := by
          obtain ⟨first, more, rfl, _⟩ := written.cons
          have whole := congrArg List.length stands
          simp only [List.length_append, List.length_cons] at whole
          omega
        obtain ⟨left, cuts, stops⟩ := @ih (offset + text.length) rest shorter
        rw [readable.reading_eq]
        exact ⟨left, .token written longest readable cuts, stops⟩
      · rw [reading_of_not_readable readable]
        exact ⟨text ++ rest, .stop offset _, .long written longest readable⟩

/-! ## A cut is what the scan finds -/

/-- While characters are left there is a round for the first of them. -/
theorem exists_round {c : Char} {cs : List Char} {rounds : Nat}
    (enough : (c :: cs).length ≤ rounds) : ∃ fewer, rounds = fewer + 1 ∧ cs.length ≤ fewer := by
  cases rounds with
  | zero => cases enough
  | succ fewer => exact ⟨fewer, rfl, Nat.le_of_succ_le_succ enough⟩

/-- Where a cut stops the scan finds the fault and no token. -/
theorem scanFrom_of_stops {rest : List Char} {fault : Option Fault} (stops : Stops rest fault)
    {rounds : Nat} (enough : rest.length ≤ rounds) (offset : Nat) :
    scanFrom rounds offset rest = ⟨[], fault⟩ := by
  cases stops with
  | done => cases rounds <;> rfl
  | unknown notBlank none =>
    obtain ⟨fewer, rfl, _⟩ := exists_round enough
    simp only [scanFrom, notBlank, Bool.false_eq_true, if_false, read_of_no_token none]
  | @long token text rest written longest long =>
    obtain ⟨c, more, rfl, notBlank⟩ := written.cons
    have read : Token.read c (more ++ rest) = .error (.longNumeral (c :: more).length) := by
      rw [read_of_longest written longest List.cons_append, reading_of_not_readable long]
    rw [List.cons_append] at enough ⊢
    obtain ⟨fewer, rfl, _⟩ := exists_round enough
    simp only [scanFrom, notBlank, Bool.false_eq_true, if_false, read]

/-- The scan finds the tokens of a cut, and the fault where it stops. -/
theorem scanFrom_of_cuts {offset : Nat} {cs rest : List Char} {lexemes : List Lexeme}
    {fault : Option Fault} (cuts : Cuts offset cs lexemes rest) (stops : Stops rest fault)
    {rounds : Nat} (enough : cs.length ≤ rounds) :
    scanFrom rounds offset cs = ⟨lexemes, fault⟩ := by
  induction cuts generalizing rounds with
  | stop offset rest => exact scanFrom_of_stops stops enough offset
  | blank isBlank later ih =>
    obtain ⟨fewer, rfl, enoughLater⟩ := exists_round enough
    simp only [scanFrom, isBlank, if_true]
    exact ih stops enoughLater
  | @token offset token text after rest lexemes written longest readable later ih =>
    obtain ⟨c, more, rfl, notBlank⟩ := written.cons
    have read : Token.read c (more ++ after) = .ok (token, (c :: more).length, after) := by
      rw [read_of_longest written longest List.cons_append, readable.reading_eq]
    rw [List.cons_append] at enough ⊢
    obtain ⟨fewer, rfl, enoughLater⟩ := exists_round enough
    rw [List.length_append] at enoughLater
    have others := ih stops (Nat.le_trans (Nat.le_add_left _ _) enoughLater)
    simp only [scanFrom, notBlank, Bool.false_eq_true, if_false, read, others]
    rfl

/-- The scan of an expression is its cut: the tokens up to where it stops, and the fault there. -/
theorem scan_eq_iff {expression : String} {s : Scan} :
    scan expression = s ↔
      ∃ rest, Cuts 0 expression.toList s.lexemes rest ∧ Stops rest s.fault := by
  have enough : expression.toList.length ≤ expression.length :=
    Nat.le_of_eq String.length_toList
  constructor
  · rintro rfl
    exact cuts_scanFrom enough
  · rintro ⟨rest, cuts, stops⟩
    exact scanFrom_of_cuts cuts stops enough

/-- Every token of a cut is written with some text and readable with it. -/
theorem Cuts.written {offset : Nat} {cs rest : List Char} {lexemes : List Lexeme}
    (cuts : Cuts offset cs lexemes rest) :
    ∀ lexeme ∈ lexemes, ∃ text, lexeme.token.Written text ∧ lexeme.token.Readable text := by
  induction cuts with
  | stop => exact fun _ member => absurd member List.not_mem_nil
  | blank _ _ ih => exact ih
  | token written _ readable _ ih =>
    intro lexeme member
    rcases List.mem_cons.mp member with rfl | member
    · exact ⟨_, written, readable⟩
    · exact ih lexeme member

end XmlGraft.Path
