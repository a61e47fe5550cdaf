import XmlGraft.Proofs.Path.Cutting

/-!
# Spelling — what is written without blanks is cut into the same tokens

A token has one spelling here: a mark is its character, a literal stands between double quotes
unless it holds one, a number has no leading zeros, a name is itself. Written side by side, tokens
come apart again where no token is continued by the next (`Token.Parts`), and then the text is cut
into exactly them (`cuts_spelling`).

In the other direction, the tokens of a cut are always lawful (`Cuts.lawful`): a name is a name
without a colon, a number is short enough to be written again, and a literal holds not both quotes.
-/

namespace XmlGraft.Path

open Text

/-! ## Lawful tokens and how they are written -/

/-- What a token must be for a text to hold it. -/
def Token.Lawful : Token → Prop
  | .literal value => ¬('"' ∈ value.toList ∧ '\'' ∈ value.toList)
  | .integer value => value < Decimal.integerLimit
  | .name text => isNCName text.toList = true
  | _ => True

/-- The quote that a literal is written between. -/
def quoteAround (value : String) : Char := if value.toList.contains '"' then '\'' else '"'

/-- The characters of a token as it is written. -/
def Token.spelling : Token → List Char
  | .separator => ['/']
  | .at => ['@']
  | .openBracket => ['[']
  | .closeBracket => [']']
  | .equals => ['=']
  | .literal value => quoteAround value :: value.toList ++ [quoteAround value]
  | .integer value => Decimal.decimalDigits value
  | .name text => text.toList

/-- Tokens that come apart where they are written side by side. -/
def Token.Parts : List Token → Prop
  | [] => True
  | token :: rest => token.Ends (rest.flatMap Token.spelling) ∧ Token.Parts rest

/-! ## Digits -/

/-- The digits of a number are digits. -/
theorem isDigit_of_mem_decimalDigits {n : Nat} {c : Char} (member : c ∈ Decimal.decimalDigits n) :
    isDigit c = true := by
  have digit := Nat.isDigit_of_mem_toDigits (by decide) (by decide) member
  simp only [Char.isDigit, Bool.and_eq_true, decide_eq_true_eq] at digit
  simp only [isDigit, Bool.and_eq_true, decide_eq_true_eq]
  exact digit

/-- The digits of a number denote it. -/
theorem digitsValue_decimalDigits (n : Nat) : digitsValue (Decimal.decimalDigits n) = n :=
  Nat.ofDigitChars_ten_toDigits

/-- A number is written with as many digits as are ever read just when it is below the limit. -/
theorem length_decimalDigits_le_iff {n : Nat} :
    (Decimal.decimalDigits n).length ≤ Decimal.digitLimit ↔ n < Decimal.integerLimit := by
  have atMost : ∀ limit, 0 < limit →
      ((Decimal.decimalDigits n).length ≤ limit ↔ n < Nat.pow 10 limit) :=
    fun _ positive => Nat.length_toDigits_le_iff (by decide) positive
  unfold Decimal.integerLimit
  exact atMost Decimal.digitLimit (by decide)

/-- A run of digits denotes a number with at most as many digits. -/
theorem digitsValue_lt {digits : List Char} (all : ∀ c ∈ digits, isDigit c = true) :
    digitsValue digits < Nat.pow 10 digits.length := by
  have bound : ∀ (digits : List Char) (start : Nat), (∀ c ∈ digits, isDigit c = true) →
      digits.foldl (fun value c => 10 * value + (c.toNat - '0'.toNat)) start <
        (start + 1) * Nat.pow 10 digits.length := by
    intro digits
    induction digits with
    | nil =>
      intro start _
      show start < (start + 1) * 1
      omega
    | cons c digits ih =>
      intro start all
      have digit := all c List.mem_cons_self
      simp only [isDigit, Bool.and_eq_true, decide_eq_true_eq] at digit
      have high : c.toNat ≤ '9'.toNat := digit.2
      have nine : '9'.toNat = '0'.toNat + 9 := by decide
      have step := ih (10 * start + (c.toNat - '0'.toNat)) fun d member =>
        all d (List.mem_cons_of_mem c member)
      refine Nat.lt_of_lt_of_le step ?_
      show _ ≤ (start + 1) * (Nat.pow 10 digits.length * 10)
      rw [Nat.mul_comm _ 10, ← Nat.mul_assoc]
      exact Nat.mul_le_mul_right _ (by omega)
  have whole := bound digits 0 all
  rw [Nat.zero_add, Nat.one_mul] at whole
  exact whole

/-! ## The scan of a spelling -/

/-- A literal is written between one of the two quotes. -/
theorem quoteAround_eq (value : String) : quoteAround value = '"' ∨ quoteAround value = '\'' := by
  unfold quoteAround
  split
  · exact Or.inr rfl
  · exact Or.inl rfl

/-- A lawful literal is written between quotes that it does not hold. -/
theorem quoteAround_not_mem {value : String} (lawful : (Token.literal value).Lawful) :
    quoteAround value ∉ value.toList := by
  unfold quoteAround
  split
  next double => exact fun single => lawful ⟨List.contains_iff_mem.mp double, single⟩
  next noDouble => exact fun double => noDouble (List.contains_iff_mem.mpr double)

/-- A lawful token is written as it is spelled, and readable so. -/
theorem Token.Lawful.written {token : Token} (lawful : token.Lawful) :
    token.Written token.spelling ∧ token.Readable token.spelling := by
  cases token with
  | separator => exact ⟨.separator, trivial⟩
  | «at» => exact ⟨.at, trivial⟩
  | openBracket => exact ⟨.openBracket, trivial⟩
  | closeBracket => exact ⟨.closeBracket, trivial⟩
  | equals => exact ⟨.equals, trivial⟩
  | literal value =>
    have written := Token.Written.literal (quoteAround_eq value) (quoteAround_not_mem lawful)
    rw [String.ofList_toList] at written
    exact ⟨written, trivial⟩
  | integer value =>
    have digits : Decimal.decimalDigits value ≠ [] := Nat.toDigits_ne_nil
    have written := Token.Written.integer digits fun _ member =>
      isDigit_of_mem_decimalDigits member
    rw [digitsValue_decimalDigits] at written
    exact ⟨written, length_decimalDigits_le_iff.mpr lawful⟩
  | name text =>
    have written := Token.Written.name lawful
    rw [String.ofList_toList] at written
    exact ⟨written, trivial⟩

/-- A spelling is cut into the tokens that were written. -/
theorem cuts_spelling {tokens : List Token} (lawful : ∀ token ∈ tokens, token.Lawful)
    (parts : Token.Parts tokens) (offset : Nat) :
    ∃ lexemes, Cuts offset (tokens.flatMap Token.spelling) lexemes [] ∧
      lexemes.map Lexeme.token = tokens := by
  induction tokens generalizing offset with
  | nil => exact ⟨[], .stop offset [], rfl⟩
  | cons token tokens ih =>
    obtain ⟨written, readable⟩ := (lawful token List.mem_cons_self).written
    obtain ⟨lexemes, cuts, same⟩ :=
      ih (fun other member => lawful other (List.mem_cons_of_mem token member)) parts.2
        (offset + token.spelling.length)
    have longest := written.longest readable parts.1
    refine ⟨⟨token, offset⟩ :: lexemes, .token written longest readable cuts, ?_⟩
    rw [List.map_cons, same]

/-! ## Only lawful tokens are cut -/

/-- A token is lawful if some text is read as it. -/
theorem Token.Written.lawful {token : Token} {text : List Char} (written : token.Written text)
    (readable : token.Readable text) : token.Lawful := by
  cases written with
  | literal kind free =>
    simp only [Token.Lawful, String.toList_ofList]
    rintro ⟨double, single⟩
    rcases kind with rfl | rfl
    · exact free double
    · exact free single
  | integer some all =>
    have grows : ∀ {n limit : Nat}, n ≤ limit → Nat.pow 10 n ≤ Nat.pow 10 limit :=
      Nat.pow_le_pow_right (by decide)
    unfold Token.Lawful Decimal.integerLimit
    exact Nat.lt_of_lt_of_le (digitsValue_lt all) (grows readable)
  | name isName =>
    simp only [Token.Lawful, String.toList_ofList]
    exact isName
  | _ => trivial

/-- Every token of a cut is lawful. -/
theorem Cuts.lawful {offset : Nat} {cs rest : List Char} {lexemes : List Lexeme}
    (cuts : Cuts offset cs lexemes rest) : ∀ token ∈ lexemes.map Lexeme.token, token.Lawful := by
  intro token member
  obtain ⟨lexeme, inside, rfl⟩ := List.mem_map.mp member
  obtain ⟨text, written, readable⟩ := cuts.written lexeme inside
  exact written.lawful readable

end XmlGraft.Path
