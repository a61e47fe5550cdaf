import Mathlib.Data.Nat.Find
import XmlGraft.Path.Token
import XmlGraft.Proofs.Outcome

/-!
# Written tokens — which texts a token may have

A mark has one text. A literal has one for each kind of quote that it does not hold, a number one
for each count of leading zeros, and a name is its own text. `Token.Written` says so without saying
how a text is read.

Reading is maximal munch. At any place either no token begins, and then none is read
(`read_of_no_token`), or there is a longest token that does (`begins_cases`), and that one is read
unless it is a number with more digits than are ever read (`read_of_longest`). A name ends before
what is no name character, and a number before what is no digit; whether the longest token has been
found therefore shows at the next character (`Token.Ends`).
-/

namespace XmlGraft.Path

open Text

/-! ## Tokens and texts -/

/-- A token and the characters that it is written with. -/
inductive Token.Written : Token → List Char → Prop
  | separator : Written .separator ['/']
  | at : Written .at ['@']
  | openBracket : Written .openBracket ['[']
  | closeBracket : Written .closeBracket [']']
  | equals : Written .equals ['=']
  | literal {quote : Char} {value : List Char} (kind : quote = '"' ∨ quote = '\'')
    (free : quote ∉ value) : Written (.literal (String.ofList value)) (quote :: value ++ [quote])
  | integer {digits : List Char} (some : digits ≠ []) (all : ∀ c ∈ digits, isDigit c = true) :
    Written (.integer (digitsValue digits)) digits
  | name {text : List Char} (isName : isNCName text = true) :
    Written (.name (String.ofList text)) text

/-- Of some characters no token is written with more than a given part in front of a rest. -/
def Longest (text rest : List Char) : Prop :=
  ∀ token longer, Token.Written token longer → longer <+: text ++ rest →
    longer.length ≤ text.length

/-- No token begins where some characters do. -/
def NoToken (cs : List Char) : Prop := ∀ token text, Token.Written token text → ¬text <+: cs

/-- Whether a token is read with a given text: a number has no more digits than are ever read. -/
def Token.Readable : Token → List Char → Prop
  | .integer _, text => text.length ≤ Decimal.digitLimit
  | _, _ => True

/-- Whether a token ends before some characters: a name before what is no name character, a number
before what is no digit. -/
def Token.Ends : Token → List Char → Prop
  | .name _, rest => ∀ c ∈ rest.head?, isNameChar c = false
  | .integer _, rest => ∀ c ∈ rest.head?, isDigit c = false
  | _, _ => True

/-! ## Characters -/

/-- A character that begins a name is not one of those that begin other tokens. -/
theorem nameStart_ne {c : Char} (start : isNameStart c = true) {d : Char}
    (other : isNameStart d = false) : c ≠ d := by
  rintro rfl
  rw [start] at other
  cases other

/-- No digit begins a name. -/
theorem isDigit_eq_false {c : Char} (start : isNameStart c = true) : isDigit c = false := by
  obtain ⟨range, member, low, high⟩ := inRanges_eq_true_iff.mp start
  have outside : range.1 > '9'.toNat := by
    have all : ∀ range ∈ nameStartRanges, range.1 > '9'.toNat := by decide
    exact all range member
  simp only [isDigit, Bool.and_eq_false_imp, decide_eq_true_eq, decide_eq_false_iff_not]
  intro _ below
  have le : c.toNat ≤ '9'.toNat := below
  omega

/-- No blank begins a name. -/
theorem isBlank_eq_false {c : Char} (start : isNameStart c = true) : isBlank c = false := by
  simp only [isBlank, Bool.or_eq_false_iff, decide_eq_false_iff_not]
  exact ⟨⟨⟨nameStart_ne start (by decide), nameStart_ne start (by decide)⟩,
    nameStart_ne start (by decide)⟩, nameStart_ne start (by decide)⟩

/-- A digit is not one of the characters below the digits or above them. -/
theorem isDigit_ne {c d : Char} (digit : isDigit c = true) (other : isDigit d = false) : c ≠ d := by
  rintro rfl
  rw [digit] at other
  cases other

/-- A run of characters of a class, up to one that is not in it. -/
theorem takeWhile_run {p : Char → Bool} {run rest : List Char} (inside : ∀ c ∈ run, p c = true)
    (outside : ∀ c ∈ rest.head?, p c = false) :
    (run ++ rest).takeWhile p = run ∧ (run ++ rest).dropWhile p = rest := by
  rw [List.takeWhile_append_of_pos inside, List.dropWhile_append_of_pos inside]
  cases rest with
  | nil => exact ⟨List.append_nil run, rfl⟩
  | cons c rest =>
    have stops : ¬p c = true := by simp only [outside c rfl, Bool.false_eq_true, not_false_eq_true]
    rw [List.takeWhile_cons_of_neg stops, List.dropWhile_cons_of_neg stops, List.append_nil]
    exact ⟨rfl, rfl⟩

/-- A name has a first character that begins names, and only name characters after it. -/
theorem isNCName_eq_true_iff {text : List Char} :
    isNCName text = true ↔
      ∃ c rest, text = c :: rest ∧ isNameStart c = true ∧ ∀ d ∈ rest, isNameChar d = true := by
  cases text with
  | nil => simp [isNCName]
  | cons c rest =>
    simp only [isNCName, Bool.and_eq_true, List.all_eq_true, List.cons.injEq]
    constructor
    · intro isName
      exact ⟨c, rest, ⟨rfl, rfl⟩, isName⟩
    · rintro ⟨_, _, ⟨rfl, rfl⟩, isName⟩
      exact isName

/-- A name stays one with one more name character after it. -/
theorem isNCName_append {text : List Char} {c : Char} (isName : isNCName text = true)
    (next : isNameChar c = true) : isNCName (text ++ [c]) = true := by
  obtain ⟨first, rest, rfl, start, all⟩ := isNCName_eq_true_iff.mp isName
  simp only [List.cons_append, isNCName, start, Bool.true_and, List.all_append, List.all_cons,
    List.all_nil, next, Bool.and_true]
  exact List.all_eq_true.mpr all

/-! ## Where a token ends -/

/-- A token is written with at least one character, and does not begin with a blank. -/
theorem Token.Written.cons {token : Token} {text : List Char} (written : token.Written text) :
    ∃ c rest, text = c :: rest ∧ isBlank c = false := by
  cases written with
  | literal kind free =>
    refine ⟨_, _, rfl, ?_⟩
    rcases kind with rfl | rfl <;> rfl
  | integer some all =>
    obtain ⟨c, rest, rfl⟩ := List.exists_cons_of_ne_nil some
    have digit := all c List.mem_cons_self
    refine ⟨c, rest, rfl, ?_⟩
    simp only [isBlank, isDigit_ne digit (d := ' ') rfl, isDigit_ne digit (d := '\t') rfl,
      isDigit_ne digit (d := '\r') rfl, isDigit_ne digit (d := '\n') rfl, decide_false,
      Bool.or_self]
  | name isName =>
    obtain ⟨c, rest, rfl, start, _⟩ := isNCName_eq_true_iff.mp isName
    exact ⟨c, rest, rfl, isBlank_eq_false start⟩
  | _ => exact ⟨_, _, rfl, rfl⟩

/-- Every token ends before a character that no name and no number goes on with. -/
theorem Token.ends_of_head {token : Token} {rest : List Char} {c : Char}
    (head : ∀ d ∈ rest.head?, d = c) (notName : isNameChar c = false)
    (notDigit : isDigit c = false) : token.Ends rest := by
  cases token with
  | integer value =>
    intro d member
    rw [head d member]
    exact notDigit
  | name text =>
    intro d member
    rw [head d member]
    exact notName
  | _ => trivial

/-- The longest token ends where it does because the next character would not belong to it. -/
theorem Token.Written.ends {token : Token} {text rest : List Char} (written : token.Written text)
    (longest : Longest text rest) : token.Ends rest := by
  have oneMore : ∀ (other : Token) (c : Char), c ∈ rest.head? → ¬other.Written (text ++ [c]) := by
    intro other c head more
    obtain ⟨after, rfl⟩ : ∃ after, rest = c :: after := List.head?_eq_some_iff.mp head
    have within : text ++ [c] <+: text ++ c :: after := by
      rw [List.prefix_append_right_inj]
      exact ⟨after, rfl⟩
    have short := longest other _ more within
    simp only [List.length_append, List.length_singleton] at short
    omega
  cases written with
  | integer some all =>
    intro c head
    apply Bool.eq_false_iff.mpr
    intro digit
    refine oneMore _ c head (.integer (by simp) ?_)
    intro d member
    rcases List.mem_append.mp member with member | member
    · exact all d member
    · rw [List.mem_singleton.mp member]
      exact digit
  | name isName =>
    intro c head
    apply Bool.eq_false_iff.mpr
    intro next
    exact oneMore _ c head (.name (isNCName_append isName next))
  | _ => trivial

/-! ## Reading one token -/

/-- A literal ends at the first quote of the kind that it is written between. -/
theorem closeLiteral_append {quote : Char} {value : List Char} (free : quote ∉ value)
    (rest : List Char) : closeLiteral quote (value ++ quote :: rest) = some (value, rest) := by
  have inside : ∀ c ∈ value, decide (c ≠ quote) = true := by
    intro c member
    rw [decide_eq_true_eq]
    rintro rfl
    exact free member
  have outside : ∀ c ∈ (quote :: rest).head?, decide (c ≠ quote) = false := by
    intro c head
    cases head
    simp only [ne_eq, not_true_eq_false, decide_false]
  obtain ⟨taken, dropped⟩ := takeWhile_run inside outside
  simp only [closeLiteral, taken, dropped]

/-- A literal that is closed stands before its closing quote, which it does not hold. -/
theorem eq_append_of_closeLiteral {quote : Char} {cs value rest : List Char}
    (closed : closeLiteral quote cs = some (value, rest)) :
    cs = value ++ quote :: rest ∧ quote ∉ value := by
  unfold closeLiteral at closed
  split at closed
  · cases closed
  · next c after dropped =>
    cases closed
    have stops : c = quote := by
      have first := List.head?_dropWhile_not (fun c => decide (c ≠ quote)) cs
      rw [dropped] at first
      exact Decidable.not_not.mp (of_decide_eq_false first)
    subst stops
    refine ⟨?_, ?_⟩
    · rw [← dropped]
      exact List.takeWhile_append_dropWhile.symm
    · intro member
      have differs := List.all_eq_true.mp List.all_takeWhile c member
      simp at differs

/-- A closed literal is read where a quote begins. -/
theorem read_quote {quote : Char} (kind : quote = '"' ∨ quote = '\'') {cs value rest : List Char}
    (closed : closeLiteral quote cs = some (value, rest)) :
    Token.read quote cs = .ok (.literal (String.ofList value), value.length + 2, rest) := by
  rcases kind with rfl | rfl <;>
    · simp only [Token.read, closed]
      rfl

/-- What is read where a digit begins. -/
theorem read_digit {c : Char} (digit : isDigit c = true) (cs : List Char) :
    Token.read c cs =
      if (c :: cs.takeWhile isDigit).length ≤ Decimal.digitLimit then
        .ok (.integer (digitsValue (c :: cs.takeWhile isDigit)),
          (c :: cs.takeWhile isDigit).length, cs.dropWhile isDigit)
      else .error (.longNumeral (c :: cs.takeWhile isDigit).length) := by
  simp only [Token.read, isDigit_ne digit (d := '/') rfl, isDigit_ne digit (d := '@') rfl,
    isDigit_ne digit (d := '[') rfl, isDigit_ne digit (d := ']') rfl,
    isDigit_ne digit (d := '=') rfl, isDigit_ne digit (d := '"') rfl,
    isDigit_ne digit (d := '\'') rfl, digit, or_self, if_false, if_true]

/-- What is read where a name begins. -/
theorem read_nameStart {c : Char} (start : isNameStart c = true) (cs : List Char) :
    Token.read c cs =
      .ok (.name (String.ofList (c :: cs.takeWhile isNameChar)),
        (c :: cs.takeWhile isNameChar).length, cs.dropWhile isNameChar) := by
  simp only [Token.read, nameStart_ne start (d := '/') (by decide),
    nameStart_ne start (d := '@') (by decide), nameStart_ne start (d := '[') (by decide),
    nameStart_ne start (d := ']') (by decide), nameStart_ne start (d := '=') (by decide),
    nameStart_ne start (d := '"') (by decide), nameStart_ne start (d := '\'') (by decide),
    isDigit_eq_false start, start, or_self, if_false, if_true, Bool.false_eq_true]

/-- What is read where a token begins that ends before the rest. -/
def Token.reading (token : Token) (text rest : List Char) :
    Except Fault (Token × Nat × List Char) :=
  match token with
  | .integer _ =>
    if text.length ≤ Decimal.digitLimit then .ok (token, text.length, rest)
    else .error (.longNumeral text.length)
  | _ => .ok (token, text.length, rest)

/-- A token that ends before the rest is the one that is read. -/
theorem read_of_ends {token : Token} {text rest : List Char} (written : token.Written text)
    (ends : token.Ends rest) {c : Char} {cs : List Char} (stands : text ++ rest = c :: cs) :
    Token.read c cs = token.reading text rest := by
  cases written with
  | literal kind free =>
    simp only [List.cons_append, List.append_assoc, List.nil_append, List.cons.injEq] at stands
    obtain ⟨rfl, rfl⟩ := stands
    rw [read_quote kind (closeLiteral_append free rest)]
    simp [Token.reading]
  | integer some all =>
    obtain ⟨first, more, rfl⟩ := List.exists_cons_of_ne_nil some
    rw [List.cons_append] at stands
    obtain ⟨rfl, rfl⟩ := List.cons.inj stands
    obtain ⟨taken, dropped⟩ :=
      takeWhile_run (fun d member => all d (List.mem_cons_of_mem first member)) ends
    rw [read_digit (all first List.mem_cons_self), taken, dropped, Token.reading]
  | name isName =>
    obtain ⟨first, more, rfl, start, all⟩ := isNCName_eq_true_iff.mp isName
    rw [List.cons_append] at stands
    obtain ⟨rfl, rfl⟩ := List.cons.inj stands
    obtain ⟨taken, dropped⟩ := takeWhile_run all ends
    rw [read_nameStart start, taken, dropped]
    rfl
  | _ =>
    cases stands
    rfl

/-- Where no token begins none is read. -/
theorem read_of_no_token {c : Char} {cs : List Char} (none : NoToken (c :: cs)) :
    Token.read c cs = .error (.unknownText (String.ofList (c :: cs))) := by
  have mark : ∀ token : Token, ¬token.Written [c] := fun token written =>
    none token [c] written ⟨cs, rfl⟩
  unfold Token.read
  split
  · next same => exact absurd (same ▸ .separator) (mark .separator)
  split
  · next same => exact absurd (same ▸ .at) (mark .at)
  split
  · next same => exact absurd (same ▸ .openBracket) (mark .openBracket)
  split
  · next same => exact absurd (same ▸ .closeBracket) (mark .closeBracket)
  split
  · next same => exact absurd (same ▸ .equals) (mark .equals)
  split
  · next kind =>
    split
    · next value rest closed =>
      obtain ⟨rfl, free⟩ := eq_append_of_closeLiteral closed
      refine absurd ?_ (none _ _ (.literal kind free))
      exact ⟨rest, by simp⟩
    · rfl
  split
  · next digit =>
    refine absurd (Token.Written.integer (List.cons_ne_nil c []) ?_) (mark _)
    intro d member
    rw [List.mem_singleton.mp member]
    exact digit
  split
  · next start =>
    have isName : isNCName [c] = true := by simp only [isNCName, start, List.all_nil, Bool.and_self]
    exact absurd (.name isName) (mark _)
  · rfl

/-- At any place no token begins, or a longest one does. -/
theorem begins_cases (cs : List Char) :
    NoToken cs ∨
      ∃ token text rest, text ++ rest = cs ∧ Token.Written token text ∧ Longest text rest := by
  classical
  by_cases none : NoToken cs
  · exact Or.inl none
  · right
    simp only [NoToken, not_forall, not_not] at none
    obtain ⟨token, text, written, begins⟩ := none
    -- lengths of tokens that begin here; they are bounded, so there is a greatest
    let Fits := fun length => ∃ token, Token.Written token (cs.take length)
    have fits : Fits text.length := ⟨token, (List.prefix_iff_eq_take.mp begins) ▸ written⟩
    obtain ⟨longest, found⟩ := Nat.findGreatest_spec begins.length_le fits
    refine ⟨longest, _, cs.drop (Nat.findGreatest Fits cs.length), List.take_append_drop _ _,
      found, ?_⟩
    intro other longer otherWritten otherBegins
    rw [List.take_append_drop] at otherBegins
    have otherFits : Fits longer.length :=
      ⟨other, (List.prefix_iff_eq_take.mp otherBegins) ▸ otherWritten⟩
    have greatest := Nat.le_findGreatest otherBegins.length_le otherFits
    have within := Nat.findGreatest_le (P := Fits) cs.length
    rw [List.length_take]
    omega

/-- The longest token that begins at a place is read there. -/
theorem read_of_longest {token : Token} {text rest : List Char} (written : token.Written text)
    (longest : Longest text rest) {c : Char} {cs : List Char} (stands : text ++ rest = c :: cs) :
    Token.read c cs = token.reading text rest :=
  read_of_ends written (written.ends longest) stands

/-- A readable token is read as it is. -/
theorem Token.Readable.reading_eq {token : Token} {text : List Char}
    (readable : token.Readable text) (rest : List Char) :
    token.reading text rest = .ok (token, text.length, rest) := by
  cases token with
  | integer value => exact if_pos readable
  | _ => rfl

/-- A token that is not readable is a number with too many digits. -/
theorem reading_of_not_readable {token : Token} {text : List Char}
    (long : ¬token.Readable text) (rest : List Char) :
    token.reading text rest = .error (.longNumeral text.length) := by
  cases token with
  | integer value => exact if_neg long
  | _ => exact absurd trivial long

/-- A token that ends before the rest is the longest one that begins where it does. -/
theorem Token.Written.longest {token : Token} {text rest : List Char}
    (written : token.Written text) (readable : token.Readable text) (ends : token.Ends rest) :
    Longest text rest := by
  obtain ⟨c, more, rfl, _⟩ := written.cons
  have read := read_of_ends written ends List.cons_append
  rcases begins_cases (c :: more ++ rest) with none | ⟨other, longer, after, stands, found, longest⟩
  · exact absurd ⟨rest, rfl⟩ (none token _ written)
  · rw [readable.reading_eq, read_of_longest found longest (stands.trans List.cons_append)] at read
    by_cases otherReadable : other.Readable longer
    · rw [otherReadable.reading_eq] at read
      simp only [Except.ok.injEq, Prod.mk.injEq] at read
      obtain ⟨_, _, rfl⟩ := read
      exact (List.append_cancel_right stands) ▸ longest
    · rw [reading_of_not_readable otherReadable] at read
      cases read

end XmlGraft.Path
