import Mathlib.Data.List.Chain
import XmlGraft.Proofs.Path.FirstFault

/-!
# Writing — the scan undoes the writing of tokens

Tokens are written one after another: each with any text that it may have, after any blanks
(`Inscription`), and more blanks may follow the last. Two tokens need a blank between them only
where the first would run into the second (`Token.runsInto`): a name into a name or a number, and a
number into a number. A name may stand right after a number, since no name begins with a digit.

Such a writing is what the scan reads without a fault, and nothing else is: it is cut into its
tokens (`cuts_inscribed`), and what is cut without a rest is one (`exists_inscribed`).
-/

namespace XmlGraft.Path

open Text

/-! ## Writings -/

/-- A token as it is written in an expression: the blanks before it, and its text. -/
structure Inscription where
  blanks : List Char
  token : Token
  text : List Char
  areBlanks : ∀ c ∈ blanks, isBlank c = true
  written : token.Written text
  readable : token.Readable text

/-- Whether a token would go on in the text of another that is written right after it. -/
def Token.runsInto : Token → Token → Bool
  | .name _, .name _ | .name _, .integer _ | .integer _, .integer _ => true
  | _, _ => false

/-- A blank stands wherever a token would run into the next. -/
def Separated (pieces : List Inscription) : Prop :=
  pieces.IsChain fun first next => first.token.runsInto next.token = true → next.blanks ≠ []

/-- The characters of tokens that are written one after another, and of what follows them. -/
def inscribed (trailing : List Char) : List Inscription → List Char
  | [] => trailing
  | piece :: rest => piece.blanks ++ (piece.text ++ inscribed trailing rest)

/-- The tokens that are written from an offset on, each at the offset of its text. -/
def lexemesFrom (offset : Nat) : List Inscription → List Lexeme
  | [] => []
  | piece :: rest =>
    ⟨piece.token, offset + piece.blanks.length⟩ ::
      lexemesFrom (offset + piece.blanks.length + piece.text.length) rest

/-! ## Where a token ends -/

/-- A digit may stand in a name after its first character. -/
theorem isNameChar_of_isDigit {c : Char} (digit : isDigit c = true) : isNameChar c = true := by
  simp only [isDigit, Bool.and_eq_true, decide_eq_true_eq] at digit
  have inside : inRanges nameExtraRanges c.toNat = true :=
    inRanges_eq_true_iff.mpr ⟨(0x30, 0x39), by decide, digit⟩
  rw [isNameChar, inside, Bool.or_true]

/-- What a token is written with begins like a name, with a digit, or with a character that no name
and no number goes on with. -/
theorem Token.Written.head_cases {next : Token} {c : Char} {more : List Char}
    (written : next.Written (c :: more)) :
    (isNameStart c = true ∧ ∃ own, next = .name own) ∨
      (isDigit c = true ∧ ∃ value, next = .integer value) ∨
      isNameChar c = false ∧ isDigit c = false ∧ ∀ first : Token, first.runsInto next = false := by
  cases written with
  | literal kind =>
    refine .inr (.inr ⟨?_, ?_, fun first => by cases first <;> rfl⟩)
    all_goals rcases kind with rfl | rfl <;> rfl
  | integer _ all => exact .inr (.inl ⟨all c List.mem_cons_self, _, rfl⟩)
  | name isName =>
    obtain ⟨_, _, same, start, -⟩ := isNCName_eq_true_iff.mp isName
    cases same
    exact .inl ⟨start, _, rfl⟩
  | _ => exact .inr (.inr ⟨rfl, rfl, fun first => by cases first <;> rfl⟩)

/-- A token ends before the text of another if it does not run into that. -/
theorem Token.Written.ends_iff {next : Token} {text : List Char} (written : next.Written text)
    (first : Token) (rest : List Char) :
    first.Ends (text ++ rest) ↔ first.runsInto next = false := by
  obtain ⟨c, more, rfl, -⟩ := written.cons
  cases first with
  | name own =>
    have ends : (Token.name own).Ends (c :: more ++ rest) ↔ isNameChar c = false :=
      ⟨fun ends => ends c rfl, fun ends d head => Option.some.inj head ▸ ends⟩
    rw [ends]
    rcases written.head_cases with ⟨start, _, rfl⟩ | ⟨digit, _, rfl⟩ | ⟨notName, -, apart⟩
    · rw [isNameChar, start, Bool.true_or]
      exact Iff.rfl
    · rw [isNameChar_of_isDigit digit]
      exact Iff.rfl
    · exact iff_of_true notName (apart (.name own))
  | integer value =>
    have ends : (Token.integer value).Ends (c :: more ++ rest) ↔ isDigit c = false :=
      ⟨fun ends => ends c rfl, fun ends d head => Option.some.inj head ▸ ends⟩
    rw [ends]
    rcases written.head_cases with ⟨start, _, rfl⟩ | ⟨digit, _, rfl⟩ | ⟨-, notDigit, apart⟩
    · exact iff_of_true (isDigit_eq_false start) rfl
    · rw [digit]
      exact Iff.rfl
    · exact iff_of_true notDigit (apart (.integer value))
  | _ => exact iff_of_true trivial rfl

/-- Every token ends before a blank. -/
theorem Token.ends_blank {c : Char} (blank : isBlank c = true) (token : Token)
    (rest : List Char) : token.Ends (c :: rest) := by
  simp only [isBlank, Bool.or_eq_true, decide_eq_true_eq] at blank
  refine ends_of_head (c := c) (fun d head => (Option.some.inj head).symm) ?_ ?_
  all_goals rcases blank with ((rfl | rfl) | rfl) | rfl <;> rfl

/-- A token ends before others that are written after it if a blank stands where it would run into
the first of them. -/
theorem Token.ends_inscribed_iff {trailing : List Char}
    (areBlanks : ∀ c ∈ trailing, isBlank c = true) (token : Token) (pieces : List Inscription) :
    token.Ends (inscribed trailing pieces) ↔
      ∀ next ∈ pieces.head?, token.runsInto next.token = true → next.blanks ≠ [] := by
  cases pieces with
  | nil =>
    refine iff_of_true ?_ nofun
    cases trailing with
    | nil => exact ends_of_head (c := ' ') nofun rfl rfl
    | cons c more => exact token.ends_blank (areBlanks c List.mem_cons_self) more
  | cons piece rest =>
    rw [List.head?_cons, inscribed]
    simp only [Option.mem_some_iff, forall_eq']
    cases before : piece.blanks with
    | nil =>
      rw [List.nil_append, piece.written.ends_iff, ← Bool.not_eq_true]
      exact ⟨fun apart runs => absurd runs apart, fun apart runs => apart runs rfl⟩
    | cons c blanks =>
      have blank := piece.areBlanks c (before ▸ List.mem_cons_self)
      exact iff_of_true (token.ends_blank blank _) fun _ => List.cons_ne_nil c blanks

/-- Tokens are separated if each ends before those that are written after it. -/
theorem separated_cons_iff {trailing : List Char} (areBlanks : ∀ c ∈ trailing, isBlank c = true)
    {piece : Inscription} {rest : List Inscription} :
    Separated (piece :: rest) ↔ piece.token.Ends (inscribed trailing rest) ∧ Separated rest := by
  rw [Separated, List.isChain_cons, Token.ends_inscribed_iff areBlanks]
  exact Iff.rfl

/-! ## Cuts are writings -/

/-- Blanks are passed over. -/
theorem Cuts.blanks {blanks cs rest : List Char} {lexemes : List Lexeme}
    (areBlanks : ∀ c ∈ blanks, isBlank c = true) {offset : Nat}
    (later : Cuts (offset + blanks.length) cs lexemes rest) :
    Cuts offset (blanks ++ cs) lexemes rest := by
  induction blanks generalizing offset with
  | nil => exact later
  | cons c blanks ih =>
    obtain ⟨isBlank, others⟩ := List.forall_mem_cons.mp areBlanks
    rw [List.length_cons, Nat.add_comm _ 1, ← Nat.add_assoc] at later
    exact .blank isBlank (ih others later)

/-- Separated tokens are cut off where they are written, and nothing is left but blanks. -/
theorem cuts_inscribed {trailing : List Char} (areBlanks : ∀ c ∈ trailing, isBlank c = true)
    {pieces : List Inscription} (separated : Separated pieces) (offset : Nat) :
    Cuts offset (inscribed trailing pieces) (lexemesFrom offset pieces) [] := by
  induction pieces generalizing offset with
  | nil =>
    have passed := Cuts.blanks areBlanks (.stop (offset + trailing.length) [])
    rw [List.append_nil] at passed
    exact passed
  | cons piece rest ih =>
    obtain ⟨ends, others⟩ := (separated_cons_iff areBlanks).mp separated
    have longest := piece.written.longest piece.readable ends
    exact .blanks piece.areBlanks (.token piece.written longest piece.readable (ih others _))

/-- A blank may stand before what is written. -/
theorem exists_inscribed_blank {c : Char} (blank : isBlank c = true) {pieces : List Inscription}
    (separated : Separated pieces) {trailing : List Char}
    (areBlanks : ∀ c ∈ trailing, isBlank c = true) (offset : Nat) :
    ∃ others more, Separated others ∧ (∀ c ∈ more, isBlank c = true) ∧
      c :: inscribed trailing pieces = inscribed more others ∧
      lexemesFrom (offset + 1) pieces = lexemesFrom offset others := by
  cases pieces with
  | nil =>
    have all : ∀ d ∈ c :: trailing, isBlank d = true :=
      List.forall_mem_cons.mpr ⟨blank, areBlanks⟩
    exact ⟨[], c :: trailing, separated, all, rfl, rfl⟩
  | cons piece rest =>
    have apart := (separated_cons_iff areBlanks).mp separated
    have all : ∀ d ∈ c :: piece.blanks, isBlank d = true :=
      List.forall_mem_cons.mpr ⟨blank, piece.areBlanks⟩
    refine ⟨{ piece with blanks := c :: piece.blanks, areBlanks := all } :: rest, trailing,
      (separated_cons_iff areBlanks).mpr apart, areBlanks, rfl, ?_⟩
    rw [lexemesFrom, lexemesFrom, List.length_cons, Nat.add_comm piece.blanks.length 1,
      Nat.add_assoc offset 1]

/-- What is cut off without a rest is a writing of the tokens found. -/
theorem exists_inscribed {offset : Nat} {cs : List Char} {lexemes : List Lexeme}
    (cuts : Cuts offset cs lexemes []) :
    ∃ pieces trailing, Separated pieces ∧ (∀ c ∈ trailing, isBlank c = true) ∧
      cs = inscribed trailing pieces ∧ lexemes = lexemesFrom offset pieces := by
  generalize nothing : [] = rest at cuts
  induction cuts with
  | stop offset rest =>
    exact ⟨[], [], .nil, fun _ member => absurd member List.not_mem_nil, nothing.symm, rfl⟩
  | blank isBlank later ih =>
    obtain ⟨pieces, trailing, separated, areBlanks, rfl, rfl⟩ := ih nothing
    exact exists_inscribed_blank isBlank separated areBlanks _
  | @token offset token text after rest lexemes written longest readable later ih =>
    obtain ⟨pieces, trailing, separated, areBlanks, rfl, rfl⟩ := ih nothing
    have none : ∀ c ∈ ([] : List Char), isBlank c = true := fun _ member =>
      absurd member List.not_mem_nil
    exact ⟨⟨[], token, text, none, written, readable⟩ :: pieces, trailing,
      (separated_cons_iff areBlanks).mpr ⟨written.ends longest, separated⟩, areBlanks, rfl, rfl⟩

/-- The tokens of a cut stand one behind the other. -/
theorem Cuts.pairwise {offset : Nat} {cs rest : List Char} {lexemes : List Lexeme}
    (cuts : Cuts offset cs lexemes rest) :
    lexemes.Pairwise fun first next => first.offset < next.offset := by
  induction cuts with
  | stop => exact .nil
  | blank _ _ ih => exact ih
  | @token offset token text _ _ _ written _ _ later ih =>
    refine .cons (fun lexeme member => ?_) ih
    have positive : 0 < text.length := by
      obtain ⟨c, more, rfl, -⟩ := written.cons
      exact Nat.succ_pos more.length
    have behind := (later.stands lexeme member).1
    show offset < lexeme.offset
    omega

/-! ## The scan -/

/-- The scan finds tokens and no fault exactly if the expression is a writing of them, each at the
offset where its text stands; and what it finds stands one behind the other. -/
theorem scan_eq_lexemesFrom_iff (expression : String) (lexemes : List Lexeme) :
    (scan expression = ⟨lexemes, none⟩ ↔
      ∃ pieces trailing, Separated pieces ∧ (∀ c ∈ trailing, isBlank c = true) ∧
        expression.toList = inscribed trailing pieces ∧ lexemes = lexemesFrom 0 pieces) ∧
    (scan expression).lexemes.Pairwise fun first next => first.offset < next.offset := by
  refine ⟨⟨fun found => ?_, ?_⟩, ?_⟩
  · obtain ⟨rest, cuts, stops⟩ := scan_eq_iff.mp found
    cases stops
    exact exists_inscribed cuts
  · rintro ⟨pieces, trailing, separated, areBlanks, stands, rfl⟩
    have cuts := cuts_inscribed areBlanks separated 0
    rw [← stands] at cuts
    exact scan_eq_iff.mpr ⟨[], cuts, .done⟩
  · obtain ⟨rest, cuts, -⟩ := scan_eq_iff.mp rfl
    exact cuts.pairwise

/-- A number may stand right before a name, but not right after it. -/
example : scan " 007a\t7" = ⟨[⟨.integer 7, 1⟩, ⟨.name "a", 4⟩, ⟨.integer 7, 6⟩], none⟩ := by
  decide

end XmlGraft.Path
