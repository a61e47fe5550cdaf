import XmlGraft.Proofs.Path.Acceptance

/-!
# First faults — where an expression stops being a path

An expression that is no path is refused where it stops being the beginning of one. The tokens
before the fault are viable; what is found after them keeps every path from going on: a token that
none of them has there, the end of the expression, a place where no token begins, or a position
below one. `FirstFault` says so of the expression, by its cut and the grammar alone, and the bare
grammar finds just these faults (`parseSteps_first_fault`): whatever is wrong further right is not
looked at.

The automaton takes tokens (`Expecting.Takes`) as long as they are viable (`exists_takes_iff`), and
what it refuses after them is told by its state (`advance_eq_error`).
-/

namespace XmlGraft.Path

open Text

/-! ## Tokens that are taken -/

/-- Some tokens lead from one state of the automaton to another, whatever steps they finish. -/
inductive Expecting.Takes : Expecting → List Lexeme → Expecting → Prop
  | nothing (e : Expecting) : Takes e [] e
  | more {e between next : Expecting} {lexeme : Lexeme} {rest : List Lexeme} {done : Option Part}
    (advanced : e.advance lexeme = .ok (done, between)) (later : Takes between rest next) :
    Takes e (lexeme :: rest) next

namespace Expecting.Takes

variable {e next : Expecting} {lexemes : List Lexeme}

/-- A run over tokens that are taken and others is the run over the others, after the steps that the
first have finished. -/
theorem run_append (takes : e.Takes lexemes next) :
    ∃ done, ∀ fault rest,
      e.run fault (lexemes ++ rest) = (next.run fault rest).map (done ++ ·) := by
  induction takes with
  | nothing e =>
    refine ⟨[], fun fault rest => ?_⟩
    cases ran : e.run fault rest <;> simp [ran]
  | @more e between next lexeme lexemes first advanced _ ih =>
    obtain ⟨done, ranOn⟩ := ih
    refine ⟨first.toList ++ done, fun fault rest => ?_⟩
    simp only [List.cons_append, Expecting.run, advanced, ranOn]
    cases next.run fault rest <;> simp

/-- One more token after those that are taken. -/
theorem snoc (takes : e.Takes lexemes next) {lexeme : Lexeme} {done : Option Part}
    {after : Expecting} (advanced : next.advance lexeme = .ok (done, after)) :
    e.Takes (lexemes ++ [lexeme]) after := by
  induction takes with
  | nothing e => exact .more advanced (.nothing after)
  | more first _ ih => exact .more first (ih advanced)

/-- The state that some tokens lead to is reached by the last of them. -/
theorem last (takes : e.Takes lexemes next) :
    (lexemes = [] ∧ next = e) ∨ ∃ front lexeme before done, lexemes = front ++ [lexeme] ∧
      Expecting.advance before lexeme = .ok (done, next) := by
  induction takes with
  | nothing e => exact .inl ⟨rfl, rfl⟩
  | @more e between next lexeme rest done advanced _ ih =>
    refine .inr ?_
    rcases ih with ⟨rfl, rfl⟩ | ⟨front, lexeme', before, done', rfl, reached⟩
    · exact ⟨[], lexeme, e, done, rfl, advanced⟩
    · exact ⟨lexeme :: front, lexeme', before, done', rfl, reached⟩

end Expecting.Takes

/-- All tokens are taken, or there is a first one that is refused. -/
theorem takes_or_refuses (e : Expecting) (lexemes : List Lexeme) :
    (∃ next, e.Takes lexemes next) ∨
      ∃ front lexeme back next refused, lexemes = front ++ lexeme :: back ∧ e.Takes front next ∧
        next.advance lexeme = .error refused := by
  induction lexemes generalizing e with
  | nil => exact .inl ⟨e, .nothing e⟩
  | cons lexeme rest ih =>
    cases advanced : e.advance lexeme with
    | error refused => exact .inr ⟨[], lexeme, rest, e, refused, rfl, .nothing e, advanced⟩
    | ok result =>
      obtain ⟨done, between⟩ := result
      rcases ih between with ⟨next, takes⟩ |
        ⟨front, first, back, next, refused, rfl, takes, atFirst⟩
      · exact .inl ⟨next, .more advanced takes⟩
      · exact .inr ⟨lexeme :: front, first, back, next, refused, rfl, .more advanced takes, atFirst⟩

/-! ## Taken tokens and viable ones -/

/-- Tokens that begin viable tokens are viable. -/
theorem Viable.front {front back : List Token} (viable : Viable (front ++ back)) :
    Viable front := by
  obtain ⟨more, steps, derives⟩ := viable
  rw [List.append_assoc] at derives
  exact ⟨back ++ more, steps, derives⟩

/-- Tokens that the automaton takes from its start are viable. -/
theorem viable_of_takes {lexemes : List Lexeme} {next : Expecting}
    (takes : Expecting.start.Takes lexemes next) : Viable (lexemes.map Lexeme.token) := by
  obtain ⟨more, steps, ends⟩ := exists_completion next
  obtain ⟨done, ranOn⟩ := takes.run_append
  have ran := ranOn none more
  rw [ends, ok_map] at ran
  obtain ⟨_, derives⟩ := run_start_eq_ok_iff.mp ran
  rw [List.map_append] at derives
  exact ⟨_, _, derives⟩

/-- A token that is refused after others is not viable after them. -/
theorem not_viable_of_refused {front : List Lexeme} {lexeme : Lexeme} {next : Expecting}
    {refused : Fault} (takes : Expecting.start.Takes front next)
    (atLexeme : next.advance lexeme = .error refused) :
    ¬Viable ((front ++ [lexeme]).map Lexeme.token) := by
  rintro ⟨more, steps, derives⟩
  -- the offsets of the tokens that would follow do not matter
  rw [← map_token_atStart more, ← List.map_append] at derives
  have ran := run_start_eq_ok_iff.mpr ⟨rfl, derives⟩
  obtain ⟨done, ranOn⟩ := takes.run_append
  rw [List.append_assoc, ranOn, List.singleton_append] at ran
  simp only [Expecting.run, atLexeme, error_map, reduceCtorEq] at ran

/-- The automaton takes viable tokens, and no others. -/
theorem exists_takes_iff {lexemes : List Lexeme} :
    (∃ next, Expecting.start.Takes lexemes next) ↔ Viable (lexemes.map Lexeme.token) := by
  constructor
  · rintro ⟨next, takes⟩
    exact viable_of_takes takes
  · intro viable
    rcases takes_or_refuses .start lexemes with taken |
      ⟨front, lexeme, back, next, refused, rfl, takes, atLexeme⟩
    · exact taken
    · rw [← List.singleton_append, ← List.append_assoc, List.map_append] at viable
      exact absurd viable.front (not_viable_of_refused takes atLexeme)

/-! ## What is refused -/

/-- Tokens that end with an opening bracket, and a position below one after them. -/
def ZeroPosition (read : List Token) (token : Token) : Prop :=
  token = .integer 0 ∧ ∃ front, read = front ++ [.openBracket]

/-- A predicate is expected after an opening bracket, and only there. -/
theorem advance_predicate_iff {e next : Expecting} {lexeme : Lexeme} {done : Option Part}
    (advanced : e.advance lexeme = .ok (done, next)) :
    (∃ name, next = .predicate name) ↔ lexeme.token = .openBracket := by
  unfold Expecting.advance at advanced
  split at advanced
  case h_7 same =>
    split at advanced
    · cases advanced
    · cases advanced
      simp [same]
  case h_15 => cases advanced
  all_goals
    next same =>
      cases advanced
      simp [same]

/-- After tokens that are taken a predicate is expected exactly if they end with an opening bracket.
-/
theorem takes_predicate_iff {lexemes : List Lexeme} {next : Expecting}
    (takes : Expecting.start.Takes lexemes next) :
    (∃ name, next = .predicate name) ↔
      ∃ front, lexemes.map Lexeme.token = front ++ [.openBracket] := by
  rcases takes.last with ⟨rfl, rfl⟩ | ⟨front, lexeme, before, done, rfl, reached⟩
  · simp
  · rw [advance_predicate_iff reached]
    simp

/-- A token is refused for what it is and where it stands, unless it is a position below one. -/
theorem advance_eq_error {e : Expecting} {lexeme : Lexeme} {refused : Fault}
    (atLexeme : e.advance lexeme = .error refused) :
    (refused = .zeroPosition ∧ lexeme.token = .integer 0 ∧ ∃ name, e = .predicate name) ∨
      (refused = .unexpectedToken lexeme.token.shown lexeme.offset ∧
        ¬(lexeme.token = .integer 0 ∧ ∃ name, e = .predicate name)) := by
  unfold Expecting.advance at atLexeme
  split at atLexeme
  case h_7 name value same =>
    split at atLexeme
    · next below =>
      obtain rfl : value = 0 := by omega
      cases atLexeme
      exact .inl ⟨rfl, same, name, rfl⟩
    · cases atLexeme
  case h_15 notPosition _ _ _ _ _ _ _ =>
    cases atLexeme
    refine .inr ⟨rfl, ?_⟩
    rintro ⟨zero, name, rfl⟩
    exact notPosition name 0 rfl zero
  all_goals cases atLexeme

/-! ## Cuts taken apart and put together -/

namespace Cuts

variable {offset : Nat} {cs rest : List Char} {lexemes : List Lexeme}

/-- What is left of a cut is the end of what was cut. -/
theorem suffix (cuts : Cuts offset cs lexemes rest) : rest <:+ cs := by
  induction cuts with
  | stop => exact List.suffix_rfl
  | blank _ _ ih => exact ih.trans (List.suffix_cons _ _)
  | token _ _ _ _ ih => exact ih.trans (List.suffix_append _ _)

/-- Each token stands where its offset says. -/
theorem stands (cuts : Cuts offset cs lexemes rest) :
    ∀ lexeme ∈ lexemes, offset ≤ lexeme.offset ∧
      ∃ text, lexeme.token.Written text ∧ text <+: cs.drop (lexeme.offset - offset) := by
  induction cuts with
  | stop => simp
  | @blank offset _ _ _ _ _ _ ih =>
    intro lexeme member
    obtain ⟨after, text, written, found⟩ := ih lexeme member
    refine ⟨by omega, text, written, ?_⟩
    have further : lexeme.offset - offset = lexeme.offset - (offset + 1) + 1 := by omega
    rw [further, List.drop_succ_cons]
    exact found
  | @token offset token text after rest lexemes written _ _ _ ih =>
    intro lexeme member
    rcases List.mem_cons.mp member with rfl | member
    · refine ⟨Nat.le_refl _, text, written, ?_⟩
      simp
    · obtain ⟨later, own, ownWritten, found⟩ := ih lexeme member
      refine ⟨by omega, own, ownWritten, ?_⟩
      rw [List.drop_append, List.drop_of_length_le (by omega), List.nil_append, Nat.sub_sub]
      exact found

/-- The first tokens of a cut are cut off too. -/
theorem front {front back : List Lexeme} (cuts : Cuts offset cs (front ++ back) rest) :
    ∃ between, Cuts offset cs front between := by
  generalize whole : front ++ back = lexemes at cuts
  induction cuts generalizing front with
  | stop offset rest =>
    obtain ⟨rfl, _⟩ := List.append_eq_nil_iff.mp whole
    exact ⟨rest, .stop offset rest⟩
  | blank isBlank _ ih =>
    obtain ⟨between, later⟩ := ih whole
    exact ⟨between, .blank isBlank later⟩
  | @token offset _ text after _ _ written longest readable _ ih =>
    cases front with
    | nil => exact ⟨text ++ after, .stop offset _⟩
    | cons first front =>
      obtain ⟨rfl, others⟩ := List.cons.inj whole
      obtain ⟨between, later⟩ := ih others
      exact ⟨between, .token written longest readable later⟩

/-- What is left of a cut may be cut on. -/
theorem goes_on (cuts : Cuts offset cs lexemes rest) :
    ∃ after, ∀ more last, Cuts after rest more last → Cuts offset cs (lexemes ++ more) last := by
  induction cuts with
  | stop offset rest => exact ⟨offset, fun _ _ later => later⟩
  | blank isBlank _ ih =>
    obtain ⟨after, goesOn⟩ := ih
    exact ⟨after, fun more last later => .blank isBlank (goesOn more last later)⟩
  | token written longest readable _ ih =>
    obtain ⟨after, goesOn⟩ := ih
    exact ⟨after, fun more last later => .token written longest readable (goesOn more last later)⟩

/-- The tokens of a cut are the first that the scan finds. -/
theorem scan_eq {expression : String} {rest : List Char}
    (cuts : Cuts 0 expression.toList lexemes rest) :
    ∃ more, (scan expression).lexemes = lexemes ++ more := by
  obtain ⟨after, goesOn⟩ := cuts.goes_on
  obtain ⟨last, others, stops⟩ := @cuts_scanFrom _ after _ (Nat.le_refl rest.length)
  have whole := scan_eq_iff (s := ⟨_, _⟩) |>.mpr ⟨last, goesOn _ _ others, stops⟩
  exact ⟨_, congrArg Scan.lexemes whole⟩

end Cuts

/-! ## First faults -/

/-- No run of digits in an expression is longer than the numerals that are read. -/
def ShortNumerals (expression : String) : Prop :=
  ∀ run, run <:+: expression.toList → (∀ c ∈ run, isDigit c = true) →
    run.length ≤ Decimal.digitLimit

/-- No numeral is longer than the whole expression. -/
theorem shortNumerals_of_length {expression : String}
    (short : expression.toList.length ≤ Decimal.digitLimit) : ShortNumerals expression := by
  intro run within _
  have := within.length_le
  omega

/-- The fault with which an expression stops being the beginning of a path. -/
inductive FirstFault (expression : String) : Fault → Prop
  /-- A token that no path has after those before it, and that is not a position below one. -/
  | token {read : List Lexeme} {lexeme : Lexeme} {rest : List Char}
    (cuts : Cuts 0 expression.toList (read ++ [lexeme]) rest)
    (stands : ∃ text, lexeme.token.Written text ∧
      text <+: expression.toList.drop lexeme.offset)
    (viable : Viable (read.map Lexeme.token))
    (refused : ¬Viable ((read ++ [lexeme]).map Lexeme.token))
    (notPosition : ¬ZeroPosition (read.map Lexeme.token) lexeme.token) :
    FirstFault expression (.unexpectedToken lexeme.token.shown lexeme.offset)
  /-- The end of the expression, where no path ends. -/
  | ended {read : List Lexeme} (cuts : Cuts 0 expression.toList read [])
    (viable : Viable (read.map Lexeme.token))
    (unfinished : ∀ steps, ¬DerivesPath (read.map Lexeme.token) steps) :
    FirstFault expression .unexpectedEnd
  /-- A character after the tokens and the blanks, at which no token begins. -/
  | unknown {read : List Lexeme} {c : Char} {cs : List Char}
    (cuts : Cuts 0 expression.toList read (c :: cs)) (notBlank : isBlank c = false)
    (noToken : NoToken (c :: cs)) (viable : Viable (read.map Lexeme.token)) :
    FirstFault expression (.unknownText (String.ofList (c :: cs)))
  /-- A position below one after an opening bracket. -/
  | position {read : List Lexeme} {lexeme : Lexeme} {rest : List Char}
    (cuts : Cuts 0 expression.toList (read ++ [lexeme]) rest)
    (viable : Viable (read.map Lexeme.token))
    (zero : ZeroPosition (read.map Lexeme.token) lexeme.token) :
    FirstFault expression .zeroPosition

/-- Where numerals are short, the scan stops only at the end or where no token begins. -/
theorem ShortNumerals.readable {expression : String} (short : ShortNumerals expression)
    {lexemes : List Lexeme} {token : Token} {text rest : List Char}
    (cuts : Cuts 0 expression.toList lexemes (text ++ rest)) (written : token.Written text) :
    token.Readable text := by
  cases written with
  | integer some all =>
    have within := (List.prefix_append text rest).isInfix.trans cuts.suffix.isInfix
    exact short text within all
  | _ => trivial

/-- The end of the tokens, where all are taken, is refused for what the scan found there. -/
theorem FirstFault.of_end {expression : String} (short : ShortNumerals expression)
    {next : Expecting} (takes : Expecting.start.Takes (scan expression).lexemes next)
    {fault : Fault} (refused : next.run (scan expression).fault [] = .error fault) :
    FirstFault expression fault := by
  obtain ⟨rest, cuts, stops⟩ := scan_eq_iff.mp (rfl : scan expression = _)
  have viable := viable_of_takes takes
  obtain ⟨done, ranOn⟩ := takes.run_append
  have whole := ranOn (scan expression).fault []
  rw [refused, List.append_nil, error_map] at whole
  generalize (scan expression).fault = stopped at *
  cases stops with
  | done =>
    have noPath : ∀ steps, ¬DerivesPath ((scan expression).lexemes.map Lexeme.token) steps := by
      intro steps derives
      rw [run_start_eq_ok_iff.mpr ⟨rfl, derives⟩] at whole
      cases whole
    cases ends : next.finished? with
    | none =>
      simp only [Expecting.run, ends, Except.error.injEq] at refused
      exact refused ▸ .ended cuts viable noPath
    | some part => simp only [Expecting.run, ends, reduceCtorEq] at refused
  | unknown notBlank noToken =>
    obtain rfl := Except.error.inj refused
    exact .unknown cuts notBlank noToken viable
  | long written _ long => exact absurd (short.readable cuts written) long

/-- A token that is refused after those that are taken is the first fault. -/
theorem FirstFault.of_token {expression : String} {front back : List Lexeme} {lexeme : Lexeme}
    {next : Expecting} {fault : Fault}
    (scanned : (scan expression).lexemes = front ++ lexeme :: back)
    (takes : Expecting.start.Takes front next) (atLexeme : next.advance lexeme = .error fault) :
    FirstFault expression fault := by
  obtain ⟨_, whole, _⟩ := scan_eq_iff.mp (rfl : scan expression = _)
  rw [scanned, ← List.singleton_append, ← List.append_assoc] at whole
  obtain ⟨rest, cuts⟩ := whole.front
  have viable := viable_of_takes takes
  have afterBracket := takes_predicate_iff takes
  rcases advance_eq_error atLexeme with ⟨rfl, zero, expected⟩ | ⟨rfl, notZero⟩
  · exact .position cuts viable ⟨zero, afterBracket.mp expected⟩
  · obtain ⟨_, stands⟩ := cuts.stands lexeme (by simp)
    refine .token cuts stands viable (not_viable_of_refused takes atLexeme) ?_
    rintro ⟨zero, expected⟩
    exact notZero ⟨zero, afterBracket.mpr expected⟩

/-- Where the bare grammar refuses an expression, it has found its first fault. -/
theorem firstFault_of_parseSteps {expression : String} (short : ShortNumerals expression)
    {fault : Fault} (refused : parseSteps expression = .error fault) :
    FirstFault expression fault := by
  rw [parseSteps] at refused
  rcases takes_or_refuses .start (scan expression).lexemes with ⟨next, takes⟩ |
    ⟨front, lexeme, back, next, atFront, scanned, takes, atLexeme⟩
  · refine .of_end short takes ?_
    obtain ⟨done, ranOn⟩ := takes.run_append
    have whole := ranOn (scan expression).fault []
    rw [List.append_nil] at whole
    cases ended : next.run (scan expression).fault [] with
    | error other =>
      rw [ended, error_map, refused] at whole
      exact whole.symm
    | ok steps =>
      rw [ended, ok_map, refused] at whole
      cases whole
  · obtain ⟨done, ranOn⟩ := takes.run_append
    rw [scanned, ranOn] at refused
    simp only [Expecting.run, atLexeme, error_map, Except.error.injEq] at refused
    exact .of_token scanned takes (refused ▸ atLexeme)

/-- A token after viable ones is met by the automaton, and what it says of the token is the fault of
the expression if it refuses it. -/
theorem parseSteps_of_refused {expression : String} {read : List Lexeme} {lexeme : Lexeme}
    {rest : List Char} (cuts : Cuts 0 expression.toList (read ++ [lexeme]) rest)
    {next : Expecting} (takes : Expecting.start.Takes read next) {fault : Fault}
    (atLexeme : next.advance lexeme = .error fault) :
    parseSteps expression = .error fault := by
  obtain ⟨more, scanned⟩ := cuts.scan_eq
  obtain ⟨done, ranOn⟩ := takes.run_append
  rw [parseSteps, scanned, List.append_assoc, ranOn]
  simp only [List.singleton_append, Expecting.run, atLexeme, error_map]

/-- The bare grammar finds the first fault of an expression. -/
theorem FirstFault.parseSteps_eq {expression : String} {fault : Fault}
    (first : FirstFault expression fault) : parseSteps expression = .error fault := by
  cases first with
  | @token read lexeme rest cuts _ viable refused notPosition =>
    obtain ⟨next, takes⟩ := exists_takes_iff.mpr viable
    cases advanced : next.advance lexeme with
    | ok result => exact absurd (viable_of_takes (takes.snoc advanced)) refused
    | error other =>
      rcases advance_eq_error advanced with ⟨_, zero, expected⟩ | ⟨rfl, _⟩
      · exact absurd ⟨zero, (takes_predicate_iff takes).mp expected⟩ notPosition
      · exact parseSteps_of_refused cuts takes advanced
  | @ended read cuts viable unfinished =>
    have scanned := scan_eq_iff (s := ⟨read, none⟩) |>.mpr ⟨[], cuts, .done⟩
    obtain ⟨next, takes⟩ := exists_takes_iff.mpr viable
    obtain ⟨done, ranOn⟩ := takes.run_append
    have whole := ranOn none []
    rw [List.append_nil] at whole
    rw [parseSteps, scanned]
    cases ends : next.finished? with
    | none =>
      rw [whole]
      simp only [Expecting.run, ends, error_map]
    | some part =>
      simp only [Expecting.run, ends, ok_map] at whole
      exact absurd (run_start_eq_ok_iff.mp whole).2 (unfinished _)
  | @unknown read c cs cuts notBlank noToken viable =>
    have scanned := scan_eq_iff (s := ⟨read, _⟩) |>.mpr ⟨_, cuts, .unknown notBlank noToken⟩
    obtain ⟨next, takes⟩ := exists_takes_iff.mpr viable
    obtain ⟨done, ranOn⟩ := takes.run_append
    have whole := ranOn (some (.unknownText (String.ofList (c :: cs)))) []
    rw [List.append_nil] at whole
    rw [parseSteps, scanned]
    exact whole
  | @position read lexeme rest cuts viable zero =>
    obtain ⟨next, takes⟩ := exists_takes_iff.mpr viable
    obtain ⟨name, rfl⟩ := (takes_predicate_iff takes).mpr zero.2
    refine parseSteps_of_refused cuts takes ?_
    obtain ⟨token, offset⟩ := lexeme
    obtain rfl : token = .integer 0 := zero.1
    rfl

/-- The bare grammar refuses an expression without a numeral too long to be read with its first
fault, and reads it exactly if it is cut into the tokens of a path. -/
theorem parseSteps_first_fault (expression : String) (short : ShortNumerals expression) :
    (∀ fault, parseSteps expression = .error fault ↔ FirstFault expression fault) ∧
      ∀ steps, parseSteps expression = .ok steps ↔
        ∃ lexemes, Cuts 0 expression.toList lexemes [] ∧
          DerivesPath (lexemes.map Lexeme.token) steps :=
  ⟨fun _ => ⟨firstFault_of_parseSteps short, FirstFault.parseSteps_eq⟩,
    fun _ => parseSteps_eq_ok_iff⟩

/-- A bracket that closes too early comes before a character where no token begins, and a position
of zero before the end of the expression. -/
theorem parseSteps_first_fault_leftmost :
    ShortNumerals "/a[b]:" ∧ FirstFault "/a[b]:" (.unexpectedToken "]" 4) ∧
      ShortNumerals "/a [ 00" ∧ FirstFault "/a [ 00" .zeroPosition := by
  have early : ShortNumerals "/a[b]:" := shortNumerals_of_length (by decide)
  have zero : ShortNumerals "/a [ 00" := shortNumerals_of_length (by decide)
  exact ⟨early, ((parseSteps_first_fault _ early).1 _).mp rfl,
    zero, ((parseSteps_first_fault _ zero).1 _).mp rfl⟩

end XmlGraft.Path
