import XmlGraft.Path.Grammar
import XmlGraft.Proofs.Outcome

/-!
# Derivations — the path grammar as a relation

    path      := ('/' step)+
    step      := NAME | NAME '[' predicate ']' | '@' NAME
    predicate := INTEGER | '@' NAME '=' LITERAL | NAME '=' LITERAL

where the integer is at least one. `DerivesPath` says which tokens are a path, and of which steps.
The automaton reads just these (`run_start_eq_ok_iff`): in each of its states it has read the
beginning of a step (`Expecting.HasRead`), and each token that it takes goes on with that step or
with the next (`hasRead_of_advance`).

Tokens are *viable* if a path begins with them. No state of the automaton is a dead end
(`exists_completion`), so it comes to the end of some tokens without refusing one exactly if they
are viable (`run_stopped_iff`).
-/

namespace XmlGraft.Path

/-! ## The grammar -/

/-- The tokens of a predicate. -/
inductive DerivesPredicate : List Token → Part → Prop
  | position {value : Nat} (positive : 1 ≤ value) :
    DerivesPredicate [.integer value] (.position value)
  | attributeIs (key value : String) :
    DerivesPredicate [.at, .name key, .equals, .literal value] (.attributeIs key value)
  | childIs (key value : String) :
    DerivesPredicate [.name key, .equals, .literal value] (.childIs key value)

/-- The tokens of a step. -/
inductive DerivesStep : List Token → Part → Prop
  | element (name : String) : DerivesStep [.name name] (.element name)
  | filtered (name : String) {tokens : List Token} {predicate : Part}
    (inner : DerivesPredicate tokens predicate) :
    DerivesStep (.name name :: .openBracket :: tokens ++ [.closeBracket])
      (.filtered name predicate)
  | attribute (name : String) : DerivesStep [.at, .name name] (.attribute name)

/-- The tokens of a path. -/
inductive DerivesPath : List Token → List Part → Prop
  | last {tokens : List Token} {step : Part} (only : DerivesStep tokens step) :
    DerivesPath (.separator :: tokens) [step]
  | more {tokens rest : List Token} {step : Part} {steps : List Part}
    (first : DerivesStep tokens step) (others : DerivesPath rest steps) :
    DerivesPath (.separator :: tokens ++ rest) (step :: steps)

/-- Tokens that a path begins with. -/
def Viable (tokens : List Token) : Prop := ∃ more steps, DerivesPath (tokens ++ more) steps

/-! ## What is read derives -/

/-- The tokens that have been read of the step at hand, its separator among them. -/
def Expecting.HasRead (tokens : List Token) : Expecting → Prop
  | .start => tokens = []
  | .step => tokens = [.separator]
  | .attributeName => tokens = [.separator, .at]
  | .afterName name => tokens = [.separator, .name name]
  | .predicate name => tokens = [.separator, .name name, .openBracket]
  | .predicateName name => tokens = [.separator, .name name, .openBracket, .at]
  | .predicateEquals name onAttribute key =>
    tokens = [.separator, .name name, .openBracket] ++
      (if onAttribute then [.at, .name key] else [.name key])
  | .predicateLiteral name onAttribute key =>
    tokens = [.separator, .name name, .openBracket] ++
      (if onAttribute then [.at, .name key, .equals] else [.name key, .equals])
  | .closing name inner =>
    ∃ own, DerivesPredicate own inner ∧ tokens = .separator :: .name name :: .openBracket :: own
  | .complete part => ∃ own, DerivesStep own part ∧ tokens = .separator :: own

/-- Where a step may end, the tokens of that step have been read. -/
theorem Expecting.HasRead.finished {e : Expecting} {tokens : List Token} (read : e.HasRead tokens)
    {part : Part} (finished : e.finished? = some part) :
    ∃ own, DerivesStep own part ∧ tokens = .separator :: own := by
  unfold Expecting.finished? at finished
  split at finished
  · cases finished
    exact ⟨_, .element _, read⟩
  · cases finished
    exact read
  · cases finished

/-- A comparison derives from a name, a sign of equality and a literal, after a mark if it is one of
attributes. -/
theorem derives_comparison (onAttribute : Bool) (key value : String) :
    DerivesPredicate ((if onAttribute then [.at, .name key, .equals] else [.name key, .equals]) ++
      [.literal value]) (comparison onAttribute key value) := by
  cases onAttribute with
  | false => exact .childIs key value
  | true => exact .attributeIs key value

/-- One token goes on with the step at hand, or is the separator after it. -/
theorem hasRead_of_advance {e next : Expecting} {tokens : List Token} (read : e.HasRead tokens)
    {lexeme : Lexeme} {done : Option Part} (advanced : e.advance lexeme = .ok (done, next)) :
    match done with
    | none => next.HasRead (tokens ++ [lexeme.token])
    | some part => e.finished? = some part ∧ lexeme.token = .separator ∧ next = .step := by
  unfold Expecting.advance at advanced
  -- one case for each token that is taken: `read` gives the tokens before it, `same` the token
  split at advanced
  case h_4 text same _ =>
    cases advanced
    exact ⟨[.at, .name text], .attribute text, by rw [show tokens = _ from read, same]; rfl⟩
  case h_6 same _ => cases advanced; exact ⟨rfl, same, rfl⟩
  case h_7 value same _ =>
    split at advanced
    · cases advanced
    · next positive =>
      cases advanced
      exact ⟨[.integer value], .position (by omega), by rw [show tokens = _ from read, same]; rfl⟩
  case h_11 onAttribute key same _ =>
    cases advanced
    rw [show tokens = _ from read, same]
    cases onAttribute <;> rfl
  case h_12 name onAttribute key value same _ =>
    cases advanced
    refine ⟨_, derives_comparison onAttribute key value, ?_⟩
    rw [show tokens = _ from read, same, List.append_assoc]
    rfl
  case h_13 same _ =>
    cases advanced
    obtain ⟨own, derives, rfl⟩ := read
    exact ⟨_, .filtered _ derives, by rw [same]; rfl⟩
  case h_14 same _ => cases advanced; exact ⟨rfl, same, rfl⟩
  case h_15 => cases advanced
  all_goals
    next same _ =>
      cases advanced
      rw [show tokens = _ from read, same]
      rfl

/-- A run that is not refused has read the tokens of a path. -/
theorem derivesPath_of_run {fault : Option Fault} {lexemes : List Lexeme} {e : Expecting}
    {tokens : List Token} (read : e.HasRead tokens) {steps : List Part}
    (ran : e.run fault lexemes = .ok steps) :
    fault = none ∧ DerivesPath (tokens ++ lexemes.map Lexeme.token) steps := by
  -- the tokens left get fewer, and `HasRead` keeps those of the step at hand
  induction lexemes generalizing e tokens steps with
  | nil =>
    simp only [Expecting.run] at ran
    split at ran
    · cases ran
    · next part finished =>
      cases ran
      obtain ⟨own, derives, rfl⟩ := read.finished finished
      rw [List.map_nil, List.append_nil]
      exact ⟨rfl, .last derives⟩
    · cases ran
  | cons lexeme rest ih =>
    simp only [Expecting.run] at ran
    split at ran
    · cases ran
    · next done next advanced =>
      obtain ⟨others, ranOn, rfl⟩ := map_eq_ok.mp ran
      have goesOn := hasRead_of_advance read advanced
      cases done with
      | none =>
        obtain ⟨noFault, derives⟩ := ih goesOn ranOn
        rw [List.append_assoc] at derives
        exact ⟨noFault, derives⟩
      | some part =>
        obtain ⟨finished, separator, rfl⟩ := goesOn
        obtain ⟨own, first, rfl⟩ := read.finished finished
        obtain ⟨noFault, derives⟩ := ih (show Expecting.step.HasRead [.separator] from rfl) ranOn
        rw [List.map_cons, separator]
        exact ⟨noFault, .more first derives⟩

/-! ## What derives is read -/

/-- Some tokens lead from one state of the automaton to another, and finish no step on the way. -/
def Expecting.Reads (e : Expecting) (tokens : List Token) (next : Expecting) : Prop :=
  ∀ (lexemes rest : List Lexeme) (fault : Option Fault), lexemes.map Lexeme.token = tokens →
    e.run fault (lexemes ++ rest) = next.run fault rest

namespace Expecting.Reads

theorem refl (e : Expecting) : e.Reads [] e := by
  intro lexemes rest fault same
  rw [List.map_eq_nil_iff.mp same, List.nil_append]

/-- One more token in front. -/
theorem cons {e between next : Expecting} {token : Token} {tokens : List Token}
    (first : ∀ offset, e.advance ⟨token, offset⟩ = .ok (none, between))
    (others : between.Reads tokens next) : e.Reads (token :: tokens) next := by
  intro lexemes rest fault same
  obtain ⟨lexeme, lexemes, rfl, rfl, sameRest⟩ := List.map_eq_cons_iff.mp same
  have advanced := first lexeme.offset
  rw [List.cons_append, run, advanced]
  simp only [Option.toList_none, List.nil_append, others lexemes rest fault sameRest]
  cases next.run fault rest with
  | error refused => rfl
  | ok steps => rfl

/-- Some tokens and then others. -/
theorem append {e between next : Expecting} {front back : List Token}
    (first : e.Reads front between) (others : between.Reads back next) :
    e.Reads (front ++ back) next := by
  intro lexemes rest fault same
  obtain ⟨front, back, rfl, sameFront, sameBack⟩ := List.map_eq_append_iff.mp same
  rw [List.append_assoc, first front (back ++ rest) fault sameFront,
    others back rest fault sameBack]

end Expecting.Reads

/-- Between its brackets, the tokens of a predicate are read as that predicate. -/
theorem predicate_reads {tokens : List Token} {predicate : Part}
    (derives : DerivesPredicate tokens predicate) (name : String) :
    (Expecting.predicate name).Reads tokens (.closing name predicate) := by
  cases derives with
  | position positive =>
    refine .cons (fun offset => ?_) (.refl _)
    exact if_neg (Nat.not_lt.mpr positive)
  | attributeIs key value =>
    exact .cons (fun _ => rfl) (.cons (fun _ => rfl) (.cons (fun _ => rfl)
      (.cons (fun _ => rfl) (.refl _))))
  | childIs key value =>
    exact .cons (fun _ => rfl) (.cons (fun _ => rfl) (.cons (fun _ => rfl) (.refl _)))

/-- After a separator, the tokens of a step are read as that step. -/
theorem step_reads {tokens : List Token} {part : Part} (derives : DerivesStep tokens part) :
    ∃ e, Expecting.step.Reads tokens e ∧ e.finished? = some part := by
  cases derives with
  | element name => exact ⟨.afterName name, .cons (fun _ => rfl) (.refl _), rfl⟩
  | @filtered name tokens predicate inner =>
    refine ⟨.complete (.filtered name predicate), ?_, rfl⟩
    have closing : (Expecting.closing name predicate).Reads [.closeBracket]
        (.complete (.filtered name predicate)) := .cons (fun _ => rfl) (.refl _)
    exact .cons (fun _ => rfl) (.cons (fun _ => rfl) ((predicate_reads inner name).append closing))
  | «attribute» name =>
    exact ⟨.complete (.attribute name), .cons (fun _ => rfl) (.cons (fun _ => rfl) (.refl _)), rfl⟩

/-- A separator after a finished step gives that step. -/
theorem advance_separator {e : Expecting} {part : Part} (finished : e.finished? = some part)
    (offset : Nat) : e.advance ⟨.separator, offset⟩ = .ok (some part, .step) := by
  unfold Expecting.finished? at finished
  split at finished
  · cases finished; rfl
  · cases finished; rfl
  · cases finished

/-- Where a separator leads to a new step, the tokens of a path are read as its steps, after the one
that the separator ends. -/
theorem run_of_derivesPath {tokens : List Token} {steps : List Part}
    (derives : DerivesPath tokens steps) {e : Expecting} {done : Option Part}
    (atSeparator : ∀ offset, e.advance ⟨.separator, offset⟩ = .ok (done, .step))
    {lexemes : List Lexeme} (same : lexemes.map Lexeme.token = tokens) :
    e.run none lexemes = .ok (done.toList ++ steps) := by
  induction derives generalizing e done lexemes with
  | last only =>
    obtain ⟨⟨_, offset⟩, others, rfl, rfl, sameOthers⟩ := List.map_eq_cons_iff.mp same
    obtain ⟨after, reads, finished⟩ := step_reads only
    have read := reads others [] none sameOthers
    rw [List.append_nil] at read
    simp only [Expecting.run, atSeparator, read, finished, ok_map]
  | more first _ ih =>
    obtain ⟨⟨_, offset⟩, others, rfl, rfl, sameOthers⟩ := List.map_eq_cons_iff.mp same
    obtain ⟨front, back, rfl, sameFront, sameBack⟩ := List.map_eq_append_iff.mp sameOthers
    obtain ⟨after, reads, finished⟩ := step_reads first
    have ranOn := ih (advance_separator finished) sameBack
    simp only [Expecting.run, atSeparator, reads front back none sameFront, ranOn, ok_map,
      Option.toList_some, List.singleton_append]

/-- The bare grammar reads tokens as some steps exactly if they are a path of these steps. -/
theorem run_start_eq_ok_iff {fault : Option Fault} {lexemes : List Lexeme} {steps : List Part} :
    Expecting.start.run fault lexemes = .ok steps ↔
      fault = none ∧ DerivesPath (lexemes.map Lexeme.token) steps := by
  constructor
  · exact derivesPath_of_run (e := .start) rfl
  · rintro ⟨rfl, derives⟩
    exact run_of_derivesPath derives (e := .start) (fun _ => rfl) rfl

/-! ## Viable tokens -/

/-- No state of the automaton is a dead end. -/
theorem exists_completion (e : Expecting) :
    ∃ (more : List Lexeme) (steps : List Part), e.run none more = .ok steps := by
  have closing : ∀ name inner, (Expecting.closing name inner).run none [⟨.closeBracket, 0⟩] =
      .ok [.filtered name inner] := fun _ _ => rfl
  cases e with
  | start => exact ⟨[⟨.separator, 0⟩, ⟨.name "a", 0⟩], _, rfl⟩
  | step => exact ⟨[⟨.name "a", 0⟩], _, rfl⟩
  | attributeName => exact ⟨[⟨.name "a", 0⟩], _, rfl⟩
  | afterName name => exact ⟨[], _, rfl⟩
  | predicate name => exact ⟨[⟨.integer 1, 0⟩, ⟨.closeBracket, 0⟩], _, rfl⟩
  | predicateName name =>
    exact ⟨[⟨.name "a", 0⟩, ⟨.equals, 0⟩, ⟨.literal "", 0⟩, ⟨.closeBracket, 0⟩], _, rfl⟩
  | predicateEquals name onAttribute key =>
    exact ⟨[⟨.equals, 0⟩, ⟨.literal "", 0⟩, ⟨.closeBracket, 0⟩], _, rfl⟩
  | predicateLiteral name onAttribute key =>
    exact ⟨[⟨.literal "", 0⟩, ⟨.closeBracket, 0⟩], _, rfl⟩
  | closing name inner => exact ⟨[⟨.closeBracket, 0⟩], _, closing name inner⟩
  | complete part => exact ⟨[], _, rfl⟩

/-- A run meets the fault at which the scan stopped exactly if some more tokens in its place would
be read. The fault must be none of those that the grammar has itself. -/
theorem run_stopped_iff {stopped : Fault}
    (foreign : ∀ (e : Expecting) (lexeme : Lexeme), e.advance lexeme ≠ .error stopped)
    {lexemes : List Lexeme} {e : Expecting} :
    e.run (some stopped) lexemes = .error stopped ↔
      ∃ (more : List Lexeme) (steps : List Part), e.run none (lexemes ++ more) = .ok steps := by
  -- until the tokens end, both runs take the same ones or refuse the same one alike
  induction lexemes generalizing e with
  | nil =>
    constructor
    · exact fun _ => exists_completion e
    · exact fun _ => rfl
  | cons lexeme rest ih =>
    cases advanced : e.advance lexeme with
    | error refused =>
      have other : refused ≠ stopped := by
        rintro rfl
        exact foreign e lexeme advanced
      simp only [List.cons_append, Expecting.run, advanced, Except.error.injEq, other, reduceCtorEq,
        exists_false]
    | ok result =>
      obtain ⟨done, next⟩ := result
      simp only [List.cons_append, Expecting.run, advanced]
      constructor
      · intro ran
        have inside : next.run (some stopped) rest = .error stopped := by
          cases ranOn : next.run (some stopped) rest with
          | error other =>
            rw [ranOn] at ran
            exact ran
          | ok steps =>
            rw [ranOn] at ran
            cases ran
        obtain ⟨more, steps, read⟩ := ih.mp inside
        exact ⟨more, _, by rw [read]; rfl⟩
      · rintro ⟨more, steps, ran⟩
        obtain ⟨others, ranOn, _⟩ := map_eq_ok.mp ran
        rw [ih.mpr ⟨more, others, ranOn⟩]
        rfl

/-- The grammar itself never takes a numeral to be too long. -/
theorem advance_ne_longNumeral (digits : Nat) (e : Expecting) (lexeme : Lexeme) :
    e.advance lexeme ≠ .error (.longNumeral digits) := by
  unfold Expecting.advance
  split
  case h_7 =>
    split
    · exact nofun
    · exact nofun
  all_goals exact nofun

/-- A run ends at a numeral that is too long only if the scan stopped there. -/
theorem fault_of_run {fault : Option Fault} {digits : Nat} {lexemes : List Lexeme} {e : Expecting}
    (ran : e.run fault lexemes = .error (.longNumeral digits)) :
    fault = some (.longNumeral digits) := by
  induction lexemes generalizing e with
  | nil =>
    simp only [Expecting.run] at ran
    split at ran
    · cases ran; rfl
    · cases ran
    · cases ran
  | cons lexeme rest ih =>
    simp only [Expecting.run] at ran
    split at ran
    · next refused advanced =>
      cases ran
      exact absurd advanced (advance_ne_longNumeral digits e lexeme)
    · next done next advanced =>
      cases ranOn : next.run fault rest with
      | error refused =>
        rw [ranOn] at ran
        cases ran
        exact ih ranOn
      | ok steps =>
        rw [ranOn] at ran
        cases ran

/-- Every list of tokens is that of some lexemes. -/
theorem map_token_atStart (tokens : List Token) :
    (tokens.map fun token => (⟨token, 0⟩ : Lexeme)).map Lexeme.token = tokens := by
  rw [List.map_map]
  exact List.map_id tokens

/-- The bare grammar meets a numeral that is too long exactly if the scan stopped at it and the
tokens before it are viable. -/
theorem run_start_eq_longNumeral_iff {fault : Option Fault} {digits : Nat}
    {lexemes : List Lexeme} :
    Expecting.start.run fault lexemes = .error (.longNumeral digits) ↔
      fault = some (.longNumeral digits) ∧ Viable (lexemes.map Lexeme.token) := by
  have stopped := @run_stopped_iff _ (advance_ne_longNumeral digits) lexemes .start
  constructor
  · intro ran
    obtain rfl := fault_of_run ran
    obtain ⟨more, steps, read⟩ := stopped.mp ran
    obtain ⟨_, derives⟩ := run_start_eq_ok_iff.mp read
    rw [List.map_append] at derives
    exact ⟨rfl, _, _, derives⟩
  · rintro ⟨rfl, more, steps, derives⟩
    refine stopped.mpr ⟨more.map (⟨·, 0⟩), steps, run_start_eq_ok_iff.mpr ⟨rfl, ?_⟩⟩
    rw [List.map_append, map_token_atStart]
    exact derives

end XmlGraft.Path
