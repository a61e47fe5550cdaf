import XmlGraft.Proofs.Path.Acceptance
import XmlGraft.Proofs.Path.Spelling

/-!
# Well-formed paths — what a walk can rely on

A path that was read from text is well formed: it is a step for a child element, and then a *tail*,
which is further element steps and at most one attribute step, at the end. All names in it are names
without a colon, positions count from one and have no more digits than are ever written, and a
literal holds not both quotes.

`wellFormed_of_parse` is the only thing that the walks along a path need to know of the reader:
steps that derive from lawful tokens are lawful steps (`DerivesPath.isStep`).
-/

namespace XmlGraft.Path

open Text

/-! ## Steps, tails and paths -/

/-- What may stand in the brackets of a step. -/
def Part.IsPredicate : Part → Prop
  | .position index => 1 ≤ index ∧ index.natAbs < Decimal.integerLimit
  | .attributeIs key value | .childIs key value =>
    isNCName key.toList = true ∧ (Token.literal value).Lawful
  | _ => False

/-- A step for a child element. -/
def Part.IsElementStep : Part → Prop
  | .element name => isNCName name.toList = true
  | .filtered name predicate => isNCName name.toList = true ∧ predicate.IsPredicate
  | _ => False

/-- A step of either kind. -/
def Part.IsStep : Part → Prop
  | .attribute name => isNCName name.toList = true
  | part => part.IsElementStep

/-- What may follow an element on a path. -/
inductive IsTail : List Part → Prop
  | nil : IsTail []
  | last {name : String} (isName : isNCName name.toList = true) : IsTail [.attribute name]
  | step {step : Part} {rest : List Part} (head : step.IsElementStep) (tail : IsTail rest) :
    IsTail (step :: rest)

/-- A path that leads from a document to an element or an attribute below it. -/
def WellFormed : List Part → Prop
  | [] => False
  | step :: rest => step.IsElementStep ∧ IsTail rest

/-- An element step is no attribute step. -/
theorem Part.IsElementStep.not_attribute {part : Part} (step : part.IsElementStep) :
    part.isAttribute = false := by
  cases part with
  | «attribute» name => exact step.elim
  | _ => rfl

/-- A step that is no attribute step is an element step. -/
theorem Part.IsStep.elementStep {part : Part} (step : part.IsStep)
    (other : part.isAttribute = false) : part.IsElementStep := by
  cases part with
  | «attribute» name => cases other
  | _ => exact step

/-- An element step is a step. -/
theorem Part.IsElementStep.isStep {part : Part} (step : part.IsElementStep) : part.IsStep := by
  cases part with
  | «attribute» name => exact step.elim
  | _ => exact step

/-- Steps of which only the last may be an attribute step are a tail. -/
theorem isTail_of_dropLast {steps : List Part} (all : ∀ step ∈ steps, step.IsStep)
    (last : steps.dropLast.all (fun part => !part.isAttribute) = true) : IsTail steps := by
  induction steps with
  | nil => exact .nil
  | cons step rest ih =>
    have head := all step List.mem_cons_self
    cases rest with
    | nil =>
      cases step with
      | «attribute» name => exact .last head
      | _ => exact .step head .nil
    | cons next more =>
      simp only [List.dropLast_cons_cons, List.all_cons, Bool.and_eq_true,
        Bool.not_eq_true'] at last
      refine .step (head.elementStep last.1) (ih ?_ last.2)
      exact fun other member => all other (List.mem_cons_of_mem step member)

/-- Attribute steps stand at the end of a tail only. -/
theorem IsTail.dropLast {steps : List Part} (tail : IsTail steps) :
    steps.dropLast.all (fun part => !part.isAttribute) = true := by
  induction tail with
  | nil => rfl
  | last isName => rfl
  | @step step rest head tail ih =>
    cases rest with
    | nil => rfl
    | cons next more =>
      simp only [List.dropLast_cons_cons, List.all_cons, head.not_attribute, ih, Bool.not_false,
        Bool.and_self]

/-- Every part of a tail is a step. -/
theorem IsTail.isStep {steps : List Part} (tail : IsTail steps) : ∀ step ∈ steps, step.IsStep := by
  induction tail with
  | nil => exact fun _ member => absurd member List.not_mem_nil
  | last isName =>
    intro other member
    rw [List.mem_singleton.mp member]
    exact isName
  | step head tail ih =>
    intro other member
    rcases List.mem_cons.mp member with rfl | member
    · exact head.isStep
    · exact ih other member

/-- A path is a run of steps, at least one, with its attribute steps where a path can use them. -/
theorem wellFormed_iff {steps : List Part} :
    WellFormed steps ↔
      steps ≠ [] ∧ (∀ step ∈ steps, step.IsStep) ∧ attributesLast steps = true := by
  cases steps with
  | nil => exact ⟨False.elim, fun path => path.1 rfl⟩
  | cons step rest =>
    constructor
    · rintro ⟨head, tail⟩
      have whole := IsTail.step head tail
      refine ⟨List.cons_ne_nil step rest, whole.isStep, ?_⟩
      cases rest with
      | nil => simp only [attributesLast, head.not_attribute, Bool.not_false]
      | cons next more => exact whole.dropLast
    · rintro ⟨_, all, last⟩
      have isStep := all step List.mem_cons_self
      cases rest with
      | nil =>
        simp only [attributesLast, Bool.not_eq_true'] at last
        exact ⟨isStep.elementStep last, .nil⟩
      | cons next more =>
        cases isTail_of_dropLast all last with
        | step head tail => exact ⟨head, tail⟩

/-! ## What the reader gives is well formed -/

/-- A predicate of lawful tokens is one that may stand in brackets. -/
theorem DerivesPredicate.isPredicate {tokens : List Token} {part : Part}
    (derives : DerivesPredicate tokens part) (lawful : ∀ token ∈ tokens, token.Lawful) :
    part.IsPredicate := by
  cases derives with
  | position positive =>
    have below := lawful _ List.mem_cons_self
    exact ⟨Int.ofNat_le.mpr positive, below⟩
  | attributeIs key value =>
    exact ⟨lawful (.name key) (by simp), lawful (.literal value) (by simp)⟩
  | childIs key value =>
    exact ⟨lawful (.name key) (by simp), lawful (.literal value) (by simp)⟩

/-- A step of lawful tokens has names without a colon and a lawful predicate. -/
theorem DerivesStep.isStep {tokens : List Token} {part : Part} (derives : DerivesStep tokens part)
    (lawful : ∀ token ∈ tokens, token.Lawful) : part.IsStep := by
  cases derives with
  | element name => exact lawful (.name name) List.mem_cons_self
  | filtered name inner =>
    refine ⟨lawful (.name name) List.mem_cons_self, inner.isPredicate fun token member => ?_⟩
    exact lawful token (List.mem_append_left _ (by simp [member]))
  | «attribute» name => exact lawful (.name name) (by simp)

/-- A path of lawful tokens is a run of steps, and has at least one. -/
theorem DerivesPath.isStep {tokens : List Token} {steps : List Part}
    (derives : DerivesPath tokens steps) (lawful : ∀ token ∈ tokens, token.Lawful) :
    steps ≠ [] ∧ ∀ step ∈ steps, step.IsStep := by
  induction derives with
  | last only =>
    refine ⟨List.cons_ne_nil _ [], ?_⟩
    intro step member
    rw [List.mem_singleton.mp member]
    exact only.isStep fun token inside => lawful token (List.mem_cons_of_mem _ inside)
  | @more tokens rest first steps derives _ ih =>
    refine ⟨List.cons_ne_nil _ _, ?_⟩
    intro step member
    rcases List.mem_cons.mp member with rfl | member
    · refine derives.isStep fun token inside => lawful token ?_
      exact List.mem_append_left _ (List.mem_cons_of_mem _ inside)
    · refine (ih fun token inside => lawful token ?_).2 step member
      exact List.mem_append_right _ inside

/-- A path that was read is well formed. -/
theorem wellFormed_of_parse {expression : String} {steps : List Part}
    (parsed : parse expression = .ok steps) : WellFormed steps := by
  obtain ⟨_, ⟨lexemes, cuts, derives⟩, attributes⟩ := parse_eq_ok_iff.mp parsed
  obtain ⟨nonempty, isStep⟩ := derives.isStep cuts.lawful
  exact wellFormed_iff.mpr ⟨nonempty, isStep, attributesLast_iff.mpr attributes⟩

end XmlGraft.Path
