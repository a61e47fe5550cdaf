import XmlGraft.Proofs.Document.Focus
import XmlGraft.Proofs.Path.WellFormed
import XmlGraft.Proofs.Xml.OwnText
import XmlGraft.Proofs.Xml.Plain

/-!
# Designation — which child a step of a path means

A step of a path accepts some child elements (`Part.accepts`) and passes over a number of them
(`Part.passesOver`); the next one is the child that it designates. Where there is none, as many
copies of its *seed* are appended as are missing, and the last is the child. A seed can be made
unless the literal of its step is a text that markup cannot hold (`Part.creatable`).

`reach_eq` says that this is all that reaching a child does, whatever the surroundings: a seed needs
no prefix. So a walk is repeatable: whatever becomes of the child, the step designates it again as
long as it accepts it (`designated_of_finds`).
-/

namespace XmlGraft

open Xml XmlGraft.Path

/-! ## Steps as tests -/

/-- Whether an element has a child element of a given name and text. -/
def Xml.Element.hasChild (key value : String) (e : Element) : Bool :=
  e.children.any (Node.passes fun child => child.name == .bare key && child.ownText == value)

namespace Path.Part

/-- The name of the child elements that a step is about. -/
def childName : Part → String
  | .element name | .filtered name _ => name
  | _ => ""

/-- Whether an element is as the predicate of a step asks. A position asks nothing by itself. -/
def asks (step : Part) (e : Element) : Bool :=
  match step with
  | .filtered _ (.attributeIs key value) => e.attribute? (.bare key) == some value
  | .filtered _ (.childIs key value) => e.hasChild key value
  | _ => true

/-- Whether an element is one that a step may designate. -/
def accepts (step : Part) (e : Element) : Bool := e.name == .bare step.childName && step.asks e

/-- How many of the elements that it accepts a step passes over. -/
def passesOver : Part → Nat
  | .filtered _ (.position index) => index.toNat - 1
  | _ => 0

/-- The element that a step makes where it is missing. -/
def seed : Part → Element
  | .filtered name (.attributeIs key value) => (Element.blank name).withAttribute key value
  | .filtered name (.childIs key value) =>
    ⟨(Element.blank name).head, [((Element.blank key).withText value).node]⟩
  | step => .blank step.childName

/-- Whether the seed of a step can be made. -/
def creatable : Part → Bool
  | .filtered _ (.attributeIs _ value) | .filtered _ (.childIs _ value) => compatible value
  | _ => true

/-- A predicate whose position counts from one, or whose key is a name without a colon. -/
def IsTest : Part → Prop
  | .position index => 1 ≤ index
  | .attributeIs key _ | .childIs key _ => Text.isNCName key.toList = true
  | _ => False

/-- A step for a child element, whether or not a path can be written with it. -/
def IsChildStep : Part → Prop
  | .element name => Text.isNCName name.toList = true
  | .filtered name predicate => Text.isNCName name.toList = true ∧ predicate.IsTest
  | _ => False

/-- A step of a path is a step for a child element. -/
theorem IsElementStep.isChildStep {step : Part} (isStep : step.IsElementStep) :
    step.IsChildStep := by
  cases step with
  | element name => exact isStep
  | filtered name predicate =>
    refine ⟨isStep.1, ?_⟩
    cases predicate with
    | position index => exact isStep.2.1
    | attributeIs key value => exact isStep.2.1
    | childIs key value => exact isStep.2.1
    | _ => exact isStep.2.elim
  | _ => exact isStep.elim

end Path.Part

namespace Xml.Element

/-- An element with the seed of a step appended, after as many more as are missing. -/
def grown (step : Part) (e : Element) : Focus :=
  let missing := step.passesOver - e.children.countP (Node.passes step.accepts)
  ⟨e.head, e.children ++ List.replicate missing step.seed.node, step.seed, none, []⟩

/-- The child that a step designates, made where it is missing; none if it cannot be made. -/
def designated (step : Part) (e : Element) : Option Focus :=
  match e.pick step.accepts step.passesOver with
  | some f => some f
  | none => if step.creatable then some (e.grown step) else none

end Xml.Element

/-! ## Seeds -/

namespace Path.Part

/-- What a step accepts has the name that the step is about. -/
theorem name_of_accepts {step : Part} {e : Element} (accepts : step.accepts e = true) :
    e.name = .bare step.childName := by
  simp only [Part.accepts, Bool.and_eq_true, beq_iff_eq] at accepts
  exact accepts.1

/-- Of an element with the name that it is about, a step accepts what is as it asks. -/
theorem accepts_of_name {step : Part} {e : Element} (named : e.name = .bare step.childName) :
    step.accepts e = step.asks e := by
  rw [accepts, named, beq_self_eq_true, Bool.true_and]

/-- The seed of a step has the name that the step is about. -/
theorem name_seed (step : Part) : step.seed.name = .bare step.childName := by
  unfold seed
  split
  · rfl
  · rfl
  · rfl

/-- A step accepts its seed. -/
theorem accepts_seed {step : Part} (isStep : step.IsChildStep) :
    step.accepts step.seed = true := by
  rw [accepts_of_name step.name_seed]
  unfold asks
  split
  · next key value =>
    simp only [seed, Element.attribute?_withAttribute, beq_self_eq_true]
  · next name key value =>
    have text := Element.ownText_withText value (.blank key)
    have child : Node.passes (fun child => child.name == .bare key && child.ownText == value)
        ((Element.blank key).withText value).node = true := by
      rw [Element.node, Node.passes_element, Bool.and_eq_true, beq_iff_eq, beq_iff_eq]
      exact ⟨rfl, text⟩
    simp only [seed, Element.hasChild, List.any_cons, child, Bool.true_or]
  · rfl

/-- A seed has no namespaces. -/
theorem plain_seed (step : Part) : step.seed.Plain := by
  unfold seed
  split
  · exact (Element.plain_blank _).withAttribute _ _
  · next name key value =>
    obtain ⟨head, _⟩ := Element.plain_blank key
    exact ⟨(Element.plain_blank name).1, ⟨⟨head.name, head.declarations, head.attributes⟩, trivial⟩,
      trivial⟩
  · exact Element.plain_blank _

end Path.Part

/-- The seed of a step is what is made for it, where it can be made. -/
theorem seeded_eq {name : String} {predicate : Part}
    (isStep : (Part.filtered name predicate).IsChildStep) :
    seeded name predicate =
      if (Part.filtered name predicate).creatable then .ok (Part.filtered name predicate).seed
      else .error .forbiddenText := by
  obtain ⟨isName, isTest⟩ := isStep
  cases predicate with
  | attributeIs key value =>
    rw [seeded, Element.new_plain isName, ok_bind, Element.setAttribute_plain isTest]
    rfl
  | childIs key value =>
    rw [seeded, Element.new_plain isName, ok_bind, seedChild, elementName_plain isTest,
      ok_bind, checkText]
    have same : (Part.filtered name (.childIs key value)).creatable = compatible value := rfl
    rw [same]
    by_cases writable : compatible value = true
    · rw [if_pos writable, if_pos writable]
      rfl
    · rw [if_neg writable, if_neg writable]
      rfl
  | position index => exact Element.new_plain isName
  | _ => exact isTest.elim

/-- A seed is appended as it is, and brings no prefix. -/
theorem Xml.Element.grow_seed (above : Scope) (made : Nat) (e : Element) (step : Part) :
    e.grow above made (step.passesOver - e.children.countP (Node.passes step.accepts)) step.seed =
      (e.grown step, made) := by
  rw [grow, Element.settle_plain step.plain_seed]
  rfl

/-! ## Reaching a child -/

namespace Xml.Element

/-- Among the children that fit a pattern, one satisfies a test if one child does both. -/
theorem any_elementsFitting (pattern : NamePattern) (test : Element → Bool) (e : Element) :
    (e.elementsFitting pattern).any test =
      e.children.any (Node.passes fun child => pattern.fits child.name && test child) := by
  rw [elementsFitting, List.filterMap_filter, List.any_filterMap]
  refine List.any_congr rfl ?_
  intro node
  cases node with
  | element head children tail =>
    by_cases fits : pattern.fits head.name = true
    · simp only [Node.named, Node.passes_element, Element.name, fits, if_true, Bool.true_and]
      rfl
    · simp only [Node.named, Node.passes_element, Element.name, fits, Bool.false_and]
      rfl
  | comment content tail => rfl
  | instruction target content tail => rfl

/-- As many children fit a pattern as pass the test of their names. -/
theorem length_elementsFitting (pattern : NamePattern) (e : Element) :
    (e.elementsFitting pattern).length =
      e.children.countP (Node.passes fun child => pattern.fits child.name) := by
  rw [elementsFitting, List.filterMap_filter, List.length_filterMap_eq_countP]
  refine congrArg (List.countP · e.children) (funext ?_)
  intro node
  cases node with
  | element head children tail =>
    by_cases fits : pattern.fits head.name = true
    · simp only [Node.named, Node.passes_element, Element.name, fits, if_true]
      rfl
    · simp only [Node.named, Node.passes_element, Element.name, fits]
      rfl
  | comment content tail => rfl
  | instruction target content tail => rfl

/-- The test that a reached step makes of a child is whether the step accepts it. -/
theorem fits_asks {name : String} {pattern : NamePattern}
    (fits : ∀ n, pattern.fits n = (n == .bare name)) (predicate : Part) :
    (fun child : Element => pattern.fits child.name && (Part.filtered name predicate).asks child) =
      (Part.filtered name predicate).accepts := by
  funext child
  rw [Part.accepts, fits]
  rfl

/-- A predicate that is no position tests what its step asks. -/
theorem predicateTest_eq {name : String} {predicate : Part}
    (isTest : predicate.IsTest) (comparison : ∀ index, predicate ≠ .position index) :
    predicateTest predicate = .ok (Part.filtered name predicate).asks := by
  cases predicate with
  | attributeIs key value =>
    rw [predicateTest, ofText_plain isTest]
    rfl
  | childIs key value =>
    obtain ⟨pattern, read, fits⟩ := pattern_plain isTest
    rw [predicateTest, read, ok_bind]
    refine congrArg Except.ok (funext ?_)
    intro e
    simp only [any_elementsFitting, fits]
    rfl
  | position index => exact absurd rfl (comparison index)
  | _ => exact isTest.elim

/-- An index among candidates, counted from one. -/
theorem candidateIndex_eq {count : Nat} {index : Int} (positive : 1 ≤ index)
    (within : index ≤ count) : candidateIndex count index = some (index.toNat - 1) := by
  have above : 0 < index := positive
  have inside : 0 ≤ index - 1 ∧ index - 1 < count := by omega
  have same : (index - 1).toNat = index.toNat - 1 := by omega
  simp only [candidateIndex, if_pos above, if_pos inside, same]

/-- Reaching a child with a position designates it. -/
theorem reachPosition_eq {name : String} {index : Int} {pattern : NamePattern}
    (isStep : (Part.filtered name (.position index)).IsChildStep)
    (fits : ∀ n, pattern.fits n = (n == .bare name)) (above : Scope) (made : Nat) (e : Element) :
    ∃ f, e.designated (.filtered name (.position index)) = some f ∧
      e.reachPosition above made pattern name index = .ok (f, made) := by
  have isName := isStep.1
  have positive : 1 ≤ index := isStep.2
  have test : (fun child : Element => pattern.fits child.name) =
      (Part.filtered name (.position index)).accepts := by
    rw [← fits_asks fits]
    funext child
    exact (Bool.and_true _).symm
  have count := length_elementsFitting pattern e
  rw [test] at count
  rw [reachPosition, count, test]
  cases picked : e.pick (Part.filtered name (.position index)).accepts
      (Part.filtered name (.position index)).passesOver with
  | some f =>
    have enough : ¬e.children.countP (Node.passes (Part.filtered name (.position index)).accepts) ≤
        (Part.filtered name (.position index)).passesOver := by
      intro few
      rw [pick_eq_none_iff.mpr few] at picked
      cases picked
    simp only [Part.passesOver] at enough
    have within : index ≤
        e.children.countP (Node.passes (Part.filtered name (.position index)).accepts) := by omega
    refine ⟨f, by rw [designated, picked], ?_⟩
    simp only [if_pos within, candidateIndex_eq positive within, Option.bind_some]
    rw [Part.passesOver] at picked
    rw [picked]
    rfl
  | none =>
    have few := pick_eq_none_iff.mp picked
    simp only [Part.passesOver] at few
    have beyond : ¬index ≤
        e.children.countP (Node.passes (Part.filtered name (.position index)).accepts) := by omega
    have missing : (index - (e.children.countP
          (Node.passes (Part.filtered name (.position index)).accepts) : Nat) - 1).toNat =
        (Part.filtered name (.position index)).passesOver - e.children.countP
          (Node.passes (Part.filtered name (.position index)).accepts) := by
      simp only [Part.passesOver]
      omega
    refine ⟨_, by rw [designated, picked]; rfl, ?_⟩
    simp only [if_neg beyond, new_plain isName, ok_bind, missing]
    exact congrArg Except.ok (e.grow_seed above made (.filtered name (.position index)))

/-- Reaching a child with another predicate picks it, or makes it. -/
theorem reachTested_eq_pick {name : String} {predicate : Part} {pattern : NamePattern}
    (isStep : (Part.filtered name predicate).IsChildStep)
    (comparison : ∀ index, predicate ≠ .position index)
    (fits : ∀ n, pattern.fits n = (n == .bare name)) (above : Scope) (made : Nat) (e : Element) :
    e.reachTested above made pattern name predicate =
      match e.pick (Part.filtered name predicate).accepts 0 with
      | some focus => .ok (focus, made)
      | none => seeded name predicate >>= fun child => .ok (e.grow above made 0 child) := by
  have any := any_elementsFitting pattern (Part.filtered name predicate).asks e
  rw [fits_asks fits] at any
  unfold reachTested
  by_cases candidates : (e.elementsFitting pattern).isEmpty = true
  · -- without candidates no name in the predicate is looked up, and nothing could be picked
    rw [List.isEmpty_iff.mp candidates, List.any_nil] at any
    have picked : e.pick (Part.filtered name predicate).accepts 0 = none :=
      pick_eq_none_iff.mpr (Nat.le_of_eq (List.countP_eq_zero.mpr fun node member passes =>
        List.any_eq_false.mp any.symm node member passes))
    rw [if_pos candidates, picked]
    cases predicate with
    | position index => exact absurd rfl (comparison index)
    | attributeIs key value => rfl
    | childIs key value => rfl
    | _ => exact isStep.2.elim
  · rw [if_neg candidates, predicateTest_eq isStep.2 comparison, ok_bind, fits_asks fits]
    rfl

/-- Reaching a child with another predicate designates it, or refuses a text. -/
theorem reachTested_eq {name : String} {predicate : Part} {pattern : NamePattern}
    (isStep : (Part.filtered name predicate).IsChildStep)
    (comparison : ∀ index, predicate ≠ .position index)
    (fits : ∀ n, pattern.fits n = (n == .bare name)) (above : Scope) (made : Nat) (e : Element) :
    e.reachTested above made pattern name predicate =
      match e.designated (.filtered name predicate) with
      | some f => .ok (f, made)
      | none => .error .forbiddenText := by
  have first : (Part.filtered name predicate).passesOver = 0 := by
    cases predicate with
    | position index => exact absurd rfl (comparison index)
    | _ => rfl
  rw [reachTested_eq_pick isStep comparison fits]
  cases picked : e.pick (Part.filtered name predicate).accepts 0 with
  | some f =>
    rw [Element.designated, first, picked]
  | none =>
    rw [seeded_eq isStep, Element.designated, first, picked]
    by_cases creatable : (Part.filtered name predicate).creatable = true
    · have grown := e.grow_seed above made (.filtered name predicate)
      rw [first, Nat.zero_sub] at grown
      rw [if_pos creatable, ok_bind, grown]
      simp only [creatable, if_true]
    · rw [if_neg creatable]
      simp only [creatable]
      rfl

/-- Reaching a child designates it, or refuses a text; no prefix is made up. -/
theorem reach_eq {step : Part} (isStep : step.IsChildStep) (above : Scope) (made : Nat)
    (e : Element) :
    e.reach above made step =
      match e.designated step with
      | some f => .ok (f, made)
      | none => .error .forbiddenText := by
  cases step with
  | element name =>
    obtain ⟨pattern, read, fits⟩ := pattern_plain isStep
    have test : (fun child : Element => pattern.fits child.name) = (Part.element name).accepts := by
      funext child
      rw [Part.accepts, fits]
      exact (Bool.and_true _).symm
    rw [reach, read, ok_bind, test]
    cases picked : e.pick (Part.element name).accepts 0 with
    | some f =>
      have designated : e.designated (.element name) = some f := by
        rw [Element.designated, show (Part.element name).passesOver = 0 from rfl, picked]
      rw [designated]
      rfl
    | none =>
      have grown := e.grow_seed above made (.element name)
      rw [show (Part.element name).passesOver = 0 from rfl, Nat.zero_sub] at grown
      rw [Element.designated, show (Part.element name).passesOver = 0 from rfl, picked,
        new_plain isStep, ok_bind]
      exact congrArg Except.ok grown
  | filtered name predicate =>
    obtain ⟨pattern, read, fits⟩ := pattern_plain isStep.1
    cases predicate with
    | position index =>
      obtain ⟨f, designated, reached⟩ := reachPosition_eq isStep fits above made e
      rw [reach, read, ok_bind, designated]
      exact reached
    | attributeIs key value =>
      rw [reach, read, ok_bind]
      exact reachTested_eq isStep (fun _ same => nomatch same) fits above made e
    | childIs key value =>
      rw [reach, read, ok_bind]
      exact reachTested_eq isStep (fun _ same => nomatch same) fits above made e
    | _ => exact isStep.2.elim
  | _ => exact isStep.elim

/-- What a step designates was there, or is made. -/
theorem designated_cases {step : Part} {e : Element} {f : Focus}
    (designated : e.designated step = some f) :
    e.pick step.accepts step.passesOver = some f ∨
      e.pick step.accepts step.passesOver = none ∧ step.creatable = true ∧ f = e.grown step := by
  unfold Element.designated at designated
  split at designated
  · next picked =>
    cases designated
    exact Or.inl picked
  · next picked =>
    split at designated
    · next creatable =>
      cases designated
      exact Or.inr ⟨picked, creatable, rfl⟩
    · cases designated

/-- What a step designates is a child that it accepts, after as many as it passes over. -/
theorem finds_of_designated {step : Part} (isStep : step.IsChildStep) {e : Element} {f : Focus}
    (designated : e.designated step = some f) : f.Finds step.accepts step.passesOver := by
  rcases designated_cases designated with picked | ⟨none, _, rfl⟩
  · exact (pick_eq_some_iff.mp picked).2
  · have few := pick_eq_none_iff.mp none
    have counted : Node.passes step.accepts step.seed.node = true := Part.accepts_seed isStep
    refine ⟨Part.accepts_seed isStep, ?_⟩
    rw [grown, List.countP_append, List.countP_replicate, if_pos counted]
    omega

/-- A child that is found is designated. -/
theorem designated_of_finds {step : Part} {f : Focus}
    (finds : f.Finds step.accepts step.passesOver) : f.whole.designated step = some f := by
  rw [Element.designated, pick_eq_some_iff.mpr ⟨rfl, finds⟩]

/-- Designating a child leaves an element as it is, but for children without tails after its own. -/
theorem whole_of_designated {step : Part} {e : Element} {f : Focus}
    (designated : e.designated step = some f) :
    f.head = e.head ∧ ∃ added, f.whole.children = e.children ++ added ∧
      ∀ node ∈ added, node.tail = none := by
  rcases designated_cases designated with picked | ⟨_, _, rfl⟩
  · obtain ⟨rfl, _⟩ := pick_eq_some_iff.mp picked
    exact ⟨rfl, [], (List.append_nil _).symm, fun _ member => absurd member List.not_mem_nil⟩
  · refine ⟨rfl, _, List.append_assoc _ _ _, ?_⟩
    intro node member
    rcases List.mem_append.mp member with member | member
    · rw [(List.mem_replicate.mp member).2]
      rfl
    · rw [List.mem_singleton.mp member]
      rfl

end Xml.Element

end XmlGraft
