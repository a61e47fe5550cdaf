import XmlGraft.Proofs.Document.Designation

/-!
# Upserts — the child that a step designates is found, or made so that it is found

Whether a step designates a child can be told from the children alone: it accepts that child, and as
many before it as it passes over (`Part.Designates`). So it designates the first child of its name,
the child of its name at a position, or the first one that is as its predicate asks.

Resolving a step finds that child and changes nothing. Where there is none, elements of the name are
appended, as many as are short (`Part.shortfall`), and the last of them is what the step then
designates. They are empty but for what the predicate asks. So the same step, resolved again, finds
the same child (`reachNode_upserts`).
-/

namespace XmlGraft

open Xml XmlGraft.Path

namespace Path.Part

/-- A step designates the child that it accepts after as many others as it passes over. -/
structure Designates (step : Part) (children : List Node) (index : Nat) : Prop where
  accepted : ∃ node, children[index]? = some node ∧ node.passes step.accepts = true
  passed : (children.take index).countP (Node.passes step.accepts) = step.passesOver

/-- How many elements a step makes among children of which it designates none: for a position as
many as there are too few of its name, and else one. -/
def shortfall (step : Part) (children : List Node) : Nat :=
  match step with
  | .filtered name (.position index) =>
    index.toNat - children.countP (Node.passes fun child => child.name == .bare name)
  | _ => 1

/-- The child that a step designates is the one that it finds. -/
theorem designates_iff {step : Part} {e : Element} {index : Nat} :
    step.Designates e.children index ↔
      ∃ f : Focus, f.whole = e ∧ f.index = index ∧ f.Finds step.accepts step.passesOver := by
  constructor
  · rintro ⟨⟨node, found, passes⟩, passed⟩
    cases node with
    | element head children tail =>
      have within := (List.getElem?_eq_some_iff.mp found).1
      obtain ⟨f, whole, target, before⟩ := @Focus.exists_at _ ⟨head, children⟩ _ _ found
      refine ⟨f, whole, ?_, ?_, ?_⟩
      · rw [Focus.index, before, List.length_take]
        exact Nat.min_eq_left (Nat.le_of_lt within)
      · rw [target]
        exact passes
      · rw [before]
        exact passed
    | comment content tail => cases passes
    | instruction target content tail => cases passes
  · rintro ⟨f, rfl, rfl, finds⟩
    have front : f.whole.children.take f.index = f.before := List.take_left
    refine ⟨⟨f.node, f.children_index, finds.target⟩, ?_⟩
    rw [front]
    exact finds.before

/-- A step designates none of some children exactly if it passes over all that it accepts. -/
theorem designates_none_iff {step : Part} {children : List Node} :
    (∀ index, ¬step.Designates children index) ↔
      children.countP (Node.passes step.accepts) ≤ step.passesOver := by
  let e : Element := ⟨Head.new [] (.bare ""), children⟩
  have picked : e.pick step.accepts step.passesOver = none ↔
      children.countP (Node.passes step.accepts) ≤ step.passesOver := Element.pick_eq_none_iff
  rw [← picked, Option.eq_none_iff_forall_ne_some]
  constructor
  · intro none f found
    obtain ⟨whole, finds⟩ := Element.pick_eq_some_iff.mp found
    exact none f.index (designates_iff.mpr ⟨f, whole, rfl, finds⟩)
  · intro none index designates
    obtain ⟨f, whole, _, finds⟩ := (designates_iff (e := ⟨_, children⟩)).mp designates
    exact none f (Element.pick_eq_some_iff.mpr ⟨whole, finds⟩)

/-- Where a step designates no child, it makes one more than are missing before it. -/
theorem shortfall_eq {step : Part} (isStep : step.IsChildStep) {children : List Node}
    (few : children.countP (Node.passes step.accepts) ≤ step.passesOver) :
    step.shortfall children =
      step.passesOver - children.countP (Node.passes step.accepts) + 1 := by
  cases step with
  | filtered name predicate =>
    cases predicate with
    | position index =>
      have positive : 1 ≤ index := isStep.2
      have byName : (Part.filtered name (.position index)).accepts =
          fun child => child.name == .bare name := funext fun _ => Bool.and_true _
      rw [byName] at few ⊢
      simp only [passesOver] at few
      simp only [shortfall, passesOver]
      omega
    | _ => simp only [shortfall, passesOver, Nat.zero_sub]
  | _ => simp only [shortfall, passesOver, Nat.zero_sub]

end Path.Part

namespace Xml.Element

/-- What is grown for a step are as many seeds as are short, and the last is picked out. -/
theorem grown_shortfall {step : Part} (isStep : step.IsChildStep) {e : Element}
    (few : e.children.countP (Node.passes step.accepts) ≤ step.passesOver) :
    (e.grown step).whole =
        ⟨e.head, e.children ++ List.replicate (step.shortfall e.children) step.seed.node⟩ ∧
      (e.grown step).index = e.children.length + step.shortfall e.children - 1 := by
  rw [Part.shortfall_eq isStep few]
  constructor
  · rw [List.replicate_succ', ← List.append_assoc]
    rfl
  · rw [grown, Focus.index, List.length_append, List.length_replicate]
    rfl

end Xml.Element

namespace Document

variable {step : Part} (isStep : step.IsChildStep) (above : Scope) (made : Nat) (head : Head)
  {children : List Node} (tail : Option String)

include isStep

/-- The child that a step designates is found, and nothing changes. -/
theorem reachNode_of_designates {index : Nat} (designates : step.Designates children index) :
    reachNode above made step (.element head children tail) =
      (.element head children tail, .ok (index, made)) := by
  obtain ⟨f, whole, rfl, finds⟩ := (Part.designates_iff (e := ⟨head, children⟩)).mp designates
  have found := Element.designated_of_finds finds
  rw [whole] at found
  rw [reachNode, Element.reach_eq isStep, found]
  simp only [whole]
  rfl

/-- Where a step designates no child, as many seeds are appended as are short. -/
theorem reachNode_of_short
    (few : children.countP (Node.passes step.accepts) ≤ step.passesOver)
    (creatable : step.creatable = true) :
    reachNode above made step (.element head children tail) =
      (.element head (children ++ List.replicate (step.shortfall children) step.seed.node) tail,
        .ok (children.length + step.shortfall children - 1, made)) := by
  obtain ⟨whole, index⟩ := Element.grown_shortfall isStep (e := ⟨head, children⟩) few
  have picked := Element.pick_eq_none_iff (e := ⟨head, children⟩).mpr few
  rw [reachNode, Element.reach_eq isStep, Element.designated, picked]
  simp only [creatable, if_true, whole, index]
  rfl

/-- Where a step designates no child and its seed cannot be made, its text is refused. -/
theorem reachNode_of_uncreatable
    (few : children.countP (Node.passes step.accepts) ≤ step.passesOver)
    (uncreatable : ¬step.creatable = true) :
    reachNode above made step (.element head children tail) =
      (.element head children tail, .error .forbiddenText) := by
  have picked := Element.pick_eq_none_iff (e := ⟨head, children⟩).mpr few
  rw [reachNode, Element.reach_eq isStep, Element.designated, picked]
  simp only [if_neg uncreatable]

/-- The child that resolving a step at an element answers with is one that the step designates. -/
theorem designates_of_reachNode {left : Node} {index count : Nat}
    (reached : reachNode above made step (.element head children tail) =
      (left, .ok (index, count))) :
    ∃ after, left = .element head after tail ∧ step.Designates after index := by
  rw [reachNode, Element.reach_eq isStep] at reached
  cases found : (⟨head, children⟩ : Element).designated step with
  | none =>
    rw [found] at reached
    cases reached
  | some f =>
    rw [found] at reached
    cases reached
    have finds := Element.finds_of_designated isStep found
    refine ⟨f.whole.children, ?_, Part.designates_iff.mpr ⟨f, rfl, rfl, finds⟩⟩
    rw [← show f.head = head from (Element.whole_of_designated found).1]
    rfl

omit isStep

/-- Resolving a step at an element finds the child that it designates, and leaves the element alone.
Where there is none and a seed can be made, the seeds that are short are appended, and the last is
the answer. Else the text of the seed is refused and the element is left alone. Whatever child is
the answer, the step designates it, finds it again, and then changes nothing. -/
theorem reachNode_upserts (isStep : step.IsChildStep) (children : List Node) :
    let node := Node.element head children tail
    (∀ index, step.Designates children index →
      reachNode above made step node = (node, .ok (index, made))) ∧
    ((∀ index, ¬step.Designates children index) →
      reachNode above made step node =
        if step.creatable then
          (.element head (children ++ List.replicate (step.shortfall children) step.seed.node) tail,
            .ok (children.length + step.shortfall children - 1, made))
        else (node, .error .forbiddenText)) ∧
    ∀ left index count, reachNode above made step node = (left, .ok (index, count)) →
      ∃ after, left = .element head after tail ∧ step.Designates after index ∧
        ∀ other again, reachNode other again step left = (left, .ok (index, again)) := by
  refine ⟨fun _ => reachNode_of_designates isStep above made head tail, ?_, ?_⟩
  · intro none
    have few := Part.designates_none_iff.mp none
    split
    · next creatable => exact reachNode_of_short isStep above made head tail few creatable
    · next uncreatable =>
      exact reachNode_of_uncreatable isStep above made head tail few uncreatable
  · intro left index count reached
    obtain ⟨after, rfl, designates⟩ := designates_of_reachNode isStep above made head tail reached
    refine ⟨after, rfl, designates, fun other again => ?_⟩
    exact reachNode_of_designates isStep other again head tail designates

/-- Of a name that one child has before a comment, the third is the second of two that are made, and
is found again. -/
theorem reachNode_upserts_third :
    let step := Part.filtered "b" (.position 3)
    let head : Head := ⟨.bare "a", "", [], [], none⟩
    let children := [(Element.blank "b").node, .comment "c" (some "t")]
    let left := Node.element head (children ++ [step.seed.node, step.seed.node]) none
    reachNode [] 0 step (.element head children none) = (left, .ok (3, 0)) ∧
      ∀ other again, reachNode other again step left = (left, .ok (3, again)) := by
  intro step head children left
  have isStep : step.IsChildStep := ⟨by decide, show (1 : Int) ≤ 3 by decide⟩
  have made : reachNode [] 0 step (.element head children none) = (left, .ok (3, 0)) := by rfl
  obtain ⟨_, _, _, repeats⟩ := (reachNode_upserts [] 0 head none isStep children).2.2 _ _ _ made
  exact ⟨made, repeats⟩

end Document

end XmlGraft
