import XmlGraft.Document.Reach

/-!
# Focus — the child that satisfies a test after some that do too

A focus is *found* by a test and a count (`Focus.Finds`) if its target satisfies the test and as
many children before it do as are counted. A child is picked exactly if it is found
(`pick_eq_some_iff`), and nothing is picked exactly if too few children satisfy the test. What takes
the place of the target is found like it, as long as it satisfies the test too.
-/

namespace XmlGraft

open Xml

/-! ## Picking a child -/

/-- Whether a node is an element that satisfies a test. -/
def Xml.Node.passes (test : Element → Bool) (node : Node) : Bool := node.element?.any test

@[simp] theorem Xml.Node.passes_element (test : Element → Bool) (head : Head)
    (children : List Node) (tail : Option String) :
    Node.passes test (.element head children tail) = test ⟨head, children⟩ := rfl

namespace Focus

/-- The target as a node among the other children. -/
def node (f : Focus) : Node := .element f.target.head f.target.children f.tail

/-- The focus with something else in the place of its target. -/
def retarget (target : Element) (f : Focus) : Focus := { f with target := target }

/-- The target stands at its index. -/
theorem children_index (f : Focus) : f.whole.children[f.index]? = some f.node := by
  show (f.before ++ f.node :: f.after)[f.before.length]? = some f.node
  rw [List.getElem?_append_right (Nat.le_refl _), Nat.sub_self]
  rfl

/-- At other indexes the children are the same whatever the target is. -/
theorem children_retarget {index : Nat} {f : Focus} (other : index ≠ f.index) (target : Element) :
    (f.retarget target).whole.children[index]? = f.whole.children[index]? := by
  have away : ∀ node : Node, (f.before ++ node :: f.after)[index]? =
      if index < f.before.length then f.before[index]?
      else f.after[index - f.before.length - 1]? := by
    intro node
    split
    · next front => exact List.getElem?_append_left front
    · next back =>
      have behind : f.before.length < index :=
        Nat.lt_of_le_of_ne (Nat.le_of_not_lt back) (Ne.symm other)
      obtain ⟨offset, rfl⟩ := Nat.exists_eq_add_of_lt behind
      rw [List.getElem?_append_right (by omega)]
      have first : f.before.length + offset + 1 - f.before.length = offset + 1 := by omega
      rw [first, List.getElem?_cons_succ, Nat.add_sub_cancel]
  exact (away _).trans (away _).symm

/-- The child at an index is the target of a focus. -/
theorem exists_at {e target : Element} {index : Nat} {tail : Option String}
    (found : e.children[index]? = some (.element target.head target.children tail)) :
    ∃ f : Focus, f.whole = e ∧ f.target = target ∧ f.before = e.children.take index := by
  obtain ⟨within, same⟩ := List.getElem?_eq_some_iff.mp found
  refine ⟨⟨e.head, e.children.take index, target, tail, e.children.drop (index + 1)⟩, ?_, rfl, rfl⟩
  rw [whole, ← same, List.getElem_cons_drop, List.take_append_drop]

/-- Two foci of one element with the same index have the same target, after the same children. -/
theorem eq_of_index {f g : Focus} (whole : f.whole = g.whole) (index : f.index = g.index) :
    f.before = g.before ∧ f.target = g.target := by
  obtain ⟨before, behind⟩ := List.append_inj (congrArg Element.children whole) index
  obtain ⟨node, _⟩ := List.cons.inj behind
  obtain ⟨head, children, _⟩ := Node.element.inj node
  refine ⟨before, ?_⟩
  cases f with
  | mk _ _ target =>
    cases g with
    | mk _ _ other =>
      cases target
      cases other
      cases head
      cases children
      rfl

/-- A focus is on the child that satisfies a test after some that do too. -/
structure Finds (test : Element → Bool) (skip : Nat) (f : Focus) : Prop where
  target : test f.target = true
  before : f.before.countP (Node.passes test) = skip

/-- What takes the place of a target is found like it, if it satisfies the test. -/
theorem Finds.retarget {test : Element → Bool} {skip : Nat} {f : Focus} (finds : f.Finds test skip)
    {target : Element} (passes : test target = true) : (f.retarget target).Finds test skip :=
  ⟨passes, finds.before⟩

end Focus

namespace Xml.Element

/-- Among children, the one after enough that satisfy a test is picked if it does too. -/
theorem pickAmong_append {test : Element → Bool} {target : Element} (passes : test target = true)
    (head : Head) (before : List Node) (tail : Option String) (after : List Node) :
    pickAmong head test (before.countP (Node.passes test))
      (before ++ .element target.head target.children tail :: after) =
        some ⟨head, before, target, tail, after⟩ := by
  induction before with
  | nil => simp only [List.countP_nil, List.nil_append, pickAmong, passes, if_true]
  | cons node rest ih =>
    cases node with
    | element inner children innerTail =>
      by_cases holds : test ⟨inner, children⟩ = true
      · have counted : Node.passes test (.element inner children innerTail) = true := holds
        rw [List.countP_cons_of_pos counted, List.cons_append]
        simp only [pickAmong, if_pos holds, ih, Option.map_some]
        rfl
      · have counted : ¬Node.passes test (.element inner children innerTail) = true := holds
        rw [List.countP_cons_of_neg counted, List.cons_append]
        simp only [pickAmong, if_neg holds, ih, Option.map_some]
        rfl
    | comment content commentTail =>
      have counted : ¬Node.passes test (.comment content commentTail) = true := Bool.false_ne_true
      rw [List.countP_cons_of_neg counted, List.cons_append]
      simp only [pickAmong, ih, Option.map_some]
      rfl
    | instruction name content nodeTail =>
      have counted : ¬Node.passes test (.instruction name content nodeTail) = true :=
        Bool.false_ne_true
      rw [List.countP_cons_of_neg counted, List.cons_append]
      simp only [pickAmong, ih, Option.map_some]
      rfl

/-- What is picked among some children stays picked with one more in front of them. -/
theorem map_pushBefore_finds {head : Head} {test : Element → Bool} {skip n : Nat} {node : Node}
    {rest : List Node} {picked : Option Focus} {f : Focus}
    (behind : ∀ g, picked = some g →
      g.head = head ∧ rest = g.before ++ g.node :: g.after ∧ g.Finds test skip)
    (counted : ∀ nodes, (node :: nodes).countP (Node.passes test) =
      nodes.countP (Node.passes test) + n)
    (pushed : picked.map (·.pushBefore node) = some f) :
    f.head = head ∧ node :: rest = f.before ++ f.node :: f.after ∧ f.Finds test (skip + n) := by
  obtain ⟨g, found, rfl⟩ := Option.map_eq_some_iff.mp pushed
  obtain ⟨sameHead, split, finds⟩ := behind g found
  refine ⟨sameHead, congrArg (node :: ·) split, finds.target, ?_⟩
  rw [← finds.before]
  exact counted g.before

/-- What is picked satisfies the test and stands where it was. -/
theorem pickAmong_finds {head : Head} {test : Element → Bool} {skip : Nat} {nodes : List Node}
    {f : Focus} (picked : pickAmong head test skip nodes = some f) :
    f.head = head ∧ nodes = f.before ++ f.node :: f.after ∧ f.Finds test skip := by
  induction nodes generalizing skip f with
  | nil => cases picked
  | cons node rest ih =>
    cases node with
    | element inner children tail =>
      simp only [pickAmong] at picked
      split at picked
      · next holds =>
        have counted : Node.passes test (.element inner children tail) = true := holds
        cases skip with
        | zero =>
          cases picked
          exact ⟨rfl, rfl, holds, rfl⟩
        | succ skip =>
          exact map_pushBefore_finds (fun _ => ih) (fun _ => List.countP_cons_of_pos counted) picked
      · next fails =>
        have counted : ¬Node.passes test (.element inner children tail) = true := fails
        exact map_pushBefore_finds (n := 0) (fun _ => ih)
          (fun _ => List.countP_cons_of_neg counted) picked
    | comment content tail =>
      exact map_pushBefore_finds (n := 0) (fun _ => ih)
        (fun _ => List.countP_cons_of_neg Bool.false_ne_true) picked
    | instruction name content tail =>
      exact map_pushBefore_finds (n := 0) (fun _ => ih)
        (fun _ => List.countP_cons_of_neg Bool.false_ne_true) picked

/-- Where nothing is picked, no more children satisfy the test than are passed over. -/
theorem countP_le_of_pickAmong {head : Head} {test : Element → Bool} {skip : Nat}
    {nodes : List Node} (none : pickAmong head test skip nodes = none) :
    nodes.countP (Node.passes test) ≤ skip := by
  induction nodes generalizing skip with
  | nil => exact Nat.zero_le skip
  | cons node rest ih =>
    cases node with
    | element inner children tail =>
      simp only [pickAmong] at none
      split at none
      · next holds =>
        have counted : Node.passes test (.element inner children tail) = true := holds
        cases skip with
        | zero => cases none
        | succ skip =>
          rw [List.countP_cons_of_pos counted]
          exact Nat.succ_le_succ (ih (Option.map_eq_none_iff.mp none))
      · next fails =>
        have counted : ¬Node.passes test (.element inner children tail) = true := fails
        rw [List.countP_cons_of_neg counted]
        exact ih (Option.map_eq_none_iff.mp none)
    | comment content tail =>
      have counted : ¬Node.passes test (.comment content tail) = true := Bool.false_ne_true
      rw [List.countP_cons_of_neg counted]
      exact ih (Option.map_eq_none_iff.mp none)
    | instruction name content tail =>
      have counted : ¬Node.passes test (.instruction name content tail) = true :=
        Bool.false_ne_true
      rw [List.countP_cons_of_neg counted]
      exact ih (Option.map_eq_none_iff.mp none)

/-- A child is picked exactly if it is found. -/
theorem pick_eq_some_iff {test : Element → Bool} {skip : Nat} {e : Element} {f : Focus} :
    e.pick test skip = some f ↔ f.whole = e ∧ f.Finds test skip := by
  constructor
  · intro picked
    obtain ⟨sameHead, split, finds⟩ := pickAmong_finds picked
    refine ⟨?_, finds⟩
    obtain ⟨head, children⟩ := e
    simp only at sameHead split
    rw [sameHead.symm, split]
    rfl
  · rintro ⟨rfl, finds⟩
    have picked := pickAmong_append finds.target f.head f.before f.tail f.after
    rw [finds.before] at picked
    exact picked

/-- Nothing is picked exactly if too few children satisfy the test. -/
theorem pick_eq_none_iff {test : Element → Bool} {skip : Nat} {e : Element} :
    e.pick test skip = none ↔ e.children.countP (Node.passes test) ≤ skip := by
  refine ⟨countP_le_of_pickAmong, ?_⟩
  intro few
  cases picked : e.pick test skip with
  | none => rfl
  | some f =>
    obtain ⟨rfl, finds⟩ := pick_eq_some_iff.mp picked
    have counted : Node.passes test f.node = true := finds.target
    have more : f.whole.children.countP (Node.passes test) =
        skip + (f.after.countP (Node.passes test) + 1) := by
      rw [show f.whole.children = f.before ++ f.node :: f.after from rfl, List.countP_append,
        List.countP_cons_of_pos counted, finds.before]
    omega

end Xml.Element

end XmlGraft
