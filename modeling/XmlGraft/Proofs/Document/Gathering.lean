import XmlGraft.Proofs.Document.Retrieval
import XmlGraft.Proofs.Xml.Hollow

/-!
# Gathering — pieces of text brought together

An element that has neither attributes nor child elements may hold comments and instructions with
pieces of text between them. Setting its own text to what it is brings these pieces together before
the first of them (`Element.Gathers`). This changes nothing that data shows of the tree
(`Gathers.value`) and nothing but texts (`Gathers.textless`), and nothing at all where no such
element holds a comment or an instruction (`Gathers.eq_self`).
-/

namespace XmlGraft

open Xml Data

namespace Xml

/-! ## Trees without their texts -/

mutual

/-- A node without the texts in it and after it. -/
def Node.textless : Node → Node
  | .element head children _ => .element { head with text := none } (textlessAll children) none
  | .comment content _ => .comment content none
  | .instruction target content _ => .instruction target content none

/-- Nodes side by side without the texts in them and after them. -/
def textlessAll : List Node → List Node
  | [] => []
  | node :: rest => node.textless :: textlessAll rest

end

/-- An element without the texts in it. -/
def Element.textless (e : Element) : Element :=
  ⟨{ e.head with text := none }, textlessAll e.children⟩

theorem textlessAll_append (first second : List Node) :
    textlessAll (first ++ second) = textlessAll first ++ textlessAll second := by
  induction first with
  | nil => rfl
  | cons node rest ih => rw [List.cons_append, textlessAll, textlessAll, ih, List.cons_append]

/-- Tails are among what is left out. -/
theorem textlessAll_withTail (tail : Option String) (nodes : List Node) :
    textlessAll (nodes.map (Node.withTail tail)) = textlessAll nodes := by
  induction nodes with
  | nil => rfl
  | cons node rest ih =>
    rw [List.map_cons, textlessAll, textlessAll, ih]
    cases node with
    | _ => rfl

namespace Element

/-- The child elements are the same whatever text is set. -/
theorem childElements_withText (text : String) (e : Element) :
    (e.withText text).childElements = e.childElements := by
  rw [childElements, withText, List.filterMap_map]
  refine List.filterMap_congr fun node _ => ?_
  cases node with
  | _ => rfl

end Element

end Xml

/-- What is in the target of a focus is in the element. -/
theorem Focus.mem_elements_whole (f : Focus) {inner : Element}
    (member : inner ∈ f.target.elements) : inner ∈ f.whole.elements := by
  have isChild : f.target ∈ f.whole.childElements := by
    rw [f.childElements_whole]
    exact List.mem_append_right _ List.mem_cons_self
  exact List.mem_cons_of_mem _ (mem_elementsAmong.mpr ⟨f.target, isChild, member⟩)

namespace Xml.Element

/-! ## Gathering -/

/-- In some elements without attributes and child elements the text was set to what it is. -/
inductive Gathers : Element → Element → Prop
  | refl (e : Element) : Gathers e e
  | text {e : Element} (alone : e.Alone) (some : e.ownText ≠ "") :
    Gathers e (e.withText e.ownText)
  | child {f : Focus} {inner : Element} (inside : Gathers f.target inner) :
    Gathers f.whole (f.retarget inner).whole
  | trans {e between left : Element} (first : Gathers e between) (second : Gathers between left) :
    Gathers e left

namespace Gathers

variable {e left : Element}

/-- Elements keep their names. -/
theorem name (gathers : e.Gathers left) : left.name = e.name := by
  induction gathers with
  | refl | text | child => rfl
  | trans _ _ first second => exact second.trans first

/-- Nothing but texts changes. -/
theorem textless (gathers : e.Gathers left) : left.textless = e.textless := by
  induction gathers with
  | refl => rfl
  | text alone some => exact congrArg (Element.mk _) (textlessAll_withTail none _)
  | @child f inner _ ih =>
    obtain ⟨head, children⟩ := Element.mk.inj ih
    rw [Element.textless, Element.textless, Focus.whole, Focus.whole, textlessAll_append,
      textlessAll_append, textlessAll, textlessAll, Node.textless, Node.textless]
    simp only [Focus.retarget, head, children]
  | trans _ _ first second => exact second.trans first

/-- The tree is read as the same data. -/
theorem value (gathers : e.Gathers left) : left.value = e.value := by
  induction gathers with
  | refl => rfl
  | @text e alone some =>
    have aloneToo : (e.withText e.ownText).Alone := ⟨alone.1, e.childElements_withText _ ▸ alone.2⟩
    rw [value_of_alone alone, value_of_alone aloneToo, ownText_withText]
  | @child f inner inside ih =>
    have children : (keyed (f.retarget inner).whole.childElements).map
        (fun child => (child.1, child.2.value)) =
          (keyed f.whole.childElements).map fun child => (child.1, child.2.value) := by
      rw [Focus.childElements_whole, Focus.childElements_whole]
      simp only [keyed, Focus.retarget, List.map_append, List.map_cons, ih, inside.name]
    have text : (f.retarget inner).whole.ownText = f.whole.ownText := by
      have tails : (f.retarget inner).whole.children.map Node.tail =
          (f.whole.children ++ []).map Node.tail := by
        rw [List.append_nil, Focus.whole, Focus.whole]
        simp only [Focus.retarget, List.map_append, List.map_cons, Node.tail]
      exact ownText_congr rfl tails (List.forall_mem_nil _)
    rw [value_eq, value_eq, children, text]
    rfl
  | trans _ _ first second => exact second.trans first

/-- A simple tree stays simple. -/
theorem obeys (gathers : e.Gathers left) {above : List Declaration}
    (obeys : e.Obeys simpleLaw above) : left.Obeys simpleLaw above := by
  induction gathers generalizing above with
  | refl => exact obeys
  | text alone some => exact obeys.withText closed_simpleLaw obeys.compatible_ownText
  | child _ ih =>
    obtain ⟨around, target⟩ := Focus.obeys_whole.mp obeys
    exact Focus.obeys_whole.mpr ⟨around, ih target⟩
  | trans _ _ first second => exact second (first obeys)

/-- Where no element without attributes and child elements has children, nothing changes. -/
theorem eq_self (gathers : e.Gathers left)
    (bare : ∀ inner ∈ e.elements, inner.Alone → inner.children = []) : left = e := by
  induction gathers with
  | refl => rfl
  | @text e alone some =>
    obtain ⟨⟨tag, nsPrefix, declarations, attributes, text⟩, children⟩ := e
    obtain rfl : children = [] := bare _ List.mem_cons_self alone
    cases text with
    | none => exact absurd rfl some
    | some text =>
      have filled : ¬text = "" := some
      exact congrArg (fun text => Element.mk ⟨tag, nsPrefix, declarations, attributes, text⟩ [])
        (if_neg filled)
  | @child f inner inside ih =>
    have same : inner = f.target := ih fun other member =>
      bare other (f.mem_elements_whole member)
    rw [same]
    rfl
  | trans _ _ first second =>
    obtain rfl := first bare
    exact second bare

end Gathers

end Xml.Element

end XmlGraft
