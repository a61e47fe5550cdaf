import XmlGraft.Proofs.Data.Adjacency
import XmlGraft.Proofs.Xml.Reread

/-!
# Outlines — trees without what data does not show

The outline of a tree is the tree without prefixes, declarations and empty texts. A tree is like
data if nothing else of it is lost where it is read as data: it has no comments and instructions, no
text beside attributes or children, and the children of one name stand together
(`Element.DataLike`). Whether it is like data shows in its outline (`Element.dataLike_outline`).

Comments and instructions have nothing inside, so induction over a tree goes from the child elements
of an element to the element (`Element.childInduction`).
-/

namespace XmlGraft.Xml

open Data

/-! ## Child elements -/

/-- The child elements of an element, in order. -/
def Element.childElements (e : Element) : List Element := e.children.filterMap Node.element?

mutual

/-- What goes from child elements to their element holds of the element that a node is. -/
theorem Node.element?_induction {motive : Element → Prop}
    (step : ∀ e, (∀ child ∈ Element.childElements e, motive child) → motive e) (node : Node) :
    ∀ e ∈ node.element?, motive e := by
  cases node with
  | element head children tail =>
    rintro _ ⟨⟩
    exact step ⟨head, children⟩ (elements_induction step children)
  | comment content tail => exact fun _ none => nomatch none
  | instruction target content tail => exact fun _ none => nomatch none

/-- So it is with the elements among some nodes. -/
theorem elements_induction {motive : Element → Prop}
    (step : ∀ e, (∀ child ∈ Element.childElements e, motive child) → motive e)
    (nodes : List Node) : ∀ e ∈ nodes.filterMap Node.element?, motive e := by
  cases nodes with
  | nil => exact fun _ member => absurd member List.not_mem_nil
  | cons node rest =>
    have first := node.element?_induction step
    have others := elements_induction step rest
    intro e member
    obtain ⟨other, inNodes, isElement⟩ := List.mem_filterMap.mp member
    rcases List.mem_cons.mp inNodes with rfl | inRest
    · exact first e isElement
    · exact others e (List.mem_filterMap.mpr ⟨other, inRest, isElement⟩)

end

/-- What goes from child elements to their element holds of every element. -/
theorem Element.childInduction {motive : Element → Prop} (e : Element)
    (step : ∀ e, (∀ child ∈ e.childElements, motive child) → motive e) : motive e :=
  Node.element?_induction step e.node e rfl

/-- What is told of nodes that are elements is told of these elements. -/
theorem map_elements {β : Type _} {f : Node → β} {g : Element → β} {nodes : List Node}
    (elements : ∀ node ∈ nodes, ∃ e, node.element? = some e ∧ f node = g e) :
    (nodes.filterMap Node.element?).map g = nodes.map f := by
  induction nodes with
  | nil => rfl
  | cons node rest ih =>
    obtain ⟨⟨e, isElement, same⟩, others⟩ := List.forall_mem_cons.mp elements
    rw [List.filterMap_cons_some isElement, List.map_cons, List.map_cons, same, ih others]

/-! ## Outlines -/

/-- A head without prefixes, declarations and an empty text. -/
def Head.outline (head : Head) : Head :=
  { head with
    nsPrefix := ""
    declarations := []
    attributes := head.attributes.map fun a => { a with nsPrefix := "" }
    text := trim head.text }

mutual

/-- A node without prefixes, declarations and empty texts. -/
def Node.outline : Node → Node
  | .element head children tail => .element head.outline (outlineAll children) (trim tail)
  | .comment content tail => .comment content (trim tail)
  | .instruction target content tail => .instruction target content (trim tail)

/-- Nodes side by side without prefixes, declarations and empty texts. -/
def outlineAll : List Node → List Node
  | [] => []
  | node :: rest => node.outline :: outlineAll rest

end

/-- An element without prefixes, declarations and empty texts. -/
def Element.outline (e : Element) : Element := ⟨e.head.outline, outlineAll e.children⟩

/-- Nodes are outlined one by one. -/
theorem outlineAll_eq_map (nodes : List Node) : outlineAll nodes = nodes.map Node.outline := by
  induction nodes with
  | nil => rfl
  | cons node rest ih => rw [outlineAll, ih, List.map_cons]

/-- The element that the outline of a node is. -/
theorem Node.element?_outline (node : Node) :
    node.outline.element? = node.element?.map Element.outline := by
  cases node with
  | _ => rfl

/-- The outline of a node has the tail of the node, but for an empty one. -/
theorem Node.tail_outline (node : Node) : node.outline.tail = trim node.tail := by
  cases node with
  | _ => rfl

namespace Element

/-- The child elements of an outline. -/
theorem childElements_outline (e : Element) :
    e.outline.childElements = e.childElements.map outline := by
  rw [childElements, outline, outlineAll_eq_map, List.filterMap_map, childElements,
    List.map_filterMap]
  exact List.filterMap_congr fun node _ => node.element?_outline

/-- An outline has the same text. -/
theorem ownText_outline (e : Element) : e.outline.ownText = e.ownText := by
  refine ownText_eq_of_characters (textOf_trim e.head.text) ?_
  rw [outline, outlineAll_eq_map, List.map_map]
  refine List.map_congr_left fun node _ => ?_
  rw [Function.comp_apply, node.tail_outline, textOf_trim]

end Element

/-! ## Trees like data -/

mutual

/-- A node without comments and instructions, text beside attributes or children, and children of
one name apart from one another. -/
def Node.DataLike : Node → Prop
  | .element head children _ =>
    (head.attributes = [] ∧ children = [] ∨ Element.ownText ⟨head, children⟩ = "") ∧
      Adjacent ((Element.childElements ⟨head, children⟩).map (·.name.text)) ∧ AllDataLike children
  | .comment _ _ | .instruction _ _ _ => False

/-- Such nodes side by side. -/
def AllDataLike : List Node → Prop
  | [] => True
  | node :: rest => node.DataLike ∧ AllDataLike rest

end

/-- An element without comments and instructions, text beside attributes or children, and children
of one name apart from one another. -/
def Element.DataLike (e : Element) : Prop := e.node.DataLike

/-- A node is like data if it is an element that is. -/
theorem Node.dataLike_iff {node : Node} :
    node.DataLike ↔ ∃ e, node.element? = some e ∧ e.DataLike := by
  cases node with
  | element head children tail =>
    constructor
    · exact fun like => ⟨⟨head, children⟩, rfl, like⟩
    · rintro ⟨_, ⟨⟩, like⟩
      exact like
  | _ => exact ⟨False.elim, fun ⟨_, isElement, _⟩ => nomatch isElement⟩

/-- Nodes are like data if each of them is. -/
theorem allDataLike_iff {nodes : List Node} :
    AllDataLike nodes ↔ ∀ node ∈ nodes, node.DataLike := by
  induction nodes with
  | nil => exact iff_of_true trivial fun _ member => absurd member List.not_mem_nil
  | cons node rest ih => rw [AllDataLike, ih, List.forall_mem_cons]

/-- An element is like data if it has its text alone or no text, its children of one name stand
together, and all its children are elements like data. -/
theorem Element.dataLike_iff {e : Element} :
    e.DataLike ↔ (e.head.attributes = [] ∧ e.children = [] ∨ e.ownText = "") ∧
      Adjacent (e.childElements.map (·.name.text)) ∧
      ∀ node ∈ e.children, ∃ child, node.element? = some child ∧ child.DataLike := by
  rw [DataLike, node, Node.DataLike, allDataLike_iff]
  simp only [Node.dataLike_iff]

/-- An element is like data exactly if its outline is. -/
theorem Element.dataLike_outline (e : Element) : e.outline.DataLike ↔ e.DataLike := by
  induction e using Element.childInduction with
  | step e ih =>
    have names : e.outline.childElements.map (·.name.text) =
        e.childElements.map (·.name.text) := by
      rw [childElements_outline, List.map_map]
      rfl
    have alone : e.outline.head.attributes = [] ∧ e.outline.children = [] ↔
        e.head.attributes = [] ∧ e.children = [] := by
      rw [outline, outlineAll_eq_map, Head.outline, List.map_eq_nil_iff, List.map_eq_nil_iff]
    have inside : (∀ node ∈ e.outline.children,
          ∃ child, node.element? = some child ∧ child.DataLike) ↔
        ∀ node ∈ e.children, ∃ child, node.element? = some child ∧ child.DataLike := by
      rw [outline, outlineAll_eq_map, List.forall_mem_map]
      refine forall₂_congr fun node member => ?_
      rw [node.element?_outline]
      cases isElement : node.element? with
      | none => exact Iff.rfl
      | some child =>
        have like := ih child (List.mem_filterMap.mpr ⟨node, member, isElement⟩)
        simp only [Option.map_some, Option.some.injEq, exists_eq_left', like]
    rw [dataLike_iff, dataLike_iff, names, alone, ownText_outline, inside]

end XmlGraft.Xml
