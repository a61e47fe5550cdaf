import XmlGraft.Proofs.Document.Reading
import XmlGraft.Proofs.Xml.Outline

/-!
# Regrouping — the tree that the data of a tree denotes

Data keeps the attributes of an element, its text where it has nothing else, and its child elements
with those of one name together. The tree with just these (`Element.regrouped`) is read as the same
data (`Element.value_regrouped`). It is like data (`Element.dataLike_regrouped`), and so the outline
of a tree is this tree exactly if the tree is like data (`Element.regrouped_eq_outline_iff`).
-/

namespace XmlGraft

open Data

namespace Xml

/-! ## The tree with the children of one name together -/

/-- Child elements under their names. -/
def keyed (children : List Element) : List (String × Element) :=
  children.map fun child => (child.name.text, child)

/-- An element with the attributes of a head, with child elements of which those of one name stand
together, and with a text if it has nothing else. -/
def Head.regrouped (head : Head) (text : String) (children : List Element) : Element :=
  ⟨{ head.outline with
      text := if head.attributes = [] ∧ children = [] then trim (some text) else none },
    (together (keyed children)).map fun child => child.2.node⟩

mutual

/-- The element that a node is, with the children of one name together at every level; nothing for
a node that is no element. -/
def Node.regrouped? : Node → Option Element
  | .element head children _ =>
    some (head.regrouped (Element.ownText ⟨head, children⟩) (regroupedAll children))
  | .comment _ _ | .instruction _ _ _ => none

/-- The elements among some nodes, with the children of one name together at every level. -/
def regroupedAll : List Node → List Element
  | [] => []
  | node :: rest =>
    match node.regrouped? with
    | some e => e :: regroupedAll rest
    | none => regroupedAll rest

end

namespace Element

/-- An element with its attributes, its text if it has nothing else, and its child elements with
those of one name together, at every level. -/
def regrouped (e : Element) : Element := e.head.regrouped e.ownText (regroupedAll e.children)

end Element

/-- The element that a node is is regrouped. -/
theorem Node.regrouped?_eq (node : Node) :
    node.regrouped? = node.element?.map Element.regrouped := by
  cases node with
  | element head children tail => rw [regrouped?]; rfl
  | _ => rw [regrouped?]; rfl

/-- The elements among some nodes are regrouped one by one. -/
theorem regroupedAll_eq (nodes : List Node) :
    regroupedAll nodes = (nodes.filterMap Node.element?).map Element.regrouped := by
  induction nodes with
  | nil => rfl
  | cons node rest ih =>
    rw [regroupedAll, node.regrouped?_eq, ih]
    cases isElement : node.element? with
    | none => rw [List.filterMap_cons_none isElement]; rfl
    | some e => rw [List.filterMap_cons_some isElement]; rfl

/-- The elements among some nodes are read one by one. -/
theorem namedValues_eq (nodes : List Node) :
    namedValues nodes =
      (keyed (nodes.filterMap Node.element?)).map fun child => (child.1, child.2.value) := by
  induction nodes with
  | nil => rfl
  | cons node rest ih =>
    rw [namedValues, ih]
    cases node with
    | element head children tail => rw [Node.namedValue?]; rfl
    | comment content tail => rw [Node.namedValue?]; rfl
    | instruction target content tail => rw [Node.namedValue?]; rfl

/-! ## What it is like -/

/-- Child elements are regrouped under the same names. -/
theorem keyed_regrouped (children : List Element) :
    keyed (children.map Element.regrouped) =
      (keyed children).map fun child => (child.1, child.2.regrouped) := by
  rw [keyed, keyed, List.map_map, List.map_map]
  rfl

/-- A child element that was brought together with those of its name is one under its name. -/
theorem mem_together_keyed {children : List Element} {child : String × Element}
    (member : child ∈ together (keyed children)) :
    child.2 ∈ children ∧ child.1 = child.2.name.text := by
  obtain ⟨e, inChildren, rfl⟩ := List.mem_map.mp (mem_together.mp member)
  exact ⟨inChildren, rfl⟩

namespace Element

/-- The children of a regrouped tree. -/
theorem children_regrouped (e : Element) :
    e.regrouped.children =
      (together (keyed e.childElements)).map fun child => child.2.regrouped.node := by
  rw [regrouped, Head.regrouped, regroupedAll_eq, ← childElements, keyed_regrouped, together_map,
    List.map_map]
  rfl

/-- The child elements of a regrouped tree, under their names. -/
theorem keyed_childElements_regrouped (e : Element) :
    keyed e.regrouped.childElements =
      (together (keyed e.childElements)).map fun child => (child.1, child.2.regrouped) := by
  have elements : e.regrouped.childElements =
      (together (keyed e.childElements)).map fun child => child.2.regrouped := by
    rw [childElements, children_regrouped, List.filterMap_map]
    exact congrFun
      (List.filterMap_eq_map (f := fun child : String × Element => child.2.regrouped)) _
  rw [elements, keyed, List.map_map]
  refine List.map_congr_left fun child member => ?_
  exact congrArg (·, child.2.regrouped) (mem_together_keyed member).2.symm

/-- An element has neither attributes nor child elements if its regrouped tree has none. -/
theorem alone_regrouped (e : Element) :
    e.regrouped.head.attributes = [] ∧ e.regrouped.children = [] ↔
      e.head.attributes = [] ∧ e.childElements = [] := by
  have attributes : e.regrouped.head.attributes = [] ↔ e.head.attributes = [] :=
    List.map_eq_nil_iff
  have children : e.regrouped.children = [] ↔ e.childElements = [] := by
    rw [children_regrouped, List.map_eq_nil_iff, together_eq_nil_iff, keyed, List.map_eq_nil_iff]
  rw [attributes, children]

/-- The head of a regrouped tree is outlined but for its text. -/
theorem head_regrouped (e : Element) :
    e.regrouped.head = { e.head.outline with text := e.regrouped.head.text } := rfl

/-- The text before the children of a regrouped tree. -/
theorem text_regrouped (e : Element) :
    e.regrouped.head.text =
      if e.head.attributes = [] ∧ e.childElements = [] then trim (some e.ownText) else none := by
  rw [regrouped, Head.regrouped, regroupedAll_eq, ← childElements]
  simp only [List.map_eq_nil_iff]

/-- A regrouped tree has the text of an element that has nothing else, and no other text. -/
theorem ownText_regrouped (e : Element) :
    e.regrouped.ownText =
      if e.head.attributes = [] ∧ e.childElements = [] then e.ownText else "" := by
  have noTails : ∀ tail ∈ e.regrouped.children.map Node.tail, tail = none := by
    rw [children_regrouped, List.map_map, List.forall_mem_map]
    exact fun _ _ => rfl
  rw [ownText_eq, tailsAfter_none noTails, text_regrouped]
  split
  · exact textOf_trim _
  · rfl

/-- A regrouped tree is like data. -/
theorem dataLike_regrouped (e : Element) : e.regrouped.DataLike := by
  induction e using childInduction with
  | step e ih =>
    refine dataLike_iff.mpr ⟨?_, ?_, ?_⟩
    · rw [alone_regrouped, ownText_regrouped]
      by_cases alone : e.head.attributes = [] ∧ e.childElements = []
      · exact .inl alone
      · exact .inr (if_neg alone)
    · have names : e.regrouped.childElements.map (·.name.text) =
          (keyed e.regrouped.childElements).map (·.1) := by
        rw [keyed, List.map_map]
        rfl
      rw [names, keyed_childElements_regrouped, List.map_map]
      exact adjacent_together (keyed e.childElements)
    · rw [children_regrouped, List.forall_mem_map]
      intro child member
      exact ⟨child.2.regrouped, rfl, ih child.2 (mem_together_keyed member).1⟩

end Element

/-! ## What it is read as -/

/-- It does not matter in which order the children of different names are read. -/
theorem Head.value_together {head : Head} {text other : String} {children : List (String × Value)}
    (alone : head.attributes = [] → children = [] → text = other) :
    head.value text (together children) = head.value other children := by
  unfold Head.value
  rw [grouped_together]
  cases attributes : head.attributes with
  | cons a rest => rfl
  | nil =>
    cases children with
    | nil => rw [alone attributes rfl]; rfl
    | cons child rest =>
      have some : together (child :: rest) ≠ [] := by
        rw [Ne, together_eq_nil_iff]
        exact List.cons_ne_nil child rest
      rw [List.isEmpty_eq_false_iff.mpr some]
      rfl

namespace Element

/-- An element is read from its child elements, under their names. -/
theorem value_eq (e : Element) :
    e.value = e.head.value e.ownText
      ((keyed e.childElements).map fun child => (child.1, child.2.value)) := by
  rw [value, namedValues_eq]
  rfl

/-- A regrouped tree is read as the tree is. -/
theorem value_regrouped (e : Element) : e.regrouped.value = e.value := by
  induction e using childInduction with
  | step e ih =>
    have values : (keyed e.regrouped.childElements).map (fun child => (child.1, child.2.value)) =
        together ((keyed e.childElements).map fun child => (child.1, child.2.value)) := by
      rw [keyed_childElements_regrouped, together_map, List.map_map]
      refine List.map_congr_left fun child member => ?_
      exact congrArg (Prod.mk child.1) (ih child.2 (mem_together_keyed member).1)
    have sameAttributes : e.regrouped.head.attributes.map Attribute.content =
        e.head.attributes.map Attribute.content := by
      rw [regrouped, Head.regrouped, Head.outline, List.map_map]
      rfl
    rw [value_eq, value_eq, values, Head.value_congr sameAttributes, ownText_regrouped]
    refine Head.value_together fun noAttributes noChildren => if_pos ⟨noAttributes, ?_⟩
    rw [List.map_eq_nil_iff, keyed, List.map_eq_nil_iff] at noChildren
    exact noChildren

/-! ## Where it is the tree -/

/-- A tree like data has the same text before the children when it is regrouped, but for an empty
one. -/
theorem DataLike.text_regrouped {e : Element} (like : e.DataLike) :
    e.regrouped.head.text = trim e.head.text := by
  rw [e.text_regrouped]
  rcases (dataLike_iff.mp like).1 with ⟨noAttributes, noChildren⟩ | noText
  · have noElements : e.childElements = [] := by rw [childElements, noChildren]; rfl
    rw [if_pos ⟨noAttributes, noElements⟩, ownText, noChildren]
    exact trim_textOf e.head.text
  · rw [trim_eq_none_iff.mpr (ownText_eq_empty_iff.mp noText).1, noText]
    split
    · rfl
    · rfl

/-- A tree like data has no tails. -/
theorem DataLike.textOf_tail {e : Element} (like : e.DataLike) :
    ∀ node ∈ e.children, textOf node.tail = "" := by
  rcases (dataLike_iff.mp like).1 with ⟨_, noChildren⟩ | noText
  · rw [noChildren]
    exact fun _ member => absurd member List.not_mem_nil
  · exact (ownText_eq_empty_iff.mp noText).2

/-- A tree like data is regrouped as its outline. -/
theorem DataLike.regrouped_eq {e : Element} (like : e.DataLike) : e.regrouped = e.outline := by
  induction e using childInduction with
  | step e ih =>
    obtain ⟨_, adjacent, inside⟩ := dataLike_iff.mp like
    have order : together (keyed e.childElements) = keyed e.childElements := by
      refine together_eq_self ?_
      rw [keyed, List.map_map]
      exact adjacent
    have outlined : ∀ node ∈ e.children, ∃ child, node.element? = some child ∧
        node.outline = child.regrouped.node := by
      intro node member
      obtain ⟨child, isElement, likeChild⟩ := inside node member
      refine ⟨child, isElement, ?_⟩
      rw [ih child (List.mem_filterMap.mpr ⟨node, member, isElement⟩) likeChild]
      cases node with
      | element head children tail =>
        cases isElement
        have noTail : trim tail = none := trim_eq_none_iff.mpr (like.textOf_tail _ member)
        rw [Node.outline, noTail]
        rfl
      | _ => cases isElement
    have children : e.regrouped.children = outlineAll e.children := by
      rw [children_regrouped, order, keyed, List.map_map, outlineAll_eq_map, childElements]
      exact map_elements outlined
    have head : e.regrouped.head = e.head.outline := by
      rw [head_regrouped, like.text_regrouped]
      rfl
    exact (congrArg (Element.mk · _) head).trans (congrArg (Element.mk _) children)

/-- A regrouped tree is its outline. -/
theorem outline_regrouped (e : Element) : e.regrouped.outline = e.regrouped := by
  induction e using childInduction with
  | step e ih =>
    have text : trim e.regrouped.head.text = e.regrouped.head.text := by
      rw [text_regrouped]
      split
      · exact trim_trim _
      · rfl
    have head : e.regrouped.head.outline = e.regrouped.head := by
      rw [Head.outline, text, head_regrouped, Head.outline, List.map_map]
      rfl
    have children : outlineAll e.regrouped.children = e.regrouped.children := by
      rw [outlineAll_eq_map, children_regrouped, List.map_map]
      refine List.map_congr_left fun child member => ?_
      exact congrArg node (ih child.2 (mem_together_keyed member).1)
    rw [outline, head, children]

/-- The outline of a tree is the regrouped tree exactly if the tree is like data. -/
theorem regrouped_eq_outline_iff (e : Element) : e.regrouped = e.outline ↔ e.DataLike := by
  refine ⟨fun same => ?_, DataLike.regrouped_eq⟩
  rw [← dataLike_outline, ← same]
  exact e.dataLike_regrouped

end Element

end Xml

end XmlGraft
