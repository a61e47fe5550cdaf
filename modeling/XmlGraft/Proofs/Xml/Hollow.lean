import XmlGraft.Proofs.Xml.Indented

/-!
# Hollow elements — two tags with nothing between

An empty text is written like none, but for one place. An element without children is one tag if it
has no text, and two tags if its text is empty: it is *hollow* (`Element.isHollow`). Since an empty
text is none when it is read again, the second tag is then gone. So a tree without its empty texts
is written like the tree exactly if no element in it is hollow (`Element.markup_trimmed_iff`).
-/

namespace XmlGraft.Xml

/-! ## The elements of a tree -/

mutual

/-- The elements in a node, in document order: itself, if it is one, and all inside it. -/
def Node.elements : Node → List Element
  | .element head children _ => ⟨head, children⟩ :: elementsAmong children
  | .comment _ _ | .instruction _ _ _ => []

/-- The elements among some nodes and inside them. -/
def elementsAmong : List Node → List Element
  | [] => []
  | node :: rest => node.elements ++ elementsAmong rest

end

/-- An element and all the elements inside it, in document order. -/
def Element.elements (e : Element) : List Element := e :: elementsAmong e.children

/-- The elements among some nodes are those in the elements that stand there. -/
theorem mem_elementsAmong {nodes : List Node} {inner : Element} :
    inner ∈ elementsAmong nodes ↔
      ∃ child ∈ nodes.filterMap Node.element?, inner ∈ child.elements := by
  induction nodes with
  | nil => exact iff_of_false List.not_mem_nil fun ⟨_, member, _⟩ => List.not_mem_nil member
  | cons node rest ih =>
    rw [elementsAmong, List.mem_append, ih]
    cases node with
    | element head children tail =>
      exact (List.exists_mem_cons_iff (fun child : Element => inner ∈ child.elements)
        ⟨head, children⟩ _).symm
    | _ => exact or_iff_right List.not_mem_nil

@[simp] theorem Node.elements_withTail (tail : Option String) (node : Node) :
    (node.withTail tail).elements = node.elements := by
  cases node with
  | _ => rfl

mutual

/-- The elements in a node obey its law, each in its surroundings. -/
theorem Node.Obeys.elements {law : Law} (node : Node) {above : List Declaration}
    (obeys : node.Obeys law above) : ∀ e ∈ node.elements, ∃ around, e.Obeys law around := by
  cases node with
  | element head children tail =>
    exact List.forall_mem_cons.mpr
      ⟨⟨above, obeys.1⟩, AllObey.elementsAmong children obeys.1.2.2⟩
  | comment content tail => exact fun _ member => absurd member List.not_mem_nil
  | instruction target content tail => exact fun _ member => absurd member List.not_mem_nil

/-- So do the elements in nodes side by side. -/
theorem AllObey.elementsAmong {law : Law} (nodes : List Node) {above : List Declaration}
    (obey : AllObey law above nodes) :
    ∀ e ∈ Xml.elementsAmong nodes, ∃ around, e.Obeys law around := by
  cases nodes with
  | nil => exact fun _ member => absurd member List.not_mem_nil
  | cons node rest =>
    exact List.forall_mem_append.mpr
      ⟨Node.Obeys.elements node obey.1, AllObey.elementsAmong rest obey.2⟩

end

/-! ## Hollow elements -/

/-- Whether an element has no children and an empty text. -/
def Element.isHollow (e : Element) : Bool := e.head.text = some "" && e.children.isEmpty

/-- An element is not hollow if it has no empty text where it has no children. -/
theorem Element.isHollow_eq_false_iff {e : Element} :
    e.isHollow = false ↔ (e.children = [] → e.head.text ≠ some "") := by
  rw [isHollow, Bool.and_eq_false_iff, decide_eq_false_iff_not, List.isEmpty_eq_false_iff]
  tauto

/-- A text that is not empty is read again as it is. -/
theorem trim_eq_self {text : Option String} (filled : text ≠ some "") : trim text = text := by
  cases text with
  | none => rfl
  | some t => rw [trim_some, if_neg fun empty => filled (congrArg some empty)]

/-- An empty text is written with no pieces, like none. -/
theorem optionalMarkup_trim (text : Option String) :
    optionalMarkup (trim text) = optionalMarkup text := by
  rw [optionalMarkup, optionalMarkup, textOf_trim]

namespace Head

/-- An element with pieces inside has two tags. -/
theorem around_of_ne_nil (head : Head) {inner : List Markup} (nonempty : inner ≠ []) :
    head.around inner = .opening head.tag head.entries false :: optionalMarkup head.text ++ inner ++
      [.closing head.tag] := by
  have some : (head.text.isNone && inner.isEmpty) = false :=
    Bool.and_eq_false_iff.mpr (.inr (List.isEmpty_eq_false_iff.mpr nonempty))
  rw [around, some, if_neg Bool.false_ne_true]

/-- The tags of a hollow element are two, and one without its empty text. -/
theorem around_hollow {head : Head} (empty : head.text = some "") :
    head.around [] = [.opening head.tag head.entries false, .closing head.tag] ∧
      { head with text := trim head.text }.around [] =
        [.opening head.tag head.entries true] := by
  obtain ⟨name, nsPrefix, declarations, attributes, text⟩ := head
  cases empty
  exact ⟨rfl, rfl⟩

end Head

/-! ## Pieces without empty texts -/

/-- Some nodes are written with pieces, also without their empty texts. -/
theorem markupAll_trimmedAll_ne_nil {nodes : List Node} (nonempty : nodes ≠ []) :
    markupAll nodes ≠ [] ∧ markupAll (trimmedAll nodes) ≠ [] := by
  cases nodes with
  | nil => exact absurd rfl nonempty
  | cons node rest =>
    exact ⟨fun none => absurd (markupAll_eq_nil none) (List.cons_ne_nil _ _),
      fun none => absurd (markupAll_eq_nil none) (List.cons_ne_nil _ _)⟩

mutual

/-- Each hollow element in a node takes one piece more than without its empty text. -/
theorem Node.length_markup (node : Node) :
    node.markup.length = node.trimmed.markup.length + node.elements.countP Element.isHollow := by
  cases node with
  | element head children tail =>
    have inside := length_markupAll children
    rw [Node.markup, Node.trimmed, Node.markup, Node.elements, List.countP_cons,
      optionalMarkup_trim, List.length_append, List.length_append]
    by_cases childless : children = []
    · rw [childless]
      by_cases empty : head.text = some ""
      · have hollow : Element.isHollow ⟨head, []⟩ = true := by simp [Element.isHollow, empty]
        obtain ⟨two, one⟩ := Head.around_hollow empty
        rw [markupAll, trimmedAll, markupAll, two, one, hollow, elementsAmong]
        simp only [List.length_cons, List.length_nil, List.countP_nil, if_true]
        omega
      · have filled : Element.isHollow ⟨head, []⟩ = false :=
          Element.isHollow_eq_false_iff.mpr fun _ => empty
        rw [trimmedAll, trim_eq_self empty, filled, elementsAmong]
        simp
    · have solid : Element.isHollow ⟨head, children⟩ = false :=
        Element.isHollow_eq_false_iff.mpr fun none => absurd none childless
      obtain ⟨pieces, trimmedPieces⟩ := markupAll_trimmedAll_ne_nil childless
      rw [Head.around_of_ne_nil _ pieces, Head.around_of_ne_nil _ trimmedPieces, solid,
        optionalMarkup_trim]
      simp only [List.length_append, List.length_cons, List.length_nil, inside]
      simp only [Bool.false_eq_true, if_false]
      omega
  | comment content tail =>
    rw [Node.markup, Node.trimmed, Node.markup, optionalMarkup_trim]
    rfl
  | instruction target content tail =>
    rw [Node.markup, Node.trimmed, Node.markup, optionalMarkup_trim]
    rfl

/-- So it is with nodes side by side. -/
theorem length_markupAll (nodes : List Node) :
    (markupAll nodes).length =
      (markupAll (trimmedAll nodes)).length + (elementsAmong nodes).countP Element.isHollow := by
  cases nodes with
  | nil => rfl
  | cons node rest =>
    have first := node.length_markup
    have others := length_markupAll rest
    rw [markupAll, trimmedAll, markupAll, elementsAmong, List.countP_append, List.length_append,
      List.length_append]
    omega

end

mutual

/-- A node without hollow elements is written as it is without its empty texts. -/
theorem Node.markup_trimmed (node : Node) (solid : ∀ e ∈ node.elements, e.isHollow = false) :
    node.trimmed.markup = node.markup := by
  cases node with
  | element head children tail =>
    obtain ⟨own, others⟩ := List.forall_mem_cons.mp solid
    have inside := markupAll_trimmedAll children others
    rw [Node.markup, Node.trimmed, Node.markup, optionalMarkup_trim, inside]
    by_cases childless : children = []
    · rw [trim_eq_self (Element.isHollow_eq_false_iff.mp own childless)]
    · obtain ⟨pieces, _⟩ := markupAll_trimmedAll_ne_nil childless
      rw [Head.around_of_ne_nil _ pieces, Head.around_of_ne_nil _ pieces, optionalMarkup_trim]
      rfl
  | comment content tail => rw [Node.markup, Node.trimmed, Node.markup, optionalMarkup_trim]
  | instruction target content tail =>
    rw [Node.markup, Node.trimmed, Node.markup, optionalMarkup_trim]

/-- So are nodes side by side. -/
theorem markupAll_trimmedAll (nodes : List Node)
    (solid : ∀ e ∈ elementsAmong nodes, e.isHollow = false) :
    markupAll (trimmedAll nodes) = markupAll nodes := by
  cases nodes with
  | nil => rfl
  | cons node rest =>
    obtain ⟨first, others⟩ := List.forall_mem_append.mp solid
    rw [trimmedAll, markupAll, markupAll, node.markup_trimmed first,
      markupAll_trimmedAll rest others]

end

/-- An element is written as it is without its empty texts exactly if no element in it is hollow. -/
theorem Element.markup_trimmed_iff {e : Element} :
    e.trimmed.markup = e.markup ↔ ∀ inner ∈ e.elements, inner.isHollow = false := by
  have node : ∀ e : Element, e.node.markup = e.markup := fun e => List.append_nil _
  have same : e.trimmed.node = e.node.trimmed := rfl
  rw [← node, ← node, same]
  constructor
  · intro written
    have lengths := e.node.length_markup
    rw [written] at lengths
    have none : e.node.elements.countP isHollow = 0 := by omega
    exact fun inner member => Bool.eq_false_iff.mpr (List.countP_eq_zero.mp none inner member)
  · exact e.node.markup_trimmed

/-! ## Layout -/

mutual

/-- Layout leaves the hollow elements in a node as they are. -/
theorem Node.countP_hollow_indented (node : Node) (level : Nat) :
    (node.indented level).elements.countP Element.isHollow =
      node.elements.countP Element.isHollow := by
  cases node with
  | element head children tail =>
    rw [Node.indented]
    split
    · rfl
    · next spread =>
      have nonempty : children.isEmpty = false := by
        rw [Bool.or_eq_true, not_or] at spread
        exact Bool.eq_false_iff.mpr spread.2
      have some : (indentedAll level children).isEmpty = false := by
        cases children with
        | nil => cases nonempty
        | cons node rest => rfl
      rw [Node.elements, Node.elements, List.countP_cons, List.countP_cons, Element.isHollow,
        Element.isHollow, nonempty, some, Bool.and_false, Bool.and_false,
        countP_hollow_indentedAll children level]
  | comment content tail => rfl
  | instruction target content tail => rfl

/-- So it is with the children of an element. -/
theorem countP_hollow_indentedAll (nodes : List Node) (level : Nat) :
    (elementsAmong (indentedAll level nodes)).countP Element.isHollow =
      (elementsAmong nodes).countP Element.isHollow := by
  cases nodes with
  | nil => rfl
  | cons node rest =>
    rw [indentedAll, elementsAmong, elementsAmong, List.countP_append, List.countP_append,
      Node.elements_withTail, node.countP_hollow_indented (level + 1),
      countP_hollow_indentedAll rest level]

end

/-- No element in an indented tree is hollow exactly if none in the tree is. -/
theorem Element.solid_indented_iff {e : Element} :
    (∀ inner ∈ e.indented.elements, inner.isHollow = false) ↔
      ∀ inner ∈ e.elements, inner.isHollow = false := by
  have none : ∀ e : Element, (∀ inner ∈ e.elements, inner.isHollow = false) ↔
      e.node.elements.countP isHollow = 0 := by
    intro e
    simp only [List.countP_eq_zero, Bool.not_eq_true]
    exact Iff.rfl
  rw [none, none, node_indented, Node.countP_hollow_indented]

end XmlGraft.Xml
