import XmlGraft.Proofs.Xml.Reread

/-!
# Indented trees — layout as text

Layout adds line breaks and blanks between the pieces of a tree, and these are text when they are
read. The indented tree has that text from the start (`Element.indented`), and is written as it
stands the way the tree is written on lines (`Element.markup_indented`). So what holds of the markup
of trees holds of their layout.

An indented tree differs from the tree in texts alone: it obeys the same laws, is as deep, and calls
for the same remarks.
-/

namespace XmlGraft.Xml

/-- The characters of a line break and the indentation of a level. -/
def indentation (level : Nat) : String :=
  String.ofList ('\n' :: List.replicate (2 * min level indentLimit) ' ')

mutual

/-- A node with line breaks for text wherever layout puts them inside it, from a level of
indentation on. -/
def Node.indented (level : Nat) : Node → Node
  | .element head children tail =>
    if hasMixedText head children || children.isEmpty then .element head children tail
    else
      .element { head with text := some (indentation (level + 1)) } (indentedAll level children)
        tail
  | .comment content tail => .comment content tail
  | .instruction target content tail => .instruction target content tail

/-- The children of an element at a level, each indented further and with a line break for its tail.
The last break leads back to the level of the element. -/
def indentedAll (level : Nat) : List Node → List Node
  | [] => []
  | node :: rest =>
    (node.indented (level + 1)).withTail
        (some (indentation (if rest.isEmpty then level else level + 1))) ::
      indentedAll level rest

end

/-- Whether layout leaves an element as it stands, since it has text beside its children or no
children. -/
def Element.unspread (e : Element) : Bool := hasMixedText e.head e.children || e.children.isEmpty

/-- An element with line breaks for text wherever layout puts them. -/
def Element.indented (e : Element) : Element :=
  if e.unspread then e
  else ⟨{ e.head with text := some (indentation 1) }, indentedAll 0 e.children⟩

/-- An indented element is an indented node. -/
theorem Element.node_indented (e : Element) : e.indented.node = e.node.indented 0 := by
  rw [Element.indented, apply_ite Element.node]
  rfl

/-! ## Line breaks as text -/

/-- The characters of a line break stand for themselves. -/
theorem mem_indentation {level : Nat} {c : Char} (member : c ∈ (indentation level).toList) :
    c = '\n' ∨ c = ' ' := by
  rw [indentation, String.toList_ofList] at member
  rcases List.mem_cons.mp member with first | other
  · exact .inl first
  · exact .inr (List.mem_replicate.mp other).2

/-- A line break is not empty. -/
theorem indentation_ne_empty (level : Nat) : indentation level ≠ "" := by
  intro empty
  have none := congrArg String.toList empty
  rw [indentation, String.toList_ofList] at none
  cases none

/-- A line break can stand in markup. -/
theorem writable_indentation (level : Nat) : Writable (some (indentation level)) := by
  apply writable_some
  refine List.all_eq_true.mpr fun c member => ?_
  rcases mem_indentation member with rfl | rfl
  · rfl
  · rfl

/-- Characters that stand for themselves are one piece. -/
theorem textMarkup_run (c : Char) (cs : List Char)
    (plain : ∀ d ∈ c :: cs, escapedInText d = false) :
    textMarkup (c :: cs) = [.chars (c :: cs)] := by
  induction cs generalizing c with
  | nil =>
    rw [textMarkup, plain c List.mem_cons_self]
    rfl
  | cons next rest ih =>
    obtain ⟨first, others⟩ := List.forall_mem_cons.mp plain
    rw [textMarkup, first, ih next others]
    rfl

/-- A line break is one piece. -/
theorem optionalMarkup_indentation (level : Nat) :
    optionalMarkup (some (indentation level)) = [lineBreak level] := by
  have plain : ∀ c ∈ (indentation level).toList, escapedInText c = false := by
    intro c member
    rcases mem_indentation member with rfl | rfl
    · rfl
    · rfl
  rw [indentation, String.toList_ofList] at plain
  have run := textMarkup_run _ _ plain
  rw [optionalMarkup, textOf, Option.getD_some, indentation, String.toList_ofList, run, lineBreak]

/-! ## Markup -/

/-- The pieces of a node end in those of its tail. -/
theorem Node.markup_withTail (node : Node) (tail : Option String) :
    (node.withTail tail).markup = (node.withTail none).markup ++ optionalMarkup tail := by
  have none : optionalMarkup none = [] := rfl
  cases node with
  | element head children _ =>
    simp only [withTail, markup, none, List.append_nil]
  | comment content _ => simp only [withTail, markup, none, List.cons_append, List.nil_append]
  | instruction target content _ =>
    simp only [withTail, markup, none, List.cons_append, List.nil_append]

/-- An element with text has an opening and a closing tag. -/
theorem Head.around_some {head : Head} {text : String} (inner : List Markup) :
    { head with text := some text }.around inner =
      .opening head.tag head.entries false :: optionalMarkup (some text) ++ inner ++
        [.closing head.tag] := rfl

mutual

/-- An indented node is written like the node on lines. -/
theorem Node.markup_indented (node : Node) (level : Nat) :
    ((node.indented level).withTail none).markup = node.laidOut level := by
  cases node with
  | element head children tail =>
    rw [Node.indented, Node.laidOut]
    by_cases unspread : (hasMixedText head children || children.isEmpty) = true
    · rw [if_pos unspread, if_pos unspread]
      exact List.append_nil _
    · rw [if_neg unspread, if_neg unspread]
      have nonempty : children ≠ [] := by
        rintro rfl
        exact unspread (Bool.or_true _)
      show Head.around _ (markupAll (indentedAll level children)) ++ [] = _
      rw [List.append_nil, Head.around_some, optionalMarkup_indentation, List.cons_append,
        List.singleton_append, markupAll_indentedAll children nonempty level, List.cons_append,
        List.append_assoc]
      rfl
  | comment content tail => rfl
  | instruction target content tail => rfl

/-- So are the children of an element, after a line break and with another at the end. -/
theorem markupAll_indentedAll (nodes : List Node) (nonempty : nodes ≠ []) (level : Nat) :
    lineBreak (level + 1) :: markupAll (indentedAll level nodes) =
      laidOutAll (level + 1) nodes ++ [lineBreak level] := by
  cases nodes with
  | nil => exact absurd rfl nonempty
  | cons node rest =>
    have first := node.markup_indented (level + 1)
    rw [indentedAll, markupAll, Node.markup_withTail, first, optionalMarkup_indentation,
      laidOutAll]
    by_cases last : rest = []
    · rw [last]
      simp only [List.isEmpty_nil, if_true, indentedAll, markupAll, laidOutAll, List.append_nil,
        List.cons_append]
    · have more : rest.isEmpty = false := List.isEmpty_eq_false_iff.mpr last
      rw [more, if_neg Bool.false_ne_true, List.append_assoc, List.singleton_append,
        markupAll_indentedAll rest last level, List.cons_append, List.cons_append,
        List.append_assoc]

end

/-- An indented element is written like the element on lines. -/
theorem Element.markup_indented (e : Element) : e.indented.markup = e.laidOut := by
  have node : ∀ e : Element, (e.node.withTail none).markup = e.markup := fun e =>
    List.append_nil _
  rw [← node, node_indented]
  exact e.node.markup_indented 0

/-! ## What indenting leaves alone -/

@[simp] theorem Node.levels_withTail (tail : Option String) (node : Node) :
    (node.withTail tail).levels = node.levels := by
  cases node with
  | _ => rfl

@[simp] theorem Node.noted_withTail (tail : Option String) (node : Node)
    (above : List Declaration) (b : Build) :
    (node.withTail tail).noted above b = node.noted above b := by
  cases node with
  | _ => rfl

mutual

/-- An indented node obeys the law of what was read, if the node does. -/
theorem Node.Obeys.indented (node : Node) {above : List Declaration}
    (obeys : node.Obeys readLaw above) (level : Nat) :
    (node.indented level).Obeys readLaw above := by
  cases node with
  | element head children tail =>
    rw [Node.indented]
    split
    · exact obeys
    · obtain ⟨⟨⟨denoted, lacks⟩, _, inside⟩, isTail⟩ := obeys
      exact ⟨⟨⟨{ denoted with }, lacks⟩, writable_indentation _,
        AllObey.indented children inside level⟩, isTail⟩
  | comment content tail => exact obeys
  | instruction target content tail => exact obeys

/-- So do the children of an element. -/
theorem AllObey.indented (nodes : List Node) {above : List Declaration}
    (obey : AllObey readLaw above nodes) (level : Nat) :
    AllObey readLaw above (indentedAll level nodes) := by
  cases nodes with
  | nil => trivial
  | cons node rest =>
    exact ⟨(Node.Obeys.indented node obey.1 (level + 1)).withTail (writable_indentation _),
      AllObey.indented rest obey.2 level⟩

end

mutual

/-- An indented node is as deep as the node. -/
theorem Node.levels_indented (node : Node) (level : Nat) :
    (node.indented level).levels = node.levels := by
  cases node with
  | element head children tail =>
    rw [Node.indented]
    split
    · rfl
    · rw [Node.levels, Node.levels, levelsOf_indentedAll children level]
  | comment content tail => rfl
  | instruction target content tail => rfl

/-- So are the children of an element. -/
theorem levelsOf_indentedAll (nodes : List Node) (level : Nat) :
    levelsOf (indentedAll level nodes) = levelsOf nodes := by
  cases nodes with
  | nil => rfl
  | cons node rest =>
    have first := node.levels_indented (level + 1)
    rw [indentedAll, levelsOf, levelsOf, Node.levels_withTail, first,
      levelsOf_indentedAll rest level]

end

mutual

/-- What is noted about an indented node is what is noted about the node. -/
theorem Node.noted_indented (node : Node) (level : Nat) (above : List Declaration) (b : Build) :
    (node.indented level).noted above b = node.noted above b := by
  cases node with
  | element head children tail =>
    rw [Node.indented]
    split
    · rfl
    · rw [Node.noted, Node.noted, notedAll_indentedAll children level]
      rfl
  | comment content tail => rfl
  | instruction target content tail => rfl

/-- So it is with the children of an element. -/
theorem notedAll_indentedAll (nodes : List Node) (level : Nat) (above : List Declaration)
    (b : Build) : notedAll above (indentedAll level nodes) b = notedAll above nodes b := by
  cases nodes with
  | nil => rfl
  | cons node rest =>
    rw [indentedAll, notedAll, notedAll, Node.noted_withTail, node.noted_indented (level + 1),
      notedAll_indentedAll rest level]

end

namespace Element

/-- An indented element obeys the law of what was read, if the element does. -/
theorem Obeys.indented {e : Element} (obeys : e.Obeys readLaw []) :
    e.indented.Obeys readLaw [] := by
  rw [← obeys_node, node_indented]
  exact Node.Obeys.indented e.node (obeys_node.mpr obeys) 0

/-- An indented element is as deep as the element. -/
theorem levels_indented (e : Element) : e.indented.levels = e.levels := by
  show e.indented.node.levels = e.node.levels
  rw [node_indented, Node.levels_indented]

/-- The last remark on the layout of an element is the last remark on its markup. -/
theorem lastRemark_indented (e : Element) : e.indented.lastRemark = e.lastRemark := by
  rw [lastRemark, node_indented, Node.noted_indented]
  rfl

end Element

end XmlGraft.Xml
