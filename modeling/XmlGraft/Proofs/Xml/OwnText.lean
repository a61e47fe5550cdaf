import XmlGraft.Xml.Tree

/-!
# Own text — what the text of an element depends on

The text of an element is its leading text and the tails of its children, so it depends on nothing
inside the children, and children without tails add nothing to it (`ownText_congr`). Setting it
leaves the tails of all children empty, and so the second of two texts wins.
-/

namespace XmlGraft.Xml

@[simp] theorem Node.tail_withTail (tail : Option String) (node : Node) :
    (node.withTail tail).tail = tail := by
  cases node with
  | _ => rfl

@[simp] theorem Node.withTail_withTail (tail other : Option String) (node : Node) :
    (node.withTail other).withTail tail = node.withTail tail := by
  cases node with
  | _ => rfl

/-- The tails that children have after a text, as one text. -/
def tailsAfter (start : String) (tails : List (Option String)) : String :=
  tails.foldl (fun text tail => text ++ textOf tail) start

/-- Children without tails have nothing to add. -/
theorem tailsAfter_none {tails : List (Option String)} (none : ∀ tail ∈ tails, tail = none)
    (start : String) : tailsAfter start tails = start := by
  induction tails with
  | nil => rfl
  | cons tail rest ih =>
    have empty : start ++ textOf tail = start := by
      rw [none tail List.mem_cons_self]
      exact String.append_empty
    have others := ih fun other member => none other (List.mem_cons_of_mem tail member)
    rw [tailsAfter, List.foldl_cons, empty]
    exact others

namespace Element

/-- The text of an element, by the tails of its children. -/
theorem ownText_eq (e : Element) :
    e.ownText = tailsAfter (textOf e.head.text) (e.children.map Node.tail) := by
  rw [ownText, tailsAfter, List.foldl_map]

/-- Elements with the same leading text have the same text if their children have the same tails,
but for further children without any. -/
theorem ownText_congr {e other : Element} (text : e.head.text = other.head.text)
    {more : List Node} (tails : e.children.map Node.tail = (other.children ++ more).map Node.tail)
    (none : ∀ node ∈ more, node.tail = none) : e.ownText = other.ownText := by
  rw [ownText_eq, ownText_eq, text, tails, List.map_append]
  have noTails : ∀ tail ∈ more.map Node.tail, tail = Option.none := by
    intro tail member
    obtain ⟨node, inMore, rfl⟩ := List.mem_map.mp member
    exact none node inMore
  have added := tailsAfter_none noTails
    (tailsAfter (textOf other.head.text) (other.children.map Node.tail))
  rw [tailsAfter, List.foldl_append]
  exact added

/-- The text depends on the characters of the leading text and the tails. -/
theorem ownText_eq_of_characters {e other : Element}
    (text : textOf e.head.text = textOf other.head.text)
    (tails : e.children.map (fun node => textOf node.tail) =
      other.children.map fun node => textOf node.tail) : e.ownText = other.ownText := by
  have characters : ∀ e : Element, e.ownText =
      (e.children.map fun node => textOf node.tail).foldl (· ++ ·) (textOf e.head.text) := by
    intro e
    rw [ownText, List.foldl_map]
  rw [characters, characters, text, tails]

/-- There is no text if the leading text and the tails have no characters. -/
theorem ownText_eq_empty_iff {e : Element} :
    e.ownText = "" ↔ textOf e.head.text = "" ∧ ∀ node ∈ e.children, textOf node.tail = "" := by
  have after : ∀ (nodes : List Node) (start : String),
      nodes.foldl (fun text child => text ++ textOf child.tail) start = "" ↔
        start = "" ∧ ∀ node ∈ nodes, textOf node.tail = "" := by
    intro nodes
    induction nodes with
    | nil => simp
    | cons node rest ih =>
      intro start
      rw [List.foldl_cons, ih, String.append_eq_empty_iff, List.forall_mem_cons, and_assoc]
  exact after e.children _

/-- A text that is set is all the text. -/
theorem ownText_withText (text : String) (e : Element) : (e.withText text).ownText = text := by
  have noTails : ∀ tail ∈ (e.withText text).children.map Node.tail, tail = none := by
    intro tail member
    simp only [withText, List.map_map] at member
    obtain ⟨node, _, rfl⟩ := List.mem_map.mp member
    exact Node.tail_withTail none node
  rw [ownText_eq, tailsAfter_none noTails]
  simp only [withText]
  split
  · next empty => rw [empty]; rfl
  · rfl

/-- The second of two texts wins. -/
theorem withText_withText (text other : String) (e : Element) :
    (e.withText other).withText text = e.withText text := by
  simp only [withText, List.map_map]
  refine congrArg _ (List.map_congr_left ?_)
  exact fun node _ => Node.withTail_withTail none none node

end Element

end XmlGraft.Xml
