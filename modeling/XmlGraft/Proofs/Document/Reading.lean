import XmlGraft.Document.OfValue
import XmlGraft.Document.ToValue
import XmlGraft.Proofs.Xml.OwnText

/-!
# Reading — what an element is read as, wherever it stands

What an element is read as depends on the names and values of its attributes, its text and its
children, and not on prefixes and declarations. So it is read alike in all surroundings
(`value_settle`), and a child that is appended is read among the others as it would be alone
(`namedValues_appendAll`).
-/

namespace XmlGraft

open Xml Data

namespace Xml

/-! ## Attributes -/

/-- What an attribute is without its prefix. -/
def Attribute.content (a : Attribute) : Name × String := (a.name, a.value)

/-- The first pair of each name. -/
def firstPairs : List (Name × String) → List (Name × String)
  | [] => []
  | pair :: rest => pair :: (firstPairs rest).filter fun other => other.1 ≠ pair.1

theorem firstOfEachName_contents (attributes : List Attribute) :
    (firstOfEachName attributes).map Attribute.content =
      firstPairs (attributes.map Attribute.content) := by
  induction attributes with
  | nil => rfl
  | cons a rest ih =>
    rw [firstOfEachName, List.map_cons, List.map_cons, firstPairs, ← ih, List.filter_map]
    rfl

/-- The first attributes of each name are among the attributes, and there is one for each. -/
theorem mem_firstOfEachName (attributes : List Attribute) :
    (∀ a ∈ firstOfEachName attributes, a ∈ attributes) ∧
      ∀ a ∈ attributes, ∃ b ∈ firstOfEachName attributes, b.name = a.name := by
  induction attributes with
  | nil => exact ⟨fun _ member => member, fun _ member => absurd member List.not_mem_nil⟩
  | cons a rest ih =>
    obtain ⟨among, each⟩ := ih
    rw [firstOfEachName]
    refine ⟨List.forall_mem_cons.mpr ⟨List.mem_cons_self, fun b member =>
      List.mem_cons_of_mem a (among b (List.mem_filter.mp member).1)⟩,
      List.forall_mem_cons.mpr ⟨⟨a, List.mem_cons_self, rfl⟩, fun b member => ?_⟩⟩
    obtain ⟨c, first, named⟩ := each b member
    by_cases same : c.name = a.name
    · exact ⟨a, List.mem_cons_self, same.symm.trans named⟩
    · exact ⟨c, List.mem_cons_of_mem a (List.mem_filter.mpr ⟨first, decide_eq_true same⟩), named⟩

/-- The first attributes of each name have different names. -/
theorem nodup_firstOfEachName (attributes : List Attribute) :
    ((firstOfEachName attributes).map (·.name)).Nodup := by
  induction attributes with
  | nil => exact List.nodup_nil
  | cons a rest ih =>
    refine List.nodup_cons.mpr ⟨fun again => ?_, ih.sublist (List.filter_sublist.map _)⟩
    obtain ⟨b, kept, same⟩ := List.mem_map.mp again
    exact of_decide_eq_true (List.mem_filter.mp kept).2 same

/-- What a head is read as depends on its attributes without their prefixes. -/
theorem Head.value_congr {head other : Head}
    (same : head.attributes.map Attribute.content = other.attributes.map Attribute.content)
    (text : String) (children : List (String × Value)) :
    head.value text children = other.value text children := by
  have sameEmpty := congrArg List.isEmpty same
  rw [List.isEmpty_map, List.isEmpty_map] at sameEmpty
  have entries : ∀ head : Head,
      (firstOfEachName head.attributes).map (fun a => (Value.text a.key, Value.text a.value)) =
        (firstPairs (head.attributes.map Attribute.content)).map fun pair =>
          (Value.text ("@" ++ pair.1.text), Value.text pair.2) := by
    intro head
    rw [← firstOfEachName_contents, List.map_map]
    rfl
  rw [Head.value, Head.value, sameEmpty, entries, entries, same]

/-! ## New surroundings -/

/-- In new surroundings an attribute changes nothing but its prefix. -/
theorem Attribute.content_settle (scope : Scope) (moves : Moves) (made : Nat) (a : Attribute) :
    (a.settle scope moves made).1.content = a.content := by
  unfold Attribute.settle
  split
  · rfl
  · split
    · rfl
    · split
      · rfl
      · rfl
    · rfl

theorem contents_settleAttributes (above : Scope) (moves : Moves) (declared : List Declaration)
    (made : Nat) (attributes : List Attribute) :
    (settleAttributes above moves declared made attributes).1.map Attribute.content =
      attributes.map Attribute.content := by
  induction attributes generalizing declared made with
  | nil => rfl
  | cons a rest ih =>
    rw [settleAttributes, List.map_cons, List.map_cons, Attribute.content_settle, ih]

/-- In new surroundings a head keeps its name, its text and its attributes but for their prefixes.
-/
theorem Head.settle_content (scope : Scope) (moves : Moves) (made : Nat) (head : Head) :
    (head.settle scope moves made).1.name = head.name ∧
      (head.settle scope moves made).1.text = head.text ∧
      (head.settle scope moves made).1.attributes.map Attribute.content =
        head.attributes.map Attribute.content :=
  ⟨rfl, rfl, contents_settleAttributes scope moves (head.kept scope) made head.attributes⟩

/-- In new surroundings nodes keep their tails. -/
theorem tails_settleAll (scope : Scope) (moves : Moves) (made : Nat) (nodes : List Node) :
    (settleAll scope moves made nodes).1.map Node.tail = nodes.map Node.tail := by
  induction nodes generalizing made with
  | nil => rfl
  | cons node rest ih =>
    have first : (node.settle scope moves made).1.tail = node.tail := by
      cases node with
      | _ => rfl
    rw [settleAll, List.map_cons, List.map_cons, first, ih]

/-- In new surroundings an element keeps its text. -/
theorem ownText_settleAll {head settled : Head} (text : settled.text = head.text) (scope : Scope)
    (moves : Moves) (made : Nat) (children : List Node) :
    Element.ownText ⟨settled, (settleAll scope moves made children).1⟩ =
      Element.ownText ⟨head, children⟩ := by
  have tails : (settleAll scope moves made children).1.map Node.tail =
      (children ++ []).map Node.tail := by
    rw [List.append_nil]
    exact tails_settleAll scope moves made children
  exact Element.ownText_congr text tails fun _ member => absurd member List.not_mem_nil

mutual

/-- A node is read alike in new surroundings. -/
theorem Node.namedValue?_settle (node : Node) (scope : Scope) (moves : Moves) (made : Nat) :
    (node.settle scope moves made).1.namedValue? = node.namedValue? := by
  cases node with
  | element head children tail =>
    have content := head.settle_content scope (head.moves scope ++ moves) made
    have inside := namedValues_settleAll children
      ((head.settle scope (head.moves scope ++ moves) made).1.frame :: scope)
      (head.moves scope ++ moves) (head.settle scope (head.moves scope ++ moves) made).2
    have text := ownText_settleAll content.2.1
      ((head.settle scope (head.moves scope ++ moves) made).1.frame :: scope)
      (head.moves scope ++ moves) (head.settle scope (head.moves scope ++ moves) made).2 children
    simp only [Node.settle, Node.namedValue?, content.1, text, inside,
      Head.value_congr content.2.2]
  | comment content tail => rfl
  | instruction target content tail => rfl

/-- Nodes are read alike in new surroundings. -/
theorem namedValues_settleAll (nodes : List Node) (scope : Scope) (moves : Moves) (made : Nat) :
    namedValues (settleAll scope moves made nodes).1 = namedValues nodes := by
  cases nodes with
  | nil => rfl
  | cons node rest =>
    have first := Node.namedValue?_settle node scope moves made
    have others := namedValues_settleAll rest scope moves (node.settle scope moves made).2
    rw [settleAll, namedValues, namedValues, first, others]

end

/-- An element is read alike in new surroundings, under the same name. -/
theorem Element.value_settle (e : Element) (scope : Scope) (made : Nat) :
    (e.settle scope made).1.name = e.name ∧ (e.settle scope made).1.value = e.value := by
  have content := e.head.settle_content scope (e.head.moves scope) made
  have inside := namedValues_settleAll e.children
    ((e.head.settle scope (e.head.moves scope) made).1.frame :: scope) (e.head.moves scope)
    (e.head.settle scope (e.head.moves scope) made).2
  have text := ownText_settleAll content.2.1
    ((e.head.settle scope (e.head.moves scope) made).1.frame :: scope) (e.head.moves scope)
    (e.head.settle scope (e.head.moves scope) made).2 e.children
  refine ⟨content.1, ?_⟩
  simp only [Element.settle, Element.value, text, inside, Head.value_congr content.2.2]

/-! ## Children -/

theorem namedValues_append (first second : List Node) :
    namedValues (first ++ second) = namedValues first ++ namedValues second := by
  induction first with
  | nil => rfl
  | cons node rest ih =>
    rw [List.cons_append, namedValues, namedValues, ih]
    split
    · rfl
    · rfl

/-- A child that is appended is read after the others, and leaves the text alone. -/
theorem Element.namedValues_append (e child : Element) :
    namedValues (e.append child).children =
        namedValues e.children ++ [(child.name.text, child.value)] ∧
      (e.append child).ownText = e.ownText := by
  obtain ⟨sameName, sameValue⟩ := child.value_settle [e.head.frame] 0
  constructor
  · rw [append, Xml.namedValues_append, ← sameName, ← sameValue]
    rfl
  · refine ownText_congr rfl rfl ?_
    intro node member
    rw [List.mem_singleton.mp member]
    rfl

/-- Children that are appended are read after the others, and leave the text alone. -/
theorem Element.namedValues_appendAll (e : Element) (children : List Element) :
    (e.appendAll children).head = e.head ∧
      namedValues (e.appendAll children).children =
        namedValues e.children ++ children.map (fun child => (child.name.text, child.value)) ∧
      (e.appendAll children).ownText = e.ownText := by
  induction children generalizing e with
  | nil => exact ⟨rfl, (List.append_nil _).symm, rfl⟩
  | cons child rest ih =>
    obtain ⟨sameHead, values, text⟩ := ih (e.append child)
    obtain ⟨firstValue, firstText⟩ := e.namedValues_append child
    rw [firstValue, List.append_assoc] at values
    exact ⟨sameHead, values, text.trans firstText⟩

end Xml

end XmlGraft
