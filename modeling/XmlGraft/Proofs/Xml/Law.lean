import XmlGraft.Proofs.Xml.OwnText
import XmlGraft.Proofs.Xml.Plain

/-!
# Laws — what is asked of every part of a tree

A law asks something of each head in a tree, given the declarations in force around it, of each
text, and of what comments and instructions hold. A tree obeys it if all its parts do
(`Element.Obeys`).

A law is *closed* if it goes on to be obeyed where a tree is edited: it does not care for the text
of a head, and admits attributes without a namespace, and new elements without one at the root and
below such elements (`Law.Closed`).
-/

namespace XmlGraft.Xml

/-- An optional text that can stand in markup. -/
def Writable (text : Option String) : Prop := ∀ t ∈ text, compatible t = true

theorem writable_none : Writable none := fun _ none => nomatch none

theorem writable_some {t : String} (writable : compatible t = true) : Writable (some t) := by
  rintro _ ⟨⟩
  exact writable

/-- What is asked of every part of a tree. That there is no text is always admitted. -/
structure Law where
  head : List Declaration → Head → Prop
  text : Option String → Prop
  text_none : text none
  comment : String → Prop
  instruction : String → Option String → Prop

mutual

/-- All parts of a node obey a law, given the declarations in force around it. -/
def Node.Obeys (law : Law) (above : List Declaration) : Node → Prop
  | .element head children tail =>
    (law.head above head ∧ law.text head.text ∧ AllObey law (head.declarations ++ above) children) ∧
      law.text tail
  | .comment content tail => law.comment content ∧ law.text tail
  | .instruction target content tail => law.instruction target content ∧ law.text tail

/-- All parts of some nodes obey a law. -/
def AllObey (law : Law) (above : List Declaration) : List Node → Prop
  | [] => True
  | node :: rest => node.Obeys law above ∧ AllObey law above rest

end

/-- All parts of an element obey a law. -/
def Element.Obeys (law : Law) (above : List Declaration) (e : Element) : Prop :=
  law.head above e.head ∧ law.text e.head.text ∧
    AllObey law (e.head.declarations ++ above) e.children

/-- Nodes obey a law if each of them does. -/
theorem allObey_iff {law : Law} {above : List Declaration} {nodes : List Node} :
    AllObey law above nodes ↔ ∀ node ∈ nodes, node.Obeys law above := by
  induction nodes with
  | nil => exact iff_of_true trivial fun _ member => absurd member List.not_mem_nil
  | cons node rest ih => rw [AllObey, ih, List.forall_mem_cons]

/-- A law that stays obeyed where a tree is edited. -/
structure Law.Closed (law : Law) : Prop where
  text {above : List Declaration} {head : Head} (text : Option String) :
    law.head above head → law.head above { head with text := text }
  filled {text : String} : text ≠ "" → compatible text = true → law.text (some text)
  put {above : List Declaration} {head : Head} {key value : String} :
    isNCName key = true → compatible value = true → law.head above head →
      law.head above
        { head with attributes := putAttribute ⟨.bare key, "", value⟩ head.attributes }
  root {name : String} : isNCName name = true → law.head [] (Element.blank name).head
  child {above : List Declaration} {head : Head} {parent name : String} :
    law.head above head → head.name = .bare parent → isNCName parent = true →
      isNCName name = true → law.head (head.declarations ++ above) (Element.blank name).head

section

variable {law : Law} {above : List Declaration}

/-- A node obeys a law with another tail. -/
theorem Node.Obeys.withTail {node : Node} (obeys : node.Obeys law above) {tail : Option String}
    (admitted : law.text tail) : (node.withTail tail).Obeys law above := by
  cases node with
  | _ => exact ⟨obeys.1, admitted⟩

mutual

/-- What obeys a law obeys every law that asks for less. -/
theorem Node.Obeys.imp {other : Law} (node : Node)
    (head : ∀ above head, law.head above head → other.head above head)
    (text : ∀ text, law.text text → other.text text)
    (comment : ∀ content, law.comment content → other.comment content)
    (instruction : ∀ target content, law.instruction target content →
      other.instruction target content) {above : List Declaration}
    (obeys : node.Obeys law above) : node.Obeys other above := by
  cases node with
  | element inner children tail =>
    obtain ⟨⟨isHead, isText, inside⟩, isTail⟩ := obeys
    exact ⟨⟨head above inner isHead, text _ isText,
      AllObey.imp children head text comment instruction inside⟩, text _ isTail⟩
  | comment content tail => exact ⟨comment content obeys.1, text _ obeys.2⟩
  | instruction target content tail =>
    exact ⟨instruction target content obeys.1, text _ obeys.2⟩

/-- So it is with nodes side by side. -/
theorem AllObey.imp {other : Law} (nodes : List Node)
    (head : ∀ above head, law.head above head → other.head above head)
    (text : ∀ text, law.text text → other.text text)
    (comment : ∀ content, law.comment content → other.comment content)
    (instruction : ∀ target content, law.instruction target content →
      other.instruction target content) {above : List Declaration}
    (obey : AllObey law above nodes) : AllObey other above nodes := by
  cases nodes with
  | nil => trivial
  | cons node rest =>
    exact ⟨Node.Obeys.imp node head text comment instruction obey.1,
      AllObey.imp rest head text comment instruction obey.2⟩

end

namespace Element

/-- An element is a node that obeys the same, with a tail. -/
theorem obeys_node {e : Element} :
    e.node.Obeys law above ↔ e.Obeys law above :=
  ⟨fun obeys => obeys.1, fun obeys => ⟨obeys, law.text_none⟩⟩

/-- More children may be appended that obey the law inside the element. -/
theorem Obeys.append {e : Element} (obeys : e.Obeys law above) {nodes : List Node}
    (more : ∀ node ∈ nodes, node.Obeys law (e.head.declarations ++ above)) :
    Element.Obeys law above ⟨e.head, e.children ++ nodes⟩ := by
  refine ⟨obeys.1, obeys.2.1, allObey_iff.mpr ?_⟩
  intro node member
  rcases List.mem_append.mp member with member | member
  · exact allObey_iff.mp obeys.2.2 node member
  · exact more node member

/-- A new element obeys the law where it is admitted. -/
theorem obeys_blank {name : String} (admitted : law.head above (blank name).head) :
    (blank name).Obeys law above :=
  ⟨admitted, law.text_none, trivial⟩

variable (closed : law.Closed)

include closed

/-- A text that can stand in markup may be set. -/
theorem Obeys.withText {e : Element} (obeys : e.Obeys law above) {text : String}
    (writable : compatible text = true) : (e.withText text).Obeys law above := by
  refine ⟨closed.text _ obeys.1, ?_, allObey_iff.mpr ?_⟩
  · simp only [Element.withText]
    split
    · exact law.text_none
    · next filled => exact closed.filled filled writable
  · intro node member
    obtain ⟨inner, inChildren, rfl⟩ := List.mem_map.mp member
    exact (allObey_iff.mp obeys.2.2 inner inChildren).withTail law.text_none

/-- The text before the children may be dropped. -/
theorem Obeys.withoutText {e : Element} (obeys : e.Obeys law above) :
    Element.Obeys law above ⟨{ e.head with text := none }, e.children⟩ :=
  ⟨closed.text none obeys.1, law.text_none, obeys.2.2⟩

/-- An attribute may be set that has no namespace. -/
theorem Obeys.withAttribute {e : Element} (obeys : e.Obeys law above) {key value : String}
    (isName : isNCName key = true) (writable : compatible value = true) :
    (e.withAttribute key value).Obeys law above :=
  ⟨closed.put isName writable obeys.1, obeys.2⟩

end Element

end

end XmlGraft.Xml
