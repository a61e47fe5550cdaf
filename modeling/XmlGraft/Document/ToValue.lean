import XmlGraft.Data.Equality
import XmlGraft.Document.Basic

/-!
# Values from documents — reading a tree as nested data

An element with neither attributes nor child elements is read as its text. Any other is read as a
dictionary: its attributes in order, under their names behind an `@` (of several with one name, the
first), and then one entry for each name among its child elements, in the order in which the names
first occur. A name that occurs once has the value of its element; one that occurs more often has
the list of the values, in document order. Text beside attributes or child elements is not read, and
neither are comments and instructions. -/

namespace XmlGraft

open Xml Data

namespace Data

/-- Groups of values under keys after a pair is put before all that was grouped: its value comes
first in the group of its key, and that group comes first. -/
def putFirst {α : Type _} (key : String) (value : α) (groups : List (String × List α)) :
    List (String × List α) :=
  (key, value :: (Entries.get? key groups).getD []) :: groups.filter fun group => group.1 ≠ key

/-- The values of some pairs, grouped by key, in the order in which the keys first occur. -/
def grouped {α : Type _} : List (String × α) → List (String × List α)
  | [] => []
  | (key, value) :: rest => putFirst key value (grouped rest)

/-- The value of a group: a lone value is itself. -/
def groupValue : List Value → Value
  | [only] => only
  | values => .list values

end Data

namespace Xml

/-- The key that an attribute is read under. -/
def Attribute.key (a : Attribute) : String := "@" ++ a.name.text

/-- The first attribute of each name, in order. -/
def firstOfEachName : List Attribute → List Attribute
  | [] => []
  | a :: rest => a :: (firstOfEachName rest).filter fun b => b.name ≠ a.name

/-- What an element is read as, given its text and its child elements as named values. -/
def Head.value (head : Head) (text : String) (children : List (String × Value)) : Value :=
  if head.attributes.isEmpty && children.isEmpty then .text text
  else
    .dict <|
      (firstOfEachName head.attributes).map (fun a => (.text a.key, .text a.value)) ++
        (grouped children).map fun group => (.text group.1, groupValue group.2)

mutual

/-- The value of a node under the name of its element; nothing for a node that is no element. -/
def Node.namedValue? : Node → Option (String × Value)
  | .element head children _ =>
    some (head.name.text,
      head.value (Element.ownText ⟨head, children⟩) (namedValues children))
  | .comment _ _ | .instruction _ _ _ => none

/-- The values of the elements among some nodes, under their names. -/
def namedValues : List Node → List (String × Value)
  | [] => []
  | node :: rest =>
    match node.namedValue? with
    | some value => value :: namedValues rest
    | none => namedValues rest

end

/-- What an element is read as. -/
def Element.value (e : Element) : Value := e.head.value e.ownText (namedValues e.children)

/-- An element as the root of a document, read as data. -/
def Element.rootValue (e : Element) : Value := .dict [(.text e.name.text, e.value)]

end Xml

/-- A document read as data; the empty document is the empty dictionary. -/
def Document.toValue (d : Document) : Value :=
  match d.root with
  | none => .dict []
  | some root => root.rootValue

end XmlGraft
