import XmlGraft.Data.Wrapping
import XmlGraft.Document.Basic
import XmlGraft.Xml.Namespace

/-!
# Documents from values — building a tree out of nested data

A mapping with one entry is a document: the entry's key names the root, its value is what the root
holds. A scalar is the text of an element. A mapping gives an element its attributes and children,
all attributes first. A sequence under a key stands for as many siblings as it has items, and so
cannot stand for the root. The empty mapping is the empty document.

Data is wrapped before anything is built, so what is wrong with its shape is found before what is
wrong with a name or a text.
-/

namespace XmlGraft

open Xml Data

namespace Data

/-- The single entry of a mapping that stands for a document; none for the empty document. -/
def documentEntry? (value : Value) : Except Fault (Option (String × Value)) :=
  match value with
  | .mapping [] => .ok none
  | .mapping [(tag, node)] =>
    if marksAttribute tag then .error (.attributeAsRoot tag)
    else if node.isSequence then .error (.repeatedRoot tag)
    else .ok (some (tag, node))
  | .mapping entries => .error (.severalRoots (entries.map (·.1)))
  | other => other.display >>= fun shown => .error (.notAMapping shown)

end Data

namespace Xml.Element

/-- A new element that holds a text. -/
def ofText (tag text : String) : Except Fault Element := do
  let e ← Element.new tag
  checkText text
  return e.withText text

/-- The text of an attribute entry. A mapping holds nothing else under an attribute key. -/
def attributeText : Value → String
  | .scalar text => text
  | _ => ""

/-- Sets attributes in order. -/
def setAttributes (e : Element) : List (String × Value) → Except Fault Element
  | [] => .ok e
  | (name, value) :: rest => do
    let e ← e.setAttribute [] name (attributeText value)
    e.setAttributes rest

/-- Appends elements in order to one that has no surroundings yet. -/
def appendAll (e : Element) (children : List Element) : Element :=
  children.foldl Element.append e

mutual

/-- The element that a structured value denotes under a key. -/
def ofValue (tag : String) : Value → Except Fault Element
  | .scalar text => ofText tag text
  | .mapping entries => do
    let e ← Element.new tag
    let e ← e.setAttributes (Value.attributesOf entries)
    let children ← ofEntries entries
    return e.appendAll children
  | other => do
    let _ ← Element.new tag
    let shown ← other.display
    .error (.noElement tag shown)

/-- The child elements that the entries of a mapping denote. -/
def ofEntries : List (String × Value) → Except Fault (List Element)
  | [] => .ok []
  | (key, .sequence items) :: rest =>
    if marksAttribute key then ofEntries rest
    else do
      let first ← ofItems key items
      let others ← ofEntries rest
      return first ++ others
  | (key, value) :: rest =>
    if marksAttribute key then ofEntries rest
    else do
      let first ← ofValue key value
      let others ← ofEntries rest
      return first :: others

/-- The siblings that the items of a sequence denote under its key. -/
def ofItems (tag : String) : List Value → Except Fault (List Element)
  | [] => .ok []
  | item :: rest => do
    let first ← ofValue tag item
    let others ← ofItems tag rest
    return first :: others

end

end Xml.Element

/-- The document that a value denotes. -/
def Document.ofValue (value : Value) : Except Fault Document := do
  let wrapped ← value.wrap
  match ← documentEntry? wrapped with
  | none => return .empty
  | some (tag, node) =>
    let root ← Element.ofValue tag node
    return .ofRoot root

end XmlGraft
