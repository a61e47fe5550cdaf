import XmlGraft.Document.OfValue
import XmlGraft.Document.Graft

/-!
# Writes — nested data as a list of things to write

Data is turned into paths with the texts to write there, in an order such that grafting them one
after another onto an empty document builds the tree that the data denotes. Repeated siblings are
addressed by position. An element with neither text, attributes nor children has a path without a
text, which only makes it; so has an element whose entries are all empty sequences, since no path
below would make it.
-/

namespace XmlGraft

open Xml Data XmlGraft.Path

/-- A path and the text to write there, if any. -/
abbrev Write := String × Option String

/-- A text to write, if it is not empty. -/
def someText (text : String) : Option String := if text = "" then none else some text

/-- The write of a text, or of nothing, at the end of some steps. -/
def writeAt (steps : List Part) (text : Option String) : Except Fault (List Write) :=
  (Path.print steps).map fun path => [(path, text)]

/-- The writes of attribute entries. -/
def writesOfAttributes (steps : List Part) : List (String × Value) → Except Fault (List Write)
  | [] => .ok []
  | (name, value) :: rest => do
    let first ← writeAt (steps ++ [.attribute name]) (some (Element.attributeText value))
    let others ← writesOfAttributes steps rest
    return first ++ others

mutual

/-- The writes that build what a structured value denotes at the end of some steps. -/
def writesOf (steps : List Part) : Value → Except Fault (List Write)
  | .scalar text => writeAt steps (someText text)
  | .mapping entries =>
    if entries.isEmpty then writeAt steps none
    else do
      let attributes ← writesOfAttributes steps (Value.attributesOf entries)
      let children ← writesOfEntries steps entries
      if attributes.isEmpty && children.isEmpty then writeAt steps none
      else return attributes ++ children
  | other => .error (.noMember other.kind "attributes")

/-- The writes of the element entries of a mapping. -/
def writesOfEntries (steps : List Part) : List (String × Value) → Except Fault (List Write)
  | [] => .ok []
  | (key, .sequence items) :: rest =>
    if marksAttribute key then writesOfEntries steps rest
    else do
      let first ← writesOfItems steps key 1 items
      let others ← writesOfEntries steps rest
      return first ++ others
  | (key, value) :: rest =>
    if marksAttribute key then writesOfEntries steps rest
    else do
      let first ← writesOf (steps ++ [.element key]) value
      let others ← writesOfEntries steps rest
      return first ++ others

/-- The writes of the items of a sequence, from a position on. -/
def writesOfItems (steps : List Part) (key : String) (position : Nat) :
    List Value → Except Fault (List Write)
  | [] => .ok []
  | item :: rest => do
    let first ← writesOf (steps ++ [.filtered key (.position position)]) item
    let others ← writesOfItems steps key (position + 1) rest
    return first ++ others

end

/-- The writes that build the document that a value denotes. -/
def Data.Value.writes (value : Value) : Except Fault (List Write) := do
  let wrapped ← value.wrap
  match ← documentEntry? wrapped with
  | none => return []
  | some (tag, node) => writesOf [.element tag] node

namespace Document

/-- Writes in order, up to the first that is refused. -/
def graftAll (d : Document) : List Write → Document × Except Fault Unit
  | [] => (d, .ok ())
  | (path, text) :: rest =>
    match d.graft path text with
    | (left, .ok _) => left.graftAll rest
    | (left, .error fault) => (left, .error fault)

end Document

end XmlGraft
