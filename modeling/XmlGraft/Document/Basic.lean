import XmlGraft.Xml.Reader

/-!
# Documents — at most one root element

A document owns a root element or is empty. It is written as a declaration line, the markup of the
root, and a final line break; an empty document is its declaration line alone.

A node of a document is found by its *address*: the indexes of the children that lead to it from the
root, counting comments and instructions like elements. The root has the empty address.
-/

namespace XmlGraft

open Xml

/-- A document: a root element, or nothing, and the count of namespace prefixes that have been made
up for elements moved into it. -/
structure Document where
  root : Option Element
  prefixesMade : Nat
deriving Repr

/-- The indexes of the children that lead from the root to a node. -/
abbrev Address := List Nat

namespace Document

/-- The document without a root. -/
def empty : Document := ⟨none, 0⟩

/-- The document with a given root. -/
def ofRoot (root : Element) : Document := ⟨some root, 0⟩

/-- The declaration line that documents are written with. -/
def standardDeclaration : String := "<?xml version=\"1.0\"?>"

/-- The document that a text denotes. -/
def read (mode : ReadingMode) (text : String) : Except Fault Document :=
  match Element.read mode text with
  | some root => .ok (.ofRoot root)
  | none => .error .malformedMarkup

/-- The markup of the root, laid out or as it stands. -/
def markup (pretty : Bool) (d : Document) : List Markup :=
  match d.root with
  | none => []
  | some root => if pretty then root.laidOut else root.markup

/-- A document as text, under a given declaration line. -/
def renderWith (declaration : String) (pretty : Bool) (d : Document) : String :=
  declaration ++ "\n" ++
    match d.root with
    | none => ""
    | some _ => renderAll (d.markup pretty) ++ "\n"

/-- A document as text. -/
def render (d : Document) : String := d.renderWith standardDeclaration false

/-- A document as text, each element on a line of its own where that leaves its text alone. -/
def renderPretty (d : Document) : String := d.renderWith standardDeclaration true

/-- A document in one line: the name of its root. -/
def summary (d : Document) : String :=
  match d.root with
  | none => "<Document root=None>"
  | some root => "<Document root=" ++ Text.quoted root.name.text ++ ">"

end Document

namespace Xml.Element

/-- The node at an address below an element. -/
def nodeAt? : Address → Element → Option Node
  | [], e => some e.node
  | index :: rest, e =>
    match e.children[index]? with
    | none => none
    | some node =>
      match rest, node.element? with
      | [], _ => some node
      | _, some inner => inner.nodeAt? rest
      | _, none => none

end Xml.Element

namespace Xml.Node

/-- Changes the node at an address below a node, given the scope above it. -/
def changeAt? {α : Type _} (change : Scope → Node → Node × α) :
    Address → Scope → Node → Option (Node × α)
  | [], above, node => some (change above node)
  | index :: rest, above, .element head children tail =>
    match children[index]? with
    | none => none
    | some child =>
      (changeAt? change rest (head.frame :: above) child).map fun (child, result) =>
        (.element head (children.set index child) tail, result)
  | _ :: _, _, _ => none

end Xml.Node

namespace Document

/-- The node at an address. -/
def nodeAt? (address : Address) (d : Document) : Option Node :=
  d.root.bind (Element.nodeAt? address)

/-- The element at an address. -/
def elementAt? (address : Address) (d : Document) : Option Element :=
  (d.nodeAt? address).bind Node.element?

/-- Changes the node at an address. The root remains an element. -/
def changeAt? {α : Type _} (change : Scope → Node → Node × α) (address : Address) (d : Document) :
    Option (Document × α) := do
  let root ← d.root
  let (node, result) ← root.node.changeAt? change address []
  let root ← node.element?
  return ({ d with root := some root }, result)

end Document

end XmlGraft
