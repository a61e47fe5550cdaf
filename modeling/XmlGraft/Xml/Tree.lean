import XmlGraft.Xml.Name

/-!
# Trees — elements, their text and their children

An element has a head and children. Text is kept with the node that it follows: the text before the
first child is the element's own, and the text after a child is that child's *tail*. A text is
optional, because an empty text node differs from none where the element is written.

Comments and processing instructions are nodes like elements. They have tails and a place among the
children, and nothing inside.
-/

namespace XmlGraft.Xml

/-- A declaration that binds a prefix to a namespace; the empty prefix is the default namespace. -/
structure Declaration where
  nsPrefix : String
  uri : String
deriving DecidableEq, Repr

/-- An attribute, with the prefix that it is written with. -/
structure Attribute where
  name : Name
  nsPrefix : String
  value : String
deriving DecidableEq, Repr

/-- What an element has besides its children: its name and the prefix that it is written with, the
namespaces that it declares, its attributes in order, and its leading text. -/
structure Head where
  name : Name
  nsPrefix : String
  declarations : List Declaration
  attributes : List Attribute
  text : Option String
deriving DecidableEq, Repr

/-- A node with the text that follows it. -/
inductive Node
  | element (head : Head) (children : List Node) (tail : Option String)
  | comment (content : String) (tail : Option String)
  | instruction (target : String) (content : Option String) (tail : Option String)
deriving Inhabited, Repr

/-- An element by itself, without a tail. -/
structure Element where
  head : Head
  children : List Node
deriving Repr

/-- The characters of an optional text. -/
def textOf (text : Option String) : String := text.getD ""

namespace Node

/-- The text that follows a node. -/
def tail : Node → Option String
  | element _ _ tail | comment _ tail | instruction _ _ tail => tail

/-- The node with another text after it. -/
def withTail (tail : Option String) : Node → Node
  | element head children _ => element head children tail
  | comment content _ => comment content tail
  | instruction target content _ => instruction target content tail

/-- The element that a node is, without its tail. -/
def element? : Node → Option Element
  | element head children _ => some ⟨head, children⟩
  | _ => none

/-- Whether a node is an element with a name that fits a pattern. -/
def named (pattern : NamePattern) : Node → Bool
  | element head _ _ => pattern.fits head.name
  | _ => false

end Node

namespace Element

/-- The name of an element. -/
def name (e : Element) : Name := e.head.name

/-- The element as a node without a tail. -/
def node (e : Element) : Node := .element e.head e.children none

/-- The child elements with names that fit a pattern, in order. -/
def elementsFitting (pattern : NamePattern) (e : Element) : List Element :=
  (e.children.filter (Node.named pattern)).filterMap Node.element?

/-- The text of an element: its leading text and the tails of its children. What is inside the
children is not part of it. -/
def ownText (e : Element) : String :=
  e.children.foldl (fun text child => text ++ textOf child.tail) (textOf e.head.text)

/-- The value of an attribute. -/
def attribute? (name : Name) (e : Element) : Option String :=
  (e.head.attributes.find? fun a => a.name == name).map (·.value)

/-- The element with its leading text replaced and the tails of all its children dropped, so that
this text is all its text; none is left for an empty one. -/
def withText (text : String) (e : Element) : Element :=
  ⟨{ e.head with text := if text = "" then none else some text },
    e.children.map (Node.withTail none)⟩

/-- Sets the text of an element. A text that markup cannot hold is refused; by then the leading text
is gone, and nothing else has changed. -/
def setText (text : String) (e : Element) : Element × Except Fault Unit :=
  if compatible text then (e.withText text, .ok ())
  else (⟨{ e.head with text := none }, e.children⟩, .error .forbiddenText)

end Element

namespace Node

/-- The text of a node: that of an element, or what a comment or an instruction holds. -/
def ownText : Node → String
  | element head children _ => Element.ownText ⟨head, children⟩
  | comment content _ => content
  | instruction _ content _ => textOf content

/-- Sets the text of a node. A refused text leaves a comment or an instruction as it was; an empty
one takes from an instruction what it holds. -/
def setText (text : String) : Node → Node × Except Fault Unit
  | element head children tail =>
    let (e, outcome) := Element.setText text ⟨head, children⟩
    (.element e.head e.children tail, outcome)
  | comment content tail =>
    if compatible text then (.comment text tail, .ok ())
    else (.comment content tail, .error .forbiddenText)
  | instruction target content tail =>
    if compatible text then
      (.instruction target (if text = "" then none else some text) tail, .ok ())
    else (.instruction target content tail, .error .forbiddenText)

end Node

end XmlGraft.Xml
