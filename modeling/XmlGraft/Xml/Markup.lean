import XmlGraft.Decimal.Layout
import XmlGraft.Xml.Tree

/-!
# Markup — a document as a run of pieces

Between the characters of a document and its tree stands a run of pieces: tags, comments,
processing instructions, and the characters between them, which are written as themselves, by a
reference, or inside a CDATA section. A tree has one such run (`Element.markup`), and a run has one
text (`Markup.render`). Reading goes the same way back.

Names are qualified names here, as they are written, and the declarations of namespaces are
attributes like others.
-/

namespace XmlGraft.Xml

/-- A piece of a document. -/
inductive Markup
  /-- Characters written as themselves. -/
  | chars (run : List Char)
  /-- A character written as a reference. -/
  | reference (c : Char)
  /-- Characters inside a CDATA section. -/
  | cdata (run : List Char)
  /-- A start tag, or the tag of an empty element. -/
  | opening (name : String) (attributes : List (String × String)) (empty : Bool)
  | closing (name : String)
  | comment (content : String)
  | instruction (target : String) (content : Option String)
deriving DecidableEq, Repr

/-- The written form of a reference to a character: by name for the marks of markup, by number for
all else. -/
def renderReference (c : Char) : List Char :=
  if c = '&' then "&amp;".toList
  else if c = '<' then "&lt;".toList
  else if c = '>' then "&gt;".toList
  else if c = '"' then "&quot;".toList
  else '&' :: '#' :: Decimal.decimalDigits c.toNat ++ [';']

/-- The characters that text writes as references. -/
def escapedInText (c : Char) : Bool := c = '&' || c = '<' || c = '>' || c = '\r'

/-- The characters that attribute values write as references. -/
def escapedInValue (c : Char) : Bool :=
  c = '&' || c = '<' || c = '>' || c = '"' || c = '\t' || c = '\n' || c = '\r'

/-- An attribute value between its quotes. -/
def renderValue (value : String) : List Char :=
  value.toList.flatMap fun c => if escapedInValue c then renderReference c else [c]

/-- An attribute with the blank before it. -/
def renderAttribute (entry : String × String) : List Char :=
  ' ' :: entry.1.toList ++ '=' :: '"' :: renderValue entry.2 ++ ['"']

namespace Markup

/-- The text of a piece. -/
def render : Markup → List Char
  | chars run => run
  | reference c => renderReference c
  | cdata run => "<![CDATA[".toList ++ run ++ "]]>".toList
  | opening name attributes empty =>
    '<' :: name.toList ++ attributes.flatMap renderAttribute ++
      if empty then ['/', '>'] else ['>']
  | closing name => '<' :: '/' :: name.toList ++ ['>']
  | comment content => "<!--".toList ++ content.toList ++ "-->".toList
  | instruction target content =>
    '<' :: '?' :: target.toList ++
      (match content with
        | some data => ' ' :: data.toList
        | none => []) ++ ['?', '>']

end Markup

/-- The text of a run of pieces. -/
def renderAll (pieces : List Markup) : String := String.ofList (pieces.flatMap Markup.render)

/-- The pieces of a text: runs of characters that stand for themselves, and references. -/
def textMarkup : List Char → List Markup
  | [] => []
  | c :: rest =>
    if escapedInText c then .reference c :: textMarkup rest
    else
      match textMarkup rest with
      | .chars run :: others => .chars (c :: run) :: others
      | others => .chars [c] :: others

/-- The pieces of an optional text. -/
def optionalMarkup (text : Option String) : List Markup := textMarkup (textOf text).toList

/-- A label behind a prefix, if there is one. -/
def qualified (nsPrefix label : String) : String :=
  if nsPrefix = "" then label else nsPrefix ++ ":" ++ label

/-- A declaration as the attribute that makes it. -/
def Declaration.entry (d : Declaration) : String × String :=
  (if d.nsPrefix = "" then "xmlns" else "xmlns:" ++ d.nsPrefix, d.uri)

/-- An attribute under its qualified name. -/
def Attribute.entry (a : Attribute) : String × String :=
  (qualified a.nsPrefix a.name.label, a.value)

namespace Head

/-- The qualified name of an element. -/
def tag (head : Head) : String := qualified head.nsPrefix head.name.label

/-- What stands in the start tag of an element: its declarations, and then its attributes. -/
def entries (head : Head) : List (String × String) :=
  head.declarations.map Declaration.entry ++ head.attributes.map Attribute.entry

/-- The pieces of an element around those of its children. An element with neither text nor children
is one tag. -/
def around (head : Head) (inner : List Markup) : List Markup :=
  if head.text.isNone && inner.isEmpty then [.opening head.tag head.entries true]
  else
    .opening head.tag head.entries false :: optionalMarkup head.text ++ inner ++
      [.closing head.tag]

end Head

mutual

/-- The pieces of a node and of its tail. -/
def Node.markup : Node → List Markup
  | .element head children tail => head.around (markupAll children) ++ optionalMarkup tail
  | .comment content tail => .comment content :: optionalMarkup tail
  | .instruction target content tail => .instruction target content :: optionalMarkup tail

/-- The pieces of nodes side by side. -/
def markupAll : List Node → List Markup
  | [] => []
  | node :: rest => node.markup ++ markupAll rest

end

/-- The pieces of an element. -/
def Element.markup (e : Element) : List Markup := e.head.around (markupAll e.children)

/-- Whether an element has text beside its children, where layout would change the text. -/
def hasMixedText (head : Head) (children : List Node) : Bool :=
  head.text.isSome || children.any fun child => child.tail.isSome

/-- The deepest level to which lines are indented further. -/
def indentLimit : Nat := 30

/-- A line break and the indentation of a level, two blanks for each. -/
def lineBreak (level : Nat) : Markup :=
  .chars ('\n' :: List.replicate (2 * min level indentLimit) ' ')

mutual

/-- The pieces of a node on lines of its own, from a level of indentation on. An element with mixed
text is written without layout, and so is everything inside it. -/
def Node.laidOut (level : Nat) : Node → List Markup
  | .element head children _ =>
    if hasMixedText head children || children.isEmpty then head.around (markupAll children)
    else
      .opening head.tag head.entries false :: laidOutAll (level + 1) children ++
        [lineBreak level, .closing head.tag]
  | .comment content _ => [.comment content]
  | .instruction target content _ => [.instruction target content]

/-- Nodes side by side, each after a line break. -/
def laidOutAll (level : Nat) : List Node → List Markup
  | [] => []
  | node :: rest => lineBreak level :: node.laidOut level ++ laidOutAll level rest

end

/-- The pieces of an element with each child on a line of its own. -/
def Element.laidOut (e : Element) : List Markup := e.node.laidOut 0

end XmlGraft.Xml
