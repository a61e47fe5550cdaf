import XmlGraft.Xml.Blank
import XmlGraft.Xml.StartTag

/-!
# Building — markup to tree

Pieces are taken one at a time onto a stack of open elements. Here nesting is judged: tags must
match, and outside the root there are only blanks, comments and instructions, which do not belong to
the tree. Elements lie at most 256 deep. The last remark on the way decides whether the finished
tree stands.

A document may also be read for its data alone. Comments are then left out, the text on both sides
becoming one, and so are blank stretches that are layout.
-/

namespace XmlGraft.Xml

/-- What a document is read for: as it stands, or for its data alone. -/
inductive ReadingMode
  | faithful
  | dataOnly
deriving DecidableEq, Repr

/-- An element whose end tag has not come yet, with the declarations in force inside it, the nearest
first. The children are kept last first. -/
structure Opened where
  tag : String
  head : Head
  children : List Node
  declared : List Declaration
  blanks : BlankPolicy
deriving Repr

/-- What has been built: the open elements, innermost first, and the root once it is closed; with
the identifiers that have been given, and the last remark. -/
structure Build where
  opened : List Opened
  root : Option Element
  identifiers : List String
  remark : Option Remark
deriving Repr

/-- One text after another; where there is no text, none is added to. -/
def joinText (text : Option String) (more : String) : Option String := some (textOf text ++ more)

namespace Opened

/-- Adds text at the end of an open element: after its last child, or as its leading text. -/
def addText (text : String) (o : Opened) : Opened :=
  match o.children with
  | [] => { o with head := { o.head with text := joinText o.head.text text } }
  | last :: others =>
    { o with children := last.withTail (joinText last.tail text) :: others }

/-- Adds a child at the end of an open element. -/
def addChild (node : Node) (o : Opened) : Opened := { o with children := node :: o.children }

/-- The element that an open one becomes. -/
def close (o : Opened) : Element := ⟨o.head, o.children.reverse⟩

/-- Whether text stands at the end of an open element. -/
def endsInText (o : Opened) : Bool :=
  match o.children with
  | [] => o.head.text.isSome
  | last :: _ => last.tail.isSome

/-- Whether a blank stretch at the end of an open element is layout, given what comes next. -/
def isLayout (ahead : Ahead) (o : Opened) : Bool :=
  o.blanks.judges && !o.endsInText && o.head.text.isNone &&
    match ahead with
    | .text => false
    | .closing => !o.children.isEmpty
    | .markup | .lineBreak => true

/-- Adds a stretch of characters at the end of an open element, unless it is layout. -/
def addStretch (ahead : Ahead) (stretch : List Char) (o : Opened) : Opened :=
  if stretch.all Text.isBlank && o.isLayout ahead then o
  else { o.addText (String.ofList (unifyLineBreaks stretch)) with blanks := o.blanks.afterText }

/-- Adds stretches of characters one after another, given what comes after the last. -/
def addStretches (ahead : Ahead) : List (List Char) → Opened → Opened
  | [], o => o
  | [last], o => o.addStretch ahead last
  | stretch :: next :: rest, o =>
    (o.addStretch (.ofChars next) stretch).addStretches ahead (next :: rest)

/-- Adds a run of characters, as they are written, at the end of an open element. Reading for data
leaves out layout. -/
def addRun (mode : ReadingMode) (run : List Char) (next : Option Markup) (o : Opened) : Opened :=
  match mode with
  | .faithful => o.addText (String.ofList (unifyLineBreaks run))
  | .dataOnly => o.addStretches (.ofPiece next) (stretches run)

end Opened

/-- The greatest depth of elements that is read. -/
def depthLimit : Nat := 256

namespace Build

/-- Nothing built yet. -/
def start : Build := ⟨[], none, [], none⟩

/-- Adds a finished element: to the element around it, or as the root. -/
def addElement (e : Element) (b : Build) : Option Build :=
  match b.opened with
  | o :: others => some { b with opened := o.addChild e.node :: others }
  | [] => if b.root.isNone then some { b with root := some e } else none

/-- Applies a change to the innermost open element. -/
def inside (change : Opened → Opened) (b : Build) : Option Build :=
  match b.opened with
  | o :: others => some { b with opened := change o :: others }
  | [] => none

/-- Adds a node that may also stand outside the root, where it is not kept. -/
def addAside (node : Node) (b : Build) : Build :=
  match b.opened with
  | o :: others => { b with opened := o.addChild node :: others }
  | [] => b

/-- Takes note of remarks, in order. -/
def note (remarks : List Remark) (b : Build) : Build :=
  { b with remark := remarks.getLast?.or b.remark }

/-- Takes note of the identifier of an element, if it has one. -/
def noteIdentifier (head : Head) (b : Build) : Build :=
  match head.identifier? with
  | none => b
  | some value =>
    { b.note (remarkOnIdentifier? b.identifiers value).toList with
      identifiers := value :: b.identifiers }

/-- The declarations in force at the end of what has been built, the nearest first. -/
def declared (b : Build) : List Declaration := (b.opened.head?.map (·.declared)).getD []

/-- Opens an element, or adds an empty one. -/
def openElement? (tag : String) (entries : List (String × String)) (empty : Bool) (b : Build) :
    Option Build :=
  if depthLimit ≤ b.opened.length || (b.opened.isEmpty && b.root.isSome) then none
  else
    match Head.ofTag b.declared tag entries with
    | none => none
    | some (head, remarks) =>
      let b := (b.note remarks).noteIdentifier head
      if empty then b.addElement ⟨head, []⟩
      else
        let around := (b.opened.head?.map (·.blanks)).getD .judged
        let declared := head.declarations ++ b.declared
        some { b with opened := ⟨tag, head, [], declared, around.inside entries⟩ :: b.opened }

/-- Takes one piece, given the one that follows it. -/
def take (mode : ReadingMode) (piece : Markup) (next : Option Markup) (b : Build) : Option Build :=
  match piece with
  | .chars run =>
    match b.opened with
    | [] => if run.all Text.isBlank then some b else none
    | _ => b.inside (·.addRun mode run next)
  | .reference c => b.inside (·.addText (String.singleton c))
  | .cdata run => b.inside (·.addText (String.ofList run))
  | .comment content =>
    match mode with
    | .faithful => some (b.addAside (.comment content none))
    | .dataOnly => some b
  | .instruction target content =>
    some ((b.addAside (.instruction target content none)).note (remarkOnTarget? target).toList)
  | .opening tag entries empty => b.openElement? tag entries empty
  | .closing tag =>
    match b.opened with
    | [] => none
    | o :: others => if o.tag = tag then addElement o.close { b with opened := others } else none

/-- Takes pieces to their end. -/
def takeAll (mode : ReadingMode) : List Markup → Build → Option Build
  | [], b => some b
  | piece :: rest, b =>
    match b.take mode piece rest.head? with
    | some next => takeAll mode rest next
    | none => none

/-- The root, if it is closed and the document stands. -/
def finish (b : Build) : Option Element :=
  if b.opened.isEmpty && stands b.remark then b.root else none

end Build

/-- The root element that a run of pieces denotes. -/
def Element.ofMarkup (mode : ReadingMode) (pieces : List Markup) : Option Element :=
  (Build.takeAll mode pieces .start).bind Build.finish

end XmlGraft.Xml
