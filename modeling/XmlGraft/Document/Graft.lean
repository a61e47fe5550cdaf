import XmlGraft.Document.Reach
import XmlGraft.Path.Grammar

/-!
# Grafting — writing along a path, creating what is missing

A path is walked from the document down, each step reaching a child of the element before it, and
its last step writes a value. A value becomes the text of the element that the path leads to, in
place of all its text, or the value of the attribute that it ends in. Without a value the walk only
makes what is missing; an attribute that is missing is made empty.

The walk stops at the first step that is refused. What it has made by then stays.
-/

namespace XmlGraft

open Xml XmlGraft.Path

namespace Xml.Element

/-- Writes a value as an attribute. Without a value an attribute that is missing is made empty. -/
def writeAttribute (above : Scope) (key : String) (value : Option String) (e : Element) :
    Except Fault Element :=
  match value with
  | some value => e.setAttribute above key value
  | none => do
    let name ← Name.ofText key
    if (e.attribute? name).isSome then return e else e.setAttribute above key ""

/-- Writes a value as text. Without a value nothing is written. -/
def writeText (value : Option String) (e : Element) : Element × Except Fault Unit :=
  match value with
  | some text => e.setText text
  | none => (e, .ok ())

/-- Walks steps down from an element and writes a value at their end, where some prefixes have been
made up. Answers with the element as it then is and the count of prefixes, and with the address of
the element that was written to. -/
def graft (value : Option String) :
    List Part → Scope → Nat → Element → (Element × Nat) × Except Fault Address
  | [], _, made, e =>
    let (written, outcome) := e.writeText value
    ((written, made), outcome.map fun _ => [])
  | [.attribute key], above, made, e =>
    match e.writeAttribute above key value with
    | .ok written => ((written, made), .ok [])
    | .error fault => ((e, made), .error fault)
  | step :: rest, above, made, e =>
    match e.reach above made step with
    | .error fault => ((e, made), .error fault)
    | .ok (focus, made) =>
      let ((inner, made), outcome) := graft value rest (e.head.frame :: above) made focus.target
      (({ focus with target := inner }.whole, made), outcome.map (focus.index :: ·))

end Xml.Element

namespace Document

/-- Walks steps down from a document and writes a value at their end. -/
def graftSteps (value : Option String) (steps : List Part) (d : Document) :
    Document × Except Fault Address :=
  match steps with
  | [] => (d, .error .noSuchCandidate)
  | step :: rest =>
    match d.reach step with
    | (left, .error fault) => (left, .error fault)
    | (left, .ok root) =>
      let ((root, made), outcome) := root.graft value rest [] left.prefixesMade
      (⟨some root, made⟩, outcome)

/-- Writes a value along a path, creating what is missing. Answers with the document as it then is,
and with the address of the element that was written to. -/
def graft (path : String) (value : Option String) (d : Document) :
    Document × Except Fault Address :=
  match Path.parse path with
  | .ok steps => d.graftSteps value steps
  | .error fault => (d, .error fault)

/-- The steps of a path that is given as a value: only a text can be a path. -/
def stepsOf : Data.Value → Except Fault (List Part)
  | .text path => Path.parse path
  | other => other.spell >>= fun shown => .error (.invalidPath shown)

/-- Writes a value of any kind along a path: its text, or nothing for none. The path is judged
before the value. -/
def assign (path value : Data.Value) (d : Document) : Document × Except Fault Address :=
  match stepsOf path, value with
  | .error fault, _ => (d, .error fault)
  | .ok steps, .null => d.graftSteps none steps
  | .ok steps, value =>
    match value.spell with
    | .ok text => d.graftSteps (some text) steps
    | .error fault => (d, .error fault)

end Document

end XmlGraft
