import XmlGraft.Data.Wrapping
import XmlGraft.Document.Basic
import XmlGraft.Path.Printer
import XmlGraft.Xml.Namespace

/-!
# Reaching a child — the element that a step designates, made where it is missing

A step designates a child of the element reached so far. Where no child fits, one is appended that
does: for a position, as many as are missing; for an attribute or child predicate, one that
satisfies it. Nothing that existed is moved, removed or renamed.

At an element (`Element.reach`) this either answers with a `Focus`, the element with one child
picked out, or refuses and changes nothing. At a document (`Document.reach`) it can fail half way,
since a document has one root: a position above one in an empty document leaves the root that it
made. That is why operations on documents answer with the document they leave, whatever the outcome.

An element that is appended may need namespace prefixes that are made up for it. The count of these
goes in with the surroundings and comes out with the focus.

Faults are met in a fixed order: the name of the step as the name of a child, then a predicate that
is none or whose names cannot be looked up (the latter only if there are candidates), then what is
wrong with the element to be made.
-/

namespace XmlGraft

open Xml XmlGraft.Path

/-- An element with one of its child elements picked out. -/
structure Focus where
  head : Head
  before : List Node
  target : Element
  tail : Option String
  after : List Node

namespace Focus

/-- The element, its target back among the other children. -/
def whole (f : Focus) : Element :=
  ⟨f.head, f.before ++ .element f.target.head f.target.children f.tail :: f.after⟩

/-- The index of the target among the children. -/
def index (f : Focus) : Nat := f.before.length

/-- The focus one child further from the front. -/
def pushBefore (node : Node) (f : Focus) : Focus := { f with before := node :: f.before }

end Focus

namespace Xml.Element

/-- Picks the child element that satisfies a test, after skipping some that do too. -/
def pickAmong (head : Head) (test : Element → Bool) : (skip : Nat) → List Node → Option Focus
  | _, [] => none
  | skip, .element inner children tail :: rest =>
    if test ⟨inner, children⟩ then
      match skip with
      | 0 => some ⟨head, [], ⟨inner, children⟩, tail, rest⟩
      | skip + 1 =>
        (pickAmong head test skip rest).map (·.pushBefore (.element inner children tail))
    else (pickAmong head test skip rest).map (·.pushBefore (.element inner children tail))
  | skip, node :: rest => (pickAmong head test skip rest).map (·.pushBefore node)

/-- Picks a child element that satisfies a test, after skipping some that do too. -/
def pick (test : Element → Bool) (skip : Nat) (e : Element) : Option Focus :=
  pickAmong e.head test skip e.children

/-- Appends an element some number of times, and once more; the last one is picked. -/
def grow (above : Scope) (made extra : Nat) (e child : Element) : Focus × Nat :=
  let (settled, made) := child.settle (e.head.frame :: above) made
  (⟨e.head, e.children ++ List.replicate extra settled.node, settled, none, []⟩, made)

end Xml.Element

/-- The index among candidates that a position stands for. Positions count from one; a position
below that counts from the end, zero standing for the last. -/
def candidateIndex (count : Nat) (position : Int) : Option Nat :=
  let index := if 0 < position then position - 1 else count + position - 1
  if 0 ≤ index ∧ index < count then some index.toNat else none

/-- The test that a predicate makes of an element. A position makes none by itself. -/
def predicateTest : Part → Except Fault (Element → Bool)
  | .attributeIs key value => do
    let name ← Name.ofText key
    return fun e => e.attribute? name == some value
  | .childIs key value => do
    let pattern ← NamePattern.ofText key
    return fun e => (e.elementsFitting pattern).any fun child => child.ownText == value
  | predicate => predicate.display >>= fun shown => .error (.unsupportedPredicate shown)

/-- A new element with one child of a given name and text. -/
def seedChild (key value : String) (e : Element) : Except Fault Element := do
  let name ← elementName key
  checkText value
  let child : Element := ⟨Head.new [e.head.frame] name, []⟩
  return ⟨e.head, e.children ++ [(child.withText value).node]⟩

/-- A new element of a given name that satisfies a predicate. -/
def seeded (name : String) : Part → Except Fault Element
  | .attributeIs key value => Element.new name >>= Element.setAttribute [] key value
  | .childIs key value => Element.new name >>= seedChild key value
  | _ => Element.new name

/-- Steps that are none: what they lack is met when it is asked for, the name first. -/
def notAStep (part : Part) : Fault :=
  match part with
  | .position _ => .noMember part.kind "name"
  | _ => .noMember part.kind "predicate"

namespace Xml.Element

/-- Resolves an element step with a predicate that is no position. -/
def reachTested (above : Scope) (made : Nat) (pattern : NamePattern) (name : String)
    (predicate : Part) (e : Element) : Except Fault (Focus × Nat) := do
  let found ←
    -- the names in a predicate are judged by the first candidate
    if (e.elementsFitting pattern).isEmpty then
      match predicate with
      | .attributeIs _ _ | .childIs _ _ => pure none
      | _ => predicateTest predicate >>= fun _ => pure none
    else do
      let test ← predicateTest predicate
      pure (e.pick (fun child => pattern.fits child.name && test child) 0)
  match found with
  | some focus => return (focus, made)
  | none =>
    let child ← seeded name predicate
    return e.grow above made 0 child

/-- Resolves an element step with a position. -/
def reachPosition (above : Scope) (made : Nat) (pattern : NamePattern) (name : String)
    (position : Int) (e : Element) : Except Fault (Focus × Nat) := do
  let count := (e.elementsFitting pattern).length
  if position ≤ count then
    match (candidateIndex count position).bind
        (fun skip => e.pick (fun child => pattern.fits child.name) skip) with
    | some focus => return (focus, made)
    | none => .error .noSuchCandidate
  else
    let child ← Element.new name
    return e.grow above made (position - count - 1).toNat child

/-- The child that a step designates, picked out among the children it is found in or appended to.
-/
def reach (above : Scope) (made : Nat) (step : Part) (e : Element) :
    Except Fault (Focus × Nat) :=
  match step with
  | .element name => do
    let pattern ← NamePattern.ofText name
    match e.pick (fun child => pattern.fits child.name) 0 with
    | some focus => return (focus, made)
    | none =>
      let child ← Element.new name
      return e.grow above made 0 child
  | .filtered name predicate => do
    let pattern ← NamePattern.ofText name
    match predicate with
    | .position index => e.reachPosition above made pattern name index
    | _ => e.reachTested above made pattern name predicate
  | .position _ => .error (notAStep step)
  | .attribute name | .attributeIs name _ | .childIs name _ =>
    NamePattern.ofText name >>= fun _ => .error (notAStep step)

end Xml.Element

namespace Document

/-- Gives a document its root, if it has none. -/
def addRoot (e : Element) (d : Document) : Document × Except Fault Element :=
  match d.root with
  | some root => (d, .error (.secondRoot e.name.text root.name.text))
  | none => ({ d with root := some e }, .ok e)

/-- Gives a document its root, if the root can be made. -/
def addMade (made : Except Fault Element) (d : Document) : Document × Except Fault Element :=
  match made with
  | .ok e => d.addRoot e
  | .error fault => (d, .error fault)

/-- The root, if it has a given name. -/
def candidate? (name : String) (d : Document) : Option Element :=
  d.root.filter fun root => root.name.text == name

/-- Resolves a step with a position at a document. Every root beyond the first is refused. -/
def reachPosition (name : String) (position : Int) (d : Document) :
    Document × Except Fault Element :=
  let candidates := (d.candidate? name).toList
  if position ≤ candidates.length then
    match (candidateIndex candidates.length position).bind (candidates[·]?) with
    | some root => (d, .ok root)
    | none => (d, .error .noSuchCandidate)
  else
    match d.addMade (Element.new name) with
    | (made, .ok root) =>
      if position - candidates.length = 1 then (made, .ok root) else made.addRoot root
    | refused => refused

/-- Resolves a step with a predicate that is no position at a document. -/
def reachTested (name : String) (predicate : Part) (d : Document) :
    Document × Except Fault Element :=
  match d.candidate? name, predicate with
  | none, .attributeIs _ _ | none, .childIs _ _ => d.addMade (seeded name predicate)
  | candidate, _ =>
    match predicateTest predicate, candidate with
    | .error fault, _ => (d, .error fault)
    | .ok _, none => d.addMade (seeded name predicate)
    | .ok test, some root => if test root then (d, .ok root) else d.addMade (seeded name predicate)

/-- The root, if a step designates it, or a new root for an empty document. -/
def reach (step : Part) (d : Document) : Document × Except Fault Element :=
  match step with
  | .element name =>
    match d.candidate? name with
    | some root => (d, .ok root)
    | none => d.addMade (Element.new name)
  | .filtered name (.position index) => d.reachPosition name index
  | .filtered name predicate => d.reachTested name predicate
  | _ => (d, .error (notAStep step))

/-- The fault of a step at a node that has no children: what is wrong with the step itself, and else
that no child can be added. -/
def faultWithoutChildren (step : Part) : Fault :=
  match (⟨Head.new [] (.bare ""), []⟩ : Element).reach [] 0 step with
  | .error fault => fault
  | .ok _ => .noChildren

/-- Resolves a step at a node, and answers with the node as it then is, and with the index of the
child that the step designates and the count of prefixes made up by then. -/
def reachNode (above : Scope) (made : Nat) (step : Part) :
    Node → Node × Except Fault (Nat × Nat)
  | .element head children tail =>
    match (⟨head, children⟩ : Element).reach above made step with
    | .ok (focus, made) => (focus.whole.node.withTail tail, .ok (focus.index, made))
    | .error fault => (.element head children tail, .error fault)
  | node => (node, .error (faultWithoutChildren step))

/-- Resolves a step at an address, or at the document itself, and answers with the address of the
element that it designates. An address that leads nowhere has no answer. -/
def reachAt? (address : Option Address) (step : Part) (d : Document) :
    Option (Document × Except Fault Address) :=
  match address with
  | none =>
    let (left, outcome) := d.reach step
    some (left, outcome.map fun _ => [])
  | some address =>
    match d.changeAt? (fun above node => reachNode above d.prefixesMade step node) address with
    | none => none
    | some (left, .ok (index, made)) =>
      some ({ left with prefixesMade := made }, .ok (address ++ [index]))
    | some (left, .error fault) => some (left, .error fault)

end Document

end XmlGraft
