import XmlGraft.Proofs.Document.AppendOnly
import XmlGraft.Proofs.Document.Count
import XmlGraft.Proofs.Document.Independence

/-!
# Positional paths — what they lead to stays what they lead to

A path is *positional* if its steps ask for a name and perhaps a position, and for nothing else.
Once a write along such a path has succeeded, each of its steps finds a child that is there
(`Element.Leads`). Writes add elements only behind those that are there, and rename none, so that
the first child of a name, or the child of a name at a position, is the same child after any further
writes, whichever paths and values they have and whether or not they succeed (`Leads.keepsNames`).

So the path leads to the element at the same address ever after, and no later write along it makes
an element. It answers with that address unless its value is refused (`assign_positional`).
-/

namespace XmlGraft

open Xml XmlGraft.Path

namespace Path.Part

/-- Whether a step asks for a name and perhaps a position, and for nothing else. -/
def isPositional : Part → Bool
  | .element _ | .filtered _ (.position _) | .attribute _ => true
  | _ => false

/-- A positional step asks nothing of a child but its name. -/
theorem asks_of_isPositional {step : Part} (positional : step.isPositional = true) (e : Element) :
    step.asks e = true := by
  cases step with
  | filtered name predicate =>
    cases predicate with
    | position index => rfl
    | _ => cases positional
  | _ => rfl

end Path.Part

namespace Xml.Element

/-! ## Names that are kept -/

/-- The nodes of an element are in another one too, at their addresses and with their names. -/
def KeepsNames (e left : Element) : Prop :=
  ∀ address node, e.nodeAt? address = some node →
    ∃ after, left.nodeAt? address = some after ∧ after.name? = node.name?

/-- A change that leaves each node at its address keeps its name. -/
theorem Framed.keepsNames {f : Footprint} {e left : Element} (framed : e.Framed f left) :
    e.KeepsNames left := by
  intro address node found
  obtain ⟨after, foundAfter, keeps⟩ := framed address node found
  refine ⟨after, foundAfter, ?_⟩
  cases keeps with
  | element keepsHead _ _ => exact congrArg some keepsHead.name
  | comment => rfl
  | instruction => rfl

/-- The nodes below a child that is an element are the nodes of that element. -/
theorem nodeAt?_below {e : Element} {index : Nat} {head : Head} {children : List Node}
    {tail : Option String} (found : e.children[index]? = some (.element head children tail))
    (next : Nat) (rest : Address) :
    e.nodeAt? (index :: next :: rest) = (⟨head, children⟩ : Element).nodeAt? (next :: rest) := by
  rw [nodeAt?, found]
  rfl

variable {e left : Element}

/-- The children of an element keep their names. -/
theorem KeepsNames.child (keeps : e.KeepsNames left) {index : Nat} {node : Node}
    (found : e.children[index]? = some node) :
    ∃ after, left.children[index]? = some after ∧ after.name? = node.name? := by
  rw [← nodeAt?_index] at found ⊢
  exact keeps [index] node found

/-- A child that is an element is one of the same name afterwards, and keeps the names below it. -/
theorem KeepsNames.element (keeps : e.KeepsNames left) {index : Nat} {head : Head}
    {children : List Node} {tail : Option String}
    (found : e.children[index]? = some (.element head children tail)) :
    ∃ after afterTail, left.children[index]? = some (.element after.head after.children afterTail) ∧
      after.name = head.name ∧ KeepsNames ⟨head, children⟩ after := by
  obtain ⟨node, foundAfter, same⟩ := keeps.child found
  cases node with
  | element afterHead more afterTail =>
    refine ⟨⟨afterHead, more⟩, afterTail, foundAfter, Option.some.inj same, ?_⟩
    intro address node foundNode
    cases address with
    | nil =>
      cases foundNode
      exact ⟨_, rfl, same⟩
    | cons next rest =>
      rw [← nodeAt?_below found] at foundNode
      rw [← nodeAt?_below foundAfter]
      exact keeps _ node foundNode
  | comment => cases same
  | instruction => cases same

/-- The first children of an element keep their names, as many as there are. -/
theorem KeepsNames.take (keeps : e.KeepsNames left) {count : Nat}
    (within : count ≤ e.children.length) :
    (left.children.take count).map Node.name? = (e.children.take count).map Node.name? := by
  apply List.ext_getElem?
  intro index
  simp only [List.getElem?_map, List.getElem?_take]
  split
  · next inside =>
    have there : e.children[index]? = some e.children[index] := List.getElem?_eq_getElem (by omega)
    obtain ⟨after, found, same⟩ := keeps.child there
    simp only [found, there, Option.map_some, same]
  · rfl

/-! ## Where a path leads -/

/-- Steps lead to the element at an address: each of them finds a child that is there. -/
inductive Leads : List Part → Address → Element → Prop
  | here (e : Element) : Leads [] [] e
  | attribute (key : String) (e : Element) : Leads [.attribute key] [] e
  | child {step : Part} (head : step.IsElementStep) {rest : List Part} {f : Focus}
    (finds : f.Finds step.accepts step.passesOver) {inside : Address}
    (below : Leads rest inside f.target) : Leads (step :: rest) (f.index :: inside) f.whole

/-- A walk that succeeded leads where it ended. -/
theorem leads_of_place {steps : List Part} (tail : IsTail steps)
    (byName : ∀ step ∈ steps, ∀ e, step.asks e = true) {value : Option String} {address : Address}
    (placed : e.place value steps = (left, .ok address)) : Leads steps address left := by
  induction tail generalizing e left address with
  | nil =>
    obtain ⟨_, _, rfl⟩ := map_eq_ok.mp (Prod.mk.inj placed).2
    exact .here left
  | @last key isName =>
    obtain ⟨_, rfl⟩ := place_last_eq_ok.mp placed
    exact .attribute key left
  | @step step rest head tail ih =>
    obtain ⟨asksNothing, others⟩ := List.forall_mem_cons.mp byName
    obtain ⟨f, inner, inside, designated, reached, rfl, rfl⟩ := (place_step_eq_ok head).mp placed
    have finds := finds_of_designated head.isChildStep designated
    have accepts := accepts_of_place asksNothing tail reached finds.target
    exact .child head (finds.retarget accepts) (ih others reached)

/-- A path goes on leading where it leads while names are kept. -/
theorem Leads.keepsNames {steps : List Part} {address : Address} (leads : Leads steps address e)
    (byName : ∀ step ∈ steps, ∀ e, step.asks e = true) (keeps : e.KeepsNames left) :
    Leads steps address left := by
  induction leads generalizing left with
  | here => exact .here left
  | «attribute» key => exact .attribute key left
  | @child step head rest f finds inside below ih =>
    obtain ⟨asksNothing, others⟩ := List.forall_mem_cons.mp byName
    obtain ⟨after, afterTail, found, named, keepsBelow⟩ := keeps.element f.children_index
    have within := (List.getElem?_eq_some_iff.mp f.children_index).1
    have front : f.whole.children.take f.index = f.before := List.take_left
    obtain ⟨h, rfl, index, rfl, findsAgain⟩ := finds.of_names asksNothing found named
      (by rw [keeps.take (Nat.le_of_lt within), front])
    rw [← index]
    exact .child head findsAgain (ih others keepsBelow)

/-- A walk along a path that leads somewhere makes no element, and ends there unless markup cannot
hold its value. -/
theorem Leads.place_eq {steps : List Part} {address : Address} (leads : Leads steps address e)
    (tail : IsTail steps) (value : Option String) :
    (e.place value steps).1.elementCount = e.elementCount ∧
      (e.place value steps).2 =
        if value.all compatible then .ok address else .error .forbiddenText := by
  induction leads with
  | here e =>
    refine ⟨elementCount_writeText value e, ?_⟩
    cases value with
    | none => rfl
    | some text =>
      by_cases writable : compatible text = true <;>
        simp [place, writeText, setText, writable]
  | «attribute» key e =>
    cases tail with
    | last isName =>
      refine ⟨elementCount_place_last isName value e, ?_⟩
      rw [place, writeAttribute_plain isName]
      cases value with
      | none => rfl
      | some text => by_cases writable : compatible text = true <;> simp [writable]
    | step head _ => exact head.elim
  | @child step head rest f finds inside below ih =>
    cases tail with
    | last _ => exact head.elim
    | step _ tail =>
      obtain ⟨count, outcome⟩ := ih tail
      rw [place_step head, designated_of_finds finds]
      constructor
      · have around := f.elementCount_retarget (f.target.place value rest).1
        show (f.retarget (f.target.place value rest).1).whole.elementCount = f.whole.elementCount
        omega
      · simp only [outcome]
        split
        · rfl
        · rfl

end Xml.Element

namespace Document

/-- Steps lead from a document to the element at an address: the first is for its root, and the
others lead on from there. -/
def Leads (steps : List Part) (address : Address) (d : Document) : Prop :=
  ∃ root step rest, d.root = some root ∧ steps = step :: rest ∧
    (step.accepts root = true ∧ step.passesOver = 0) ∧ Element.Leads rest address root

variable {steps : List Part} {address : Address} {d left : Document}

/-- A walk that succeeded leads where it ended. -/
theorem leads_of_graftSteps (path : WellFormed steps)
    (byName : ∀ step ∈ steps, ∀ e, step.asks e = true) {value : Option String}
    (grafted : d.graftSteps value steps = (left, .ok address)) : left.Leads steps address := by
  cases steps with
  | nil => exact path.elim
  | cons step rest =>
    obtain ⟨head, tail⟩ := path
    obtain ⟨asksNothing, others⟩ := List.forall_mem_cons.mp byName
    obtain ⟨root, written, reached, placed, rfl⟩ :=
      (graftSteps_eq_ok_iff ⟨head, tail⟩).mp grafted
    obtain ⟨-, first, accepts, -⟩ := (reach_eq_ok_iff head).mp reached
    have again := Element.accepts_of_place asksNothing tail placed accepts
    exact ⟨written, step, rest, rfl, rfl, ⟨again, first⟩,
      Element.leads_of_place tail others placed⟩

/-- A path goes on leading where it leads, whatever is written. -/
theorem Leads.framed (leads : d.Leads steps address)
    (byName : ∀ step ∈ steps, ∀ e, step.asks e = true) {f : Footprint} (framed : d.Framed f left) :
    left.Leads steps address := by
  obtain ⟨root, step, rest, rooted, rfl, ⟨accepts, first⟩, below⟩ := leads
  obtain ⟨asksNothing, others⟩ := List.forall_mem_cons.mp byName
  obtain ⟨after, rootedAfter, keeps⟩ := framed root rooted
  obtain ⟨node, found, same⟩ := keeps.keepsNames [] _ rfl
  cases found
  have named : after.name = root.name := Option.some.inj same
  refine ⟨after, step, rest, rootedAfter, rfl, ⟨?_, first⟩,
    below.keepsNames others keeps.keepsNames⟩
  rw [Part.accepts_of_name (named.trans (Part.name_of_accepts accepts))]
  exact asksNothing after

/-- A walk along a path that leads somewhere makes no element, and ends there unless markup cannot
hold its value. -/
theorem Leads.graftSteps_eq (leads : d.Leads steps address) (path : WellFormed steps)
    (value : Option String) :
    (d.graftSteps value steps).1.elementCount = d.elementCount ∧
      (d.graftSteps value steps).2 =
        if value.all compatible then .ok address else .error .forbiddenText := by
  obtain ⟨root, step, rest, rooted, rfl, reached, below⟩ := leads
  obtain ⟨count, outcome⟩ := below.place_eq path.2 value
  rw [graftSteps_eq path, reach_eq path.1, resolution_rooted rooted, if_pos reached]
  refine ⟨?_, outcome⟩
  simp only [elementCount, rooted, Option.map_some, Option.getD_some]
  exact count

/-- A write of a value that succeeds is a walk that does. -/
theorem graftSteps_of_assign {path value : Data.Value} (read : stepsOf path = .ok steps)
    (wrote : d.assign path value = (left, .ok address)) :
    ∃ text, d.graftSteps text steps = (left, .ok address) := by
  by_cases given : value = .null
  · subst given
    rw [assign_null read] at wrote
    exact ⟨none, wrote⟩
  · rw [assign_given read given] at wrote
    split at wrote
    · next text _ => exact ⟨some text, wrote⟩
    · cases wrote

/-- Once a write along a positional path has succeeded, the path keeps its meaning: after any
further writes, another write along it makes no element, and answers with the same address unless
its value has no text or has one that markup cannot hold. -/
theorem assign_positional {path value : Data.Value} {steps : List Part}
    (read : stepsOf path = .ok steps) (positional : ∀ step ∈ steps, step.isPositional = true)
    {d written : Document} {address : Address}
    (wrote : d.assign path value = (written, .ok address))
    (writes : List (Data.Value × Data.Value)) (later : Data.Value) :
    let now := written.assignAll writes
    (now.assign path later).1.elementCount = now.elementCount ∧
      (later = .null → (now.assign path later).2 = .ok address) ∧
      (later ≠ .null → (now.assign path later).2 =
        later.spell >>= fun text =>
          if compatible text then .ok address else .error .forbiddenText) := by
  intro now
  have wellFormed := wellFormed_of_stepsOf read
  have byName : ∀ step ∈ steps, ∀ e, step.asks e = true := fun step member =>
    Part.asks_of_isPositional (positional step member)
  have leads : now.Leads steps address := by
    obtain ⟨text, grafted⟩ := graftSteps_of_assign read wrote
    obtain ⟨f, -, framed⟩ := assignAll_framed writes written
    exact (leads_of_graftSteps wellFormed byName grafted).framed byName framed
  by_cases given : later = .null
  · subst given
    rw [assign_null read]
    obtain ⟨count, outcome⟩ := leads.graftSteps_eq wellFormed none
    exact ⟨count, fun _ => outcome, fun given => absurd rfl given⟩
  · rw [assign_given read given]
    cases spelled : later.spell with
    | error fault => exact ⟨rfl, fun none => absurd none given, fun _ => rfl⟩
    | ok text =>
      obtain ⟨count, outcome⟩ := leads.graftSteps_eq wellFormed (some text)
      exact ⟨count, fun none => absurd none given, fun _ => outcome⟩

/-- The second element of a name, made by writing an attribute of it, stays where that attribute is
found. -/
theorem assign_positional_second :
    let path : Data.Value := .text "/a/b[2]/@x"
    let (written, outcome) := empty.assign path (.text "1")
    outcome = .ok [1] ∧ ∀ writes, ((written.assignAll writes).assign path .null).2 = .ok [1] := by
  intro path
  have wrote : empty.assign path (.text "1") = ((empty.assign path (.text "1")).1, .ok [1]) := rfl
  refine ⟨rfl, fun writes => ?_⟩
  exact (assign_positional rfl (by decide) wrote writes .null).2.1 rfl

end Document

end XmlGraft
