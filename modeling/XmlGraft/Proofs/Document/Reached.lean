import XmlGraft.Proofs.Document.Legibility

/-!
# Reached documents — what the operations lead to

A document is reached if it was read, built from data, or left by an operation on a document that
was reached: a write along a path, a step that was resolved, or a text that was set, whatever each
of them ended with (`Document.Reached`).

All names in a document that was reached are legible (`Document.Reached.legible`). Only names that
the operations judge are added, and these have labels without a colon. The other names stay, also
where a node is moved to new surroundings.
-/

namespace XmlGraft

open Xml XmlGraft.Path

namespace Xml

/-! ## Elements -/

/-- The head of a new element has no name but its own. -/
theorem Head.names_new (scope : Scope) (name : Name) : (Head.new scope name).names = [name] := by
  rw [Head.new]
  by_cases plain : name.uri = ""
  · rw [if_pos plain]
    rfl
  · rw [if_neg plain]
    dsimp only
    split <;> rfl

namespace Element

/-- A new element is legible in any surroundings if its name was judged. -/
theorem legible_judged {tag : String} {name : Name} (judged : elementName tag = .ok name)
    (scope : Scope) : Legible ⟨Head.new scope name, []⟩ := by
  intro other member
  rw [names, Head.names_new, namesAll, List.append_nil] at member
  rw [List.mem_singleton.mp member]
  exact Name.legible_of_isNCName (isNCName_of_elementName judged)

/-- The name of a new element is legible. -/
theorem legible_new {tag : String} {e : Element} (made : Element.new tag = .ok e) : e.Legible := by
  obtain ⟨name, judged, same⟩ := bind_eq_ok.mp made
  cases same
  exact legible_judged judged []

/-- Names stay legible where an attribute is set. -/
theorem Legible.setAttribute {e left : Element} (legible : e.Legible) {above : Scope}
    {key value : String} (set : e.setAttribute above key value = .ok left) : left.Legible := by
  obtain ⟨given, judged, rest⟩ := bind_eq_ok.mp set
  obtain ⟨_, -, same⟩ := bind_eq_ok.mp rest
  cases same
  obtain ⟨nsPrefix, put, named, -⟩ := e.head.putAttribute_eq above given value
  intro name member
  rcases List.mem_append.mp member with inHead | inside
  · rcases List.mem_cons.mp inHead with rfl | isAttribute
    · rw [named]
      exact legible _ List.mem_cons_self
    · rw [put] at isAttribute
      rcases mem_names_putAttribute isAttribute with rfl | before
      · exact Name.legible_of_isNCName (isNCName_of_attributeName judged).2
      · exact legible name (List.mem_append_left _ (List.mem_cons_of_mem _ before))
  · exact legible name (List.mem_append_right _ inside)

/-- Names stay legible where a text is set. -/
theorem Legible.withText {e : Element} (legible : e.Legible) (text : String) :
    (e.withText text).Legible := by
  have same : (e.withText text).names = e.names :=
    congrArg (e.head.names ++ ·) (namesAll_withTail none e.children)
  rw [Legible, same]
  exact legible

/-- Names stay legible where nodes are added whose names are. -/
theorem Legible.append {e : Element} (legible : e.Legible) {nodes : List Node}
    (more : ∀ node ∈ nodes, ∀ name ∈ node.names, name.Legible) :
    Legible ⟨e.head, e.children ++ nodes⟩ := by
  intro name member
  rcases List.mem_append.mp member with inHead | inside
  · exact legible name (List.mem_append_left _ inHead)
  · obtain ⟨node, isChild, inNode⟩ := mem_namesAll.mp inside
    rcases List.mem_append.mp isChild with before | added
    · exact legible name (List.mem_append_right _ (mem_namesAll.mpr ⟨node, before, inNode⟩))
    · exact more node added name inNode

end Element

/-- The names in a new element that satisfies a predicate are legible. -/
theorem legible_seeded {name : String} {predicate : Part} {e : Element}
    (made : seeded name predicate = .ok e) : e.Legible := by
  cases predicate with
  | attributeIs key value =>
    obtain ⟨start, isNew, set⟩ := bind_eq_ok.mp made
    exact (Element.legible_new isNew).setAttribute set
  | childIs key value =>
    obtain ⟨start, isNew, rest⟩ := bind_eq_ok.mp made
    obtain ⟨childName, judged, rest⟩ := bind_eq_ok.mp rest
    obtain ⟨_, -, same⟩ := bind_eq_ok.mp rest
    cases same
    have child := Element.legible_judged judged [start.head.frame]
    exact (Element.legible_new isNew).append
      (List.forall_mem_singleton.mpr (child.withText value))
  | _ => exact Element.legible_new made

namespace Element

variable {e : Element} {above : Scope} {made : Nat}

/-- Names stay legible where an element is appended whose names are, once or more. -/
theorem Legible.grow (legible : e.Legible) {child : Element} (seed : child.Legible) (extra : Nat) :
    (e.grow above made extra child).1.whole.Legible := by
  have settled : (child.settle (e.head.frame :: above) made).1.node.names = child.names :=
    names_settle child (e.head.frame :: above) made
  have own : ∀ name ∈ (child.settle (e.head.frame :: above) made).1.node.names, name.Legible := by
    rw [settled]
    exact seed
  rw [Element.grow, Focus.whole]
  dsimp only
  rw [List.append_assoc]
  refine legible.append fun node member => ?_
  rcases List.mem_append.mp member with isCopy | isTarget
  · rw [List.eq_of_mem_replicate isCopy]
    exact own
  · rw [List.mem_singleton.mp isTarget]
    exact own

/-- A child that is picked leaves the element what it is. -/
theorem Legible.pick (legible : e.Legible) {test : Element → Bool} {skip : Nat} {f : Focus}
    (picked : e.pick test skip = some f) : f.whole.Legible := by
  rw [(pick_eq_some_iff.mp picked).1]
  exact legible

/-- Names stay legible where a step with a position is resolved. -/
theorem Legible.reachPosition (legible : e.Legible) {pattern : NamePattern} {name : String}
    {position : Int} {f : Focus} {count : Nat}
    (reached : e.reachPosition above made pattern name position = .ok (f, count)) :
    f.whole.Legible := by
  rw [Element.reachPosition] at reached
  split at reached
  · split at reached
    · next found =>
      cases reached
      obtain ⟨skip, -, picked⟩ := Option.bind_eq_some_iff.mp found
      exact legible.pick picked
    · cases reached
  · obtain ⟨child, isNew, same⟩ := bind_eq_ok.mp reached
    cases same
    exact legible.grow (legible_new isNew) _

/-- Names stay legible where a step with a test is resolved. -/
theorem Legible.reachTested (legible : e.Legible) {pattern : NamePattern} {name : String}
    {predicate : Part} {f : Focus} {count : Nat}
    (reached : e.reachTested above made pattern name predicate = .ok (f, count)) :
    f.whole.Legible := by
  have grown : (seeded name predicate >>= fun child => pure (e.grow above made 0 child)) =
      .ok (f, count) → f.whole.Legible := by
    intro rest
    obtain ⟨child, isSeed, same⟩ := bind_eq_ok.mp rest
    cases same
    exact legible.grow (legible_seeded isSeed) 0
  unfold Element.reachTested at reached
  split at reached
  · split at reached
    · exact grown reached
    · exact grown reached
    · obtain ⟨found, looked, rest⟩ := bind_eq_ok.mp reached
      obtain ⟨_, -, same⟩ := bind_eq_ok.mp looked
      cases same
      exact grown rest
  · obtain ⟨test, -, rest⟩ := bind_eq_ok.mp reached
    obtain ⟨found, picked, rest⟩ := bind_eq_ok.mp rest
    cases found with
    | none => exact grown rest
    | some focus =>
      cases rest
      exact legible.pick (Except.ok.inj picked)

/-- Names stay legible where a step is resolved. -/
theorem Legible.reach (legible : e.Legible) {step : Part} {f : Focus} {count : Nat}
    (reached : e.reach above made step = .ok (f, count)) : f.whole.Legible := by
  cases step with
  | element name =>
    obtain ⟨pattern, -, rest⟩ := bind_eq_ok.mp reached
    split at rest
    · next picked =>
      cases rest
      exact legible.pick picked
    · obtain ⟨child, isNew, same⟩ := bind_eq_ok.mp rest
      cases same
      exact legible.grow (legible_new isNew) 0
  | filtered name predicate =>
    obtain ⟨pattern, -, rest⟩ := bind_eq_ok.mp reached
    cases predicate with
    | position index => exact legible.reachPosition rest
    | _ => exact legible.reachTested rest
  | position => cases reached
  | _ =>
    obtain ⟨_, -, refused⟩ := bind_eq_ok.mp reached
    cases refused

end Element

/-! ## Nodes -/

namespace Node

/-- All names in a node are legible. -/
def Legible (node : Node) : Prop := ∀ name ∈ node.names, name.Legible

/-- The names in the children of an element are legible if all names in it are. -/
theorem legible_of_mem {e : Element} (legible : e.Legible) {node : Node}
    (isChild : node ∈ e.children) : node.Legible := fun name member =>
  legible name (List.mem_append_right _ (mem_namesAll.mpr ⟨node, isChild, member⟩))

/-- The names in the element that a node is are those in the node. -/
theorem Legible.element {node : Node} (legible : node.Legible) {e : Element}
    (isElement : node.element? = some e) : e.Legible := by
  cases node with
  | element head children tail =>
    cases isElement
    exact legible
  | _ => cases isElement

/-- Names stay legible where a text is set. -/
theorem Legible.setText {node : Node} (legible : node.Legible) (text : String) :
    (node.setText text).1.Legible := by
  cases node with
  | element head children tail =>
    have isLegible : Element.Legible ⟨head, children⟩ := legible
    show Element.Legible (Element.setText text ⟨head, children⟩).1
    rw [Element.setText]
    split
    · exact isLegible.withText text
    · exact isLegible
  | comment content tail =>
    rw [Node.setText]
    split <;> exact fun _ member => absurd member List.not_mem_nil
  | instruction target content tail =>
    rw [Node.setText]
    split <;> exact fun _ member => absurd member List.not_mem_nil

/-- Names stay legible where a step is resolved at a node. -/
theorem Legible.reachNode {node : Node} (legible : node.Legible) (above : Scope) (made : Nat)
    (step : Part) : (Document.reachNode above made step node).1.Legible := by
  cases node with
  | element head children tail =>
    rw [Document.reachNode]
    split
    · next f count reached =>
      have whole := Element.Legible.reach (e := ⟨head, children⟩) legible reached
      exact whole
    · exact legible
  | _ => exact legible

/-- A change that keeps the names in a node legible keeps those in what is above it legible. -/
theorem Legible.changeAt? {α : Type _} {change : Scope → Node → Node × α}
    (keeps : ∀ above node, node.Legible → (change above node).1.Legible) {address : Address}
    {above : Scope} {node left : Node} {result : α} (legible : node.Legible)
    (changed : node.changeAt? change address above = some (left, result)) : left.Legible := by
  induction address generalizing above node left with
  | nil =>
    have kept := keeps above node legible
    rw [Option.some.inj changed] at kept
    exact kept
  | cons index rest ih =>
    cases node with
    | element head children tail =>
      rw [Node.changeAt?] at changed
      split at changed
      · cases changed
      · next child isChild =>
        obtain ⟨⟨inner, _⟩, changedChild, same⟩ := Option.map_eq_some_iff.mp changed
        cases same
        have inside := legible_of_mem (e := ⟨head, children⟩) legible (List.mem_of_getElem? isChild)
        have innerLegible := ih inside changedChild
        intro name member
        rcases List.mem_append.mp member with inHead | inChildren
        · exact legible name (List.mem_append_left _ inHead)
        · obtain ⟨other, isOther, inOther⟩ := mem_namesAll.mp inChildren
          rcases List.mem_or_eq_of_mem_set isOther with before | rfl
          · exact legible_of_mem (e := ⟨head, children⟩) legible before name inOther
          · exact innerLegible name inOther
    | _ => cases changed

end Node

/-- The names in a node at an address are legible if all names in the element are. -/
theorem Element.Legible.nodeAt? {e : Element} (legible : e.Legible) {address : Address}
    {node : Node} (found : e.nodeAt? address = some node) : node.Legible := by
  induction address generalizing e with
  | nil =>
    cases found
    exact legible
  | cons index rest ih =>
    rw [Element.nodeAt?] at found
    split at found
    · cases found
    · next child isChild =>
      have inside := Node.legible_of_mem legible (List.mem_of_getElem? isChild)
      split at found
      · cases found
        exact inside
      · next isElement => exact ih (inside.element isElement) found
      · cases found

end Xml

/-! ## Documents -/

namespace Document

/-- All names in a document are legible if those in its root are, if there is one. -/
theorem legible_iff {d : Document} : d.Legible ↔ ∀ root ∈ d.root, root.Legible := by
  rw [Legible, names]
  cases d.root with
  | none =>
    exact iff_of_true (fun _ member => absurd member List.not_mem_nil)
      fun root member => absurd member (Option.not_mem_none root)
  | some root =>
    refine ⟨fun legible other same => ?_, fun legible => legible root rfl⟩
    rw [← Option.some.inj same]
    exact legible

/-- The root that was added is the element that was made. -/
theorem addMade_eq_ok {made : Except Fault Element} {d left : Document} {root : Element}
    (added : d.addMade made = (left, .ok root)) : made = .ok root := by
  cases made with
  | error fault => cases added
  | ok e =>
    rw [addMade, addRoot] at added
    split at added
    · cases added
    · cases added
      rfl

namespace Legible

variable {d : Document}

/-- Names stay legible where a root is added whose names are. -/
theorem addRoot (legible : d.Legible) {e : Element} (isLegible : e.Legible) :
    (d.addRoot e).1.Legible := by
  rw [Document.addRoot]
  split
  · exact legible
  · refine legible_iff.mpr fun root same => ?_
    rw [← Option.some.inj same]
    exact isLegible

/-- Names stay legible where a root is added that can be made, if its names are legible then. -/
theorem addMade (legible : d.Legible) {made : Except Fault Element}
    (isLegible : ∀ e, made = .ok e → e.Legible) : (d.addMade made).1.Legible := by
  cases made with
  | ok e => exact legible.addRoot (isLegible e rfl)
  | error fault => exact legible

/-- Names stay legible where a step with a position is resolved at a document. -/
theorem reachPosition (legible : d.Legible) (name : String) (position : Int) :
    (d.reachPosition name position).1.Legible := by
  have added := legible.addMade fun _ (made : Element.new name = .ok _) => Element.legible_new made
  unfold Document.reachPosition
  dsimp only
  split
  · split
    · exact legible
    · exact legible
  · split
    · next left root same =>
      have isNew := addMade_eq_ok same
      rw [same] at added
      split
      · exact added
      · exact added.addRoot (Element.legible_new isNew)
    · exact added

/-- Names stay legible where a step with a test is resolved at a document. -/
theorem reachTested (legible : d.Legible) (name : String) (predicate : Part) :
    (d.reachTested name predicate).1.Legible := by
  have added := legible.addMade fun _ (made : seeded name predicate = .ok _) => legible_seeded made
  unfold Document.reachTested
  split
  · exact added
  · exact added
  · split
    · exact legible
    · exact added
    · split
      · exact legible
      · exact added

/-- Names stay legible where a step is resolved at a document. -/
theorem reach (legible : d.Legible) (step : Part) : (d.reach step).1.Legible := by
  unfold Document.reach
  split
  · split
    · exact legible
    · exact legible.addMade fun _ => Element.legible_new
  · exact legible.reachPosition _ _
  · exact legible.reachTested _ _
  · exact legible

/-- A change that keeps the names in a node legible keeps those in its document legible. -/
theorem changeAt? {α : Type _} {change : Scope → Node → Node × α}
    (keeps : ∀ above node, Node.Legible node → Node.Legible (change above node).1)
    {address : Address} {left : Document} {result : α} (legible : d.Legible)
    (changed : d.changeAt? change address = some (left, result)) : left.Legible := by
  obtain ⟨root, rooted, rest⟩ := Option.bind_eq_some_iff.mp changed
  obtain ⟨⟨node, outcome⟩, inside, rest⟩ := Option.bind_eq_some_iff.mp rest
  obtain ⟨e, isElement, same⟩ := Option.bind_eq_some_iff.mp rest
  cases same
  have isLegible : root.node.Legible := legible_iff.mp legible root rooted
  have nodeLegible := isLegible.changeAt? keeps inside
  refine legible_iff.mpr fun other same => ?_
  rw [← Option.some.inj same]
  exact nodeLegible.element isElement

/-- Names stay legible where a step is resolved at an address, or at the document itself. -/
theorem reachAt? (legible : d.Legible) {address : Option Address} {step : Part} {left : Document}
    {outcome : Except Fault Address} (resolved : d.reachAt? address step = some (left, outcome)) :
    left.Legible := by
  cases address with
  | none =>
    have same : (d.reach step).1 = left := congrArg Prod.fst (Option.some.inj resolved)
    rw [← same]
    exact legible.reach step
  | some address =>
    rw [Document.reachAt?] at resolved
    have keeps : ∀ above node, Node.Legible node →
        (reachNode above d.prefixesMade step node).1.Legible :=
      fun above node isLegible => isLegible.reachNode above d.prefixesMade step
    split at resolved
    · cases resolved
    · next between index count changed =>
      cases resolved
      have kept := legible.changeAt? keeps changed
      exact kept
    · next between fault changed =>
      cases resolved
      exact legible.changeAt? keeps changed

/-- The names in an element at an address are legible. -/
theorem elementAt? (legible : d.Legible) {address : Address} {e : Element}
    (found : d.elementAt? address = some e) : e.Legible := by
  obtain ⟨node, inside, isElement⟩ := Option.bind_eq_some_iff.mp found
  obtain ⟨root, rooted, inRoot⟩ := Option.bind_eq_some_iff.mp inside
  exact ((legible_iff.mp legible root rooted).nodeAt? inRoot).element isElement

end Legible

/-- The documents that the operations lead to, whatever each of them ends with. -/
inductive Reached : Document → Prop
  | read {mode : ReadingMode} {text : String} {d : Document} (loaded : read mode text = .ok d) :
    Reached d
  | built {value : Data.Value} {d : Document} (built : ofValue value = .ok d) : Reached d
  | written {d : Document} (reached : Reached d) (path value : Data.Value) :
    Reached (d.assign path value).1
  | resolved {d left : Document} (reached : Reached d) {address : Option Address} {step : Part}
    {outcome : Except Fault Address} (resolved : d.reachAt? address step = some (left, outcome)) :
    Reached left
  | retexted {d left : Document} (reached : Reached d) {address : Address} {text : String}
    {outcome : Except Fault Unit}
    (changed : d.changeAt? (fun _ node => node.setText text) address = some (left, outcome)) :
    Reached left

/-- A run of writes leads from a document that was reached to another. -/
theorem Reached.assignAll {d left : Document} (reached : d.Reached)
    {writes : List (Data.Value × Data.Value)} (wrote : d.assignAll writes = left) :
    left.Reached := by
  induction writes generalizing d with
  | nil =>
    cases wrote
    exact reached
  | cons write rest ih => exact ih (reached.written write.1 write.2) wrote

/-- All names in a document that was reached are legible. -/
theorem Reached.legible {d : Document} (reached : d.Reached) : d.Legible := by
  induction reached with
  | read loaded => exact Loaded.legible ⟨_, _, loaded⟩
  | built built => exact legible_ofValue built
  | @written d _ path value ih =>
    exact ih.assignAll (show d.assignAll [(path, value)] = (d.assign path value).1 from rfl)
  | resolved _ resolved ih => exact ih.reachAt? resolved
  | retexted _ changed ih => exact ih.changeAt? (fun _ _ legible => legible.setText _) changed

end Document

end XmlGraft
