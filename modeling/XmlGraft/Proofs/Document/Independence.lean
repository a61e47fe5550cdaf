import XmlGraft.Proofs.Document.Repetition
import XmlGraft.Proofs.Document.Replay

/-!
# Independence — edits that leave alone what others made

An element *holds* an edit if making the edit again would change nothing (`Element.Holds`). What was
made is held (`holds_of_place`), and it stays held when another edit is made elsewhere
(`Holds.place`). Two edits are *apart* if their paths part: at an attribute, or at steps that find
children by different names or at different places (`Apart`). The steps must ask nothing of a child
but its name, since other edits may change whatever else a step could ask for.

A later edit adds children at the end of an element and renames none, so a step goes on to find the
child that it found, and away from that child the later edit changes nothing that the earlier one
wrote. From the single edit this carries over to runs of edits that are all apart from one another
(`Becomes.holds`).
-/

namespace XmlGraft

open Xml XmlGraft.Path

/-! ## Steps that find children by their names -/

namespace Path

/-- A step that asks nothing of a child but its name overwrites nothing that it asks for. -/
theorem overwritten?_byName {steps : List Part} (byName : ∀ step ∈ steps, ∀ e, step.asks e = true) :
    overwritten? steps = none := by
  induction steps with
  | nil => rfl
  | cons step rest ih =>
    obtain ⟨asksNothing, others⟩ := List.forall_mem_cons.mp byName
    have here : step.overwritten? rest = none := by
      cases step with
      | filtered name predicate =>
        cases predicate with
        | attributeIs key value => cases asksNothing (.blank name)
        | childIs key value => cases asksNothing (.blank name)
        | _ => rfl
      | _ => rfl
    rw [overwritten?, here, ih others]
    rfl

/-- Two paths that part: the first ends in an attribute and the second does not end in the same, or
they go on in children with different names or at different places, or they do so further down. -/
inductive Apart : List Part → List Part → Prop
  | last {key : String} {steps : List Part} (other : steps ≠ [.attribute key]) :
    Apart [.attribute key] steps
  | elsewhere {step other : Part} {rest more : List Part} (head : step.IsElementStep)
    (otherHead : other.IsElementStep) (byName : ∀ e, step.asks e = true)
    (otherByName : ∀ e, other.asks e = true)
    (differs : step.childName ≠ other.childName ∨ step.passesOver ≠ other.passesOver) :
    Apart (step :: rest) (other :: more)
  | inside {step : Part} {rest more : List Part} (head : step.IsElementStep)
    (byName : ∀ e, step.asks e = true) (apart : Apart rest more) :
    Apart (step :: rest) (step :: more)

/-- Edits that find children by their names alone, with paths that all part. -/
structure Independent (edits : List Edit) : Prop where
  byName : ∀ edit ∈ edits, ∀ step ∈ edit.1, ∀ e, step.asks e = true
  apart : edits.Pairwise fun first second => Apart first.1 second.1

/-- A step that asks nothing of a child but its name accepts what has the name. -/
theorem Part.accepts_byName {step : Part} (byName : ∀ e, step.asks e = true) :
    step.accepts = fun e => e.name == .bare step.childName := by
  funext e
  rw [accepts, byName, Bool.and_true]

end Path

/-! ## Finding a child again -/

/-- The name of the element that a node is. -/
def Xml.Node.name? (node : Node) : Option Name := node.element?.map Element.name

/-- A test of names needs only the names. -/
theorem Xml.countP_names {test : Element → Bool} {name : Name}
    (byName : test = fun e => e.name == name) (nodes : List Node) :
    nodes.countP (Node.passes test) = (nodes.map Node.name?).count (some name) := by
  rw [List.count, List.countP_map, byName]
  refine congrArg (List.countP · nodes) (funext ?_)
  intro node
  cases node with
  | _ => rfl

namespace Focus

/-- Children that steps with different names or places find stand at different indexes. -/
theorem Finds.index_ne {step other : Part} (byName : ∀ e, step.asks e = true)
    (otherByName : ∀ e, other.asks e = true)
    (differs : step.childName ≠ other.childName ∨ step.passesOver ≠ other.passesOver) {f g : Focus}
    (finds : f.Finds step.accepts step.passesOver)
    (otherFinds : g.Finds other.accepts other.passesOver) (whole : f.whole = g.whole) :
    f.index ≠ g.index := by
  intro index
  obtain ⟨before, target⟩ := eq_of_index whole index
  have named := Part.name_of_accepts finds.target
  rw [target, Part.name_of_accepts otherFinds.target] at named
  have sameName : other.childName = step.childName := congrArg Name.label named
  rcases differs with differs | differs
  · exact differs sameName.symm
  · -- of one name both steps count the same children
    rw [← finds.before, ← otherFinds.before, before, Part.accepts_byName byName,
      Part.accepts_byName otherByName, sameName] at differs
    exact differs rfl

/-- What is found is found with more children at the end. -/
theorem Finds.append {test : Element → Bool} {skip : Nat} {f : Focus} (finds : f.Finds test skip)
    (added : List Node) : ({ f with after := f.after ++ added } : Focus).Finds test skip :=
  ⟨finds.target, finds.before⟩

/-- What a step finds by its name it finds at the same index of another element, if a child of the
name stands there and the children before it have the same names. -/
theorem Finds.of_names {step : Part} (byName : ∀ e, step.asks e = true) {f : Focus}
    (finds : f.Finds step.accepts step.passesOver) {e target : Element} {tail : Option String}
    (found : e.children[f.index]? = some (.element target.head target.children tail))
    (named : target.name = f.target.name)
    (names : (e.children.take f.index).map Node.name? = f.before.map Node.name?) :
    ∃ h : Focus, h.whole = e ∧ h.index = f.index ∧ h.target = target ∧
      h.Finds step.accepts step.passesOver := by
  obtain ⟨h, sameWhole, sameTarget, before⟩ := exists_at found
  refine ⟨h, sameWhole, ?_, sameTarget, ?_, ?_⟩
  · have within := (List.getElem?_eq_some_iff.mp found).1
    rw [index, before, List.length_take]
    omega
  · rw [sameTarget, Part.accepts_of_name (named.trans (Part.name_of_accepts finds.target))]
    exact byName target
  · rw [countP_names (Part.accepts_byName byName), before, names,
      ← countP_names (Part.accepts_byName byName)]
    exact finds.before

/-- What a step finds by its name it finds after another child is replaced by one of the same name.
-/
theorem Finds.replace {step : Part} (byName : ∀ e, step.asks e = true) {f g : Focus}
    (finds : f.Finds step.accepts step.passesOver) (whole : f.whole = g.whole)
    (index : f.index ≠ g.index) {inner : Element} (renamed : inner.name = g.target.name) :
    ∃ h : Focus, h.whole = (g.retarget inner).whole ∧ h.target = f.target ∧
      h.Finds step.accepts step.passesOver := by
  have names : (g.retarget inner).whole.children.map Node.name? =
      f.whole.children.map Node.name? := by
    rw [whole, Focus.whole, Focus.whole, Focus.retarget, List.map_append, List.map_append,
      List.map_cons,
      List.map_cons]
    exact congrArg (fun name => _ ++ some name :: _) renamed
  have found : (g.retarget inner).whole.children[f.index]? = some f.node := by
    rw [children_retarget index, ← whole, f.children_index]
  have front : f.whole.children.take f.index = f.before := List.take_left
  obtain ⟨h, sameWhole, _, target, found⟩ := finds.of_names byName found rfl
    (by rw [List.map_take, names, ← List.map_take, front])
  exact ⟨h, sameWhole, target, found⟩

end Focus

namespace Xml.Element

/-! ## Holding an edit -/

/-- An attribute that has a value is not changed by setting it to that value. -/
theorem withAttribute_eq_self {key value : String} {e : Element}
    (had : e.attribute? (.bare key) = some value) : e.withAttribute key value = e := by
  have put : ∀ attributes : List Attribute,
      (attributes.find? fun a => a.name == .bare key).map (·.value) = some value →
        putAttribute ⟨.bare key, "", value⟩ attributes = attributes := by
    intro attributes
    induction attributes with
    | nil =>
      intro none
      cases none
    | cons a rest ih =>
      intro had
      rw [putAttribute]
      by_cases same : a.name = .bare key
      · have first : (a.name == Name.bare key) = true := beq_iff_eq.mpr same
        simp only [List.find?_cons, first, Option.map_some, Option.some.injEq] at had
        rw [if_pos same, ← had]
      · have passed : (a.name == Name.bare key) = false := beq_eq_false_iff_ne.mpr same
        simp only [List.find?_cons, passed] at had
        rw [if_neg same, ih had]
  rw [withAttribute, put e.head.attributes had]

/-- Making an edit leaves an element as it is. -/
def Holds (edit : Edit) (e : Element) : Prop := ∃ address, e.place edit.2 edit.1 = (e, .ok address)

/-- An edit that was made is held. -/
theorem holds_of_place {steps : List Part} (tail : IsTail steps)
    (byName : ∀ step ∈ steps, ∀ e, step.asks e = true) {value : Option String} {e left : Element}
    {address : Address} (placed : e.place value steps = (left, .ok address)) :
    left.Holds (steps, value) := by
  have writable : ∀ text ∈ value, compatible text = true := by
    rintro text rfl
    exact compatible_of_place tail placed
  have asksNothing : ∀ x ∈ overwritten? steps, ∀ text ∈ value, x = text := by
    rw [overwritten?_byName byName]
    rintro x ⟨⟩
  obtain ⟨again, repeated, once, _⟩ := place_place tail writable placed asksNothing
  rw [Option.or_self, placed] at once
  cases once
  exact ⟨address, repeated⟩

/-- An edit of an attribute is held if the attribute is there, with the value that is written. -/
theorem holds_last_iff {key : String} (isName : isNCName key = true) {value : Option String}
    {e : Element} :
    e.Holds ([.attribute key], value) ↔ ∃ x, e.attribute? (.bare key) = some x ∧
      ∀ text ∈ value, x = text ∧ compatible text = true := by
  constructor
  · rintro ⟨address, placed⟩
    have writable : ∀ text ∈ value, compatible text = true := by
      rintro text rfl
      exact compatible_of_place (.last isName) placed
    obtain ⟨wrote, _⟩ := place_last_eq_ok.mp placed
    rcases writeAttribute_eq_ok isName wrote with same | ⟨rfl, present, _⟩
    · refine ⟨value.getD "", ?_, ?_⟩
      · exact same ▸ attribute?_withAttribute key (value.getD "") e
      · rintro text rfl
        exact ⟨rfl, writable text rfl⟩
    · obtain ⟨x, had⟩ := Option.isSome_iff_exists.mp present
      exact ⟨x, had, fun _ none => nomatch none⟩
  · rintro ⟨x, had, same⟩
    refine ⟨[], place_last_eq_ok.mpr ⟨?_, rfl⟩⟩
    rw [writeAttribute_plain isName]
    cases value with
    | none => rw [had]; rfl
    | some text =>
      obtain ⟨rfl, writable⟩ := same text rfl
      simp only [if_pos writable, withAttribute_eq_self had]

/-- An edit below a child is held if its step finds a child that holds the rest. -/
theorem holds_step_iff {step : Part} (head : step.IsElementStep) {rest : List Part}
    {value : Option String} {e : Element} :
    e.Holds (step :: rest, value) ↔
      ∃ f : Focus, f.whole = e ∧ f.Finds step.accepts step.passesOver ∧
        f.target.Holds (rest, value) := by
  constructor
  · rintro ⟨address, placed⟩
    obtain ⟨f, inner, inside, designated, reached, same, _⟩ := (place_step_eq_ok head).mp placed
    -- nothing was appended, since as many children as before are left
    obtain ⟨_, added, children, _⟩ := whole_of_designated designated
    have lengths := congrArg (fun e : Element => e.children.length) same
    have whole : f.whole = e := by
      rcases designated_cases designated with picked | ⟨_, _, rfl⟩
      · exact (pick_eq_some_iff.mp picked).1
      · simp only [Focus.whole, Focus.retarget, grown, List.length_append, List.length_cons]
          at lengths
        omega
    have target : inner = f.target :=
      (Focus.eq_of_index (f := f.retarget inner) (same.symm.trans whole.symm) rfl).2
    rw [target] at reached
    exact ⟨f, whole, finds_of_designated head.isChildStep designated, inside, reached⟩
  · rintro ⟨f, rfl, finds, inside, reached⟩
    refine ⟨f.index :: inside, (place_step_eq_ok head).mpr ?_⟩
    exact ⟨f, f.target, inside, designated_of_finds finds, reached, rfl, rfl⟩

/-- An edit that is held is held after another that is apart from it. -/
theorem Holds.place {steps more : List Part} (apart : Apart steps more) (tail : IsTail steps)
    (moreTail : IsTail more) {value other : Option String} {e left : Element} {address : Address}
    (holds : e.Holds (steps, value)) (placed : e.place other more = (left, .ok address)) :
    left.Holds (steps, value) := by
  induction apart generalizing e left address with
  | @last key steps differs =>
    have isName : isNCName key = true := by
      cases tail with
      | last isName => exact isName
      | step head _ => exact head.elim
    rw [holds_last_iff isName] at holds ⊢
    rw [attribute?_place moreTail placed differs]
    exact holds
  | @elsewhere step otherStep rest more head otherHead byName otherByName differs =>
    have moreTail : IsTail more := by
      cases moreTail with
      | last => exact otherHead.elim
      | step _ tail => exact tail
    obtain ⟨f, rfl, finds, inside⟩ := (holds_step_iff head).mp holds
    obtain ⟨g, inner, _, designated, reached, rfl, _⟩ := (place_step_eq_ok otherHead).mp placed
    obtain ⟨sameHead, added, children, _⟩ := whole_of_designated designated
    have whole : ({ f with after := f.after ++ added } : Focus).whole = g.whole := by
      refine Eq.symm ?_
      rw [show g.whole = ⟨g.whole.head, g.whole.children⟩ from rfl, children]
      simp only [Focus.whole, List.append_assoc, List.cons_append] at sameHead ⊢
      rw [sameHead]
    have renamed := name_of_place moreTail reached
    have index := (finds.append added).index_ne byName otherByName differs
      (finds_of_designated otherHead.isChildStep designated) whole
    obtain ⟨h, sameWhole, target, found⟩ :=
      (finds.append added).replace byName whole index renamed
    exact (holds_step_iff head).mpr ⟨h, sameWhole, found, by rw [target]; exact inside⟩
  | @inside step rest more head byName _ ih =>
    have tails : IsTail rest ∧ IsTail more := by
      cases tail with
      | last => exact head.elim
      | step _ tail =>
        cases moreTail with
        | last => exact head.elim
        | step _ moreTail => exact ⟨tail, moreTail⟩
    obtain ⟨f, rfl, finds, inside⟩ := (holds_step_iff head).mp holds
    obtain ⟨g, inner, _, designated, reached, rfl, _⟩ := (place_step_eq_ok head).mp placed
    rw [designated_of_finds finds] at designated
    cases designated
    have accepts := accepts_of_place byName tails.2 reached finds.target
    exact (holds_step_iff head).mpr
      ⟨f.retarget inner, rfl, finds.retarget accepts, ih tails.1 tails.2 inside reached⟩

/-- An edit that is held is held after a run of edits that are all apart from it. -/
theorem Holds.becomes {steps : List Part} (tail : IsTail steps) {value : Option String}
    {edits : List Edit} {e left : Element} (becomes : Becomes edits e left)
    (apart : ∀ edit ∈ edits, Apart steps edit.1) (holds : e.Holds (steps, value)) :
    left.Holds (steps, value) := by
  induction becomes with
  | refl e => exact holds
  | edit otherTail placed _ ih =>
    obtain ⟨here, others⟩ := List.forall_mem_cons.mp apart
    exact ih others (holds.place here tail otherTail placed)

/-- After a run of independent edits all of them are held. -/
theorem Becomes.holds {edits : List Edit} {e left : Element} (becomes : Becomes edits e left)
    (independent : Independent edits) : ∀ edit ∈ edits, left.Holds edit := by
  obtain ⟨byName, apart⟩ := independent
  induction becomes with
  | refl e => exact fun _ member => absurd member List.not_mem_nil
  | edit tail placed rest ih =>
    obtain ⟨here, others⟩ := List.pairwise_cons.mp apart
    obtain ⟨stepsByName, othersByName⟩ := List.forall_mem_cons.mp byName
    refine List.forall_mem_cons.mpr ⟨?_, ih othersByName others⟩
    exact (holds_of_place tail stepsByName placed).becomes tail rest here

end Xml.Element

end XmlGraft
