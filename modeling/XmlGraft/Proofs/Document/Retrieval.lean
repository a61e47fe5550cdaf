import XmlGraft.Proofs.Data.Lookup
import XmlGraft.Proofs.Document.Outcomes
import XmlGraft.Proofs.Document.Positional
import XmlGraft.Proofs.Document.Rebuilding

/-!
# Retrieval — what a path wrote is found in the data

The data of an element is looked up like the element itself: a key finds the first attribute that
has it, and else the child elements of that name, in order (`Element.entryAt?_value`). So data is
walked along a positional path (`Value.walk?`), each step taking the entry of its name and of that
the item at its position, and the walk comes to the data of the element that the path leads to
(`Element.Leads.walk?_value`): what stands between the children of one name does not count on either
side.

After a write along such a path the walk therefore finds the text that was written, or the attribute
(`Document.walk?_assign`).
-/

namespace XmlGraft

open Xml Data XmlGraft.Path

/-! ## The entries of an element -/

namespace Xml

/-- A test of names finds the same attribute among the first of each name. -/
theorem find?_firstOfEachName {test : Attribute → Bool}
    (byName : ∀ a b : Attribute, a.name = b.name → test a = test b) (attributes : List Attribute) :
    (firstOfEachName attributes).find? test = attributes.find? test := by
  induction attributes with
  | nil => rfl
  | cons a rest ih =>
    rw [firstOfEachName, List.find?_cons, List.find?_cons]
    cases passes : test a with
    | true => rfl
    | false =>
      -- the others of its name do not pass either, so it does not matter that they are dropped
      rw [List.find?_filter, ← ih]
      refine congrArg (List.find? · (firstOfEachName rest)) (funext fun b => ?_)
      by_cases same : b.name = a.name
      · simp [same, byName b a same, passes]
      · simp [same]

namespace Element

/-- The child elements with a name of a given text, in order. -/
def childrenNamed (key : String) (e : Element) : List Element :=
  e.childElements.filter fun child => child.name.text == key

/-- What an element is read as is no list. -/
theorem items_value (e : Element) : e.value.items = [e.value] := by
  rw [value, Head.value]
  split <;> rfl

/-- An element has neither attributes nor child elements. -/
def Alone (e : Element) : Prop := e.head.attributes = [] ∧ e.childElements = []

/-- The entries of an element that is read as a dictionary. -/
def entries (e : Element) : List (String × Value) :=
  (firstOfEachName e.head.attributes).map (fun a => (a.key, .text a.value)) ++
    (grouped ((keyed e.childElements).map fun child => (child.1, child.2.value))).map
      fun group => (group.1, groupValue group.2)

/-- An element that has nothing else is read as its text. -/
theorem value_of_alone {e : Element} (alone : e.Alone) : e.value = .text e.ownText := by
  rw [value_eq, Head.value, alone.1, alone.2]
  rfl

/-- Any other element is read as a dictionary. -/
theorem value_of_not_alone {e : Element} (other : ¬e.Alone) : e.value = .record e.entries := by
  rw [value_eq, Head.value, if_neg, Value.record, entries, List.map_append, List.map_map,
    List.map_map]
  · rfl
  · simpa [Alone, keyed] using other

/-- The values of a key are the child elements of that name. -/
theorem valuesOf_keyed (key : String) (e : Element) :
    valuesOf key (keyed e.childElements) = e.childrenNamed key := by
  simp [valuesOf, keyed, childrenNamed, List.filter_map, Function.comp_def]

/-- Under a key an element is read as the first attribute that has it, or else as the child elements
of that name. -/
theorem entryAt?_value (key : String) (e : Element) :
    e.value.entryAt? key =
      ((e.head.attributes.find? fun a => a.key == key).map fun a => .text a.value).or
        (if e.childrenNamed key = [] then none
          else some (groupValue ((e.childrenNamed key).map value))) := by
  by_cases alone : e.Alone
  · rw [value_of_alone alone, childrenNamed, alone.1, alone.2]
    rfl
  rw [value_of_not_alone alone, entryAt?_record, entries, get?_append, get?_map_values groupValue,
    get?_grouped, valuesOf_map, valuesOf_keyed]
  refine congrArg₂ Option.or ?_ ?_
  · rw [get?_eq_find?, List.find?_map, Option.map_map]
    exact congrArg (Option.map _)
      (find?_firstOfEachName (fun a b same => by simp [Attribute.key, same]) e.head.attributes)
  · simp only [List.map_eq_nil_iff]
    split <;> rfl

/-- Under its key an attribute is read. -/
theorem entryAt?_attribute {name : String} (isName : isNCName name = true) {e : Element}
    {value : String} (had : e.attribute? (.bare name) = some value) :
    e.value.entryAt? ("@" ++ name) = some (.text value) := by
  have sameTest : (fun a : Attribute => a.key == "@" ++ name) =
      fun a => a.name == .bare name := by
    funext a
    rw [Bool.eq_iff_iff, beq_iff_eq, beq_iff_eq, Attribute.key, String.append_right_inj]
    exact text_eq_iff isName a.name
  obtain ⟨a, found, rfl⟩ := Option.map_eq_some_iff.mp had
  rw [entryAt?_value, sameTest, found]
  rfl

/-- Under a text that is no key of an attribute the child elements of that name are read. -/
theorem entryAt?_unmarked {key : String} (unmarked : ¬marksAttribute key = true) (e : Element) :
    e.value.entryAt? key = if e.childrenNamed key = [] then none
      else some (groupValue ((e.childrenNamed key).map value)) := by
  have noAttribute : (e.head.attributes.find? fun a => a.key == key) = none := by
    rw [List.find?_eq_none]
    rintro a - same
    have marked : marksAttribute a.key = true := marksAttribute_mark a.name.text
    rw [beq_iff_eq.mp same] at marked
    exact unmarked marked
  rw [entryAt?_value, noAttribute]
  rfl

end Element

end Xml

/-! ## Walking data -/

/-- The steps of a path that are for elements. -/
def Path.elementSteps (steps : List Part) : List Part := steps.filter fun step => !step.isAttribute

/-- A step for an element is one of the steps for elements. -/
theorem Path.elementSteps_step {step : Part} (head : step.IsElementStep) (rest : List Part) :
    elementSteps (step :: rest) = step :: elementSteps rest := by
  rw [elementSteps, List.filter_cons, head.not_attribute]
  rfl

namespace Data.Value

/-- The item that a step for an element leads to: under its name, the one at its position. -/
def step? (step : Part) (value : Value) : Option Value :=
  (value.entryAt? step.childName).bind fun entry => entry.items[step.passesOver]?

/-- The value that steps for elements lead to, one after the other. -/
def walk? : List Part → Value → Option Value
  | [], value => some value
  | step :: rest, value => (value.step? step).bind (walk? rest)

end Data.Value

/-- The child elements of a focus are its target and those around it. -/
theorem Focus.childElements_whole (f : Focus) :
    f.whole.childElements =
      f.before.filterMap Node.element? ++ f.target :: f.after.filterMap Node.element? := by
  rw [Element.childElements, Focus.whole, List.filterMap_append]
  rfl

/-- As many children satisfy a test as there are child elements that do. -/
theorem Xml.Element.countP_passes (test : Element → Bool) (nodes : List Node) :
    nodes.countP (Node.passes test) = ((nodes.filterMap Node.element?).filter test).length := by
  rw [← List.countP_eq_length_filter, List.countP_filterMap]
  refine congrArg (List.countP · nodes) (funext fun node => ?_)
  cases node <;> rfl

/-- The child that is found is, of all that satisfy the test, the one after those passed over. -/
theorem Focus.Finds.filter_childElements {test : Element → Bool} {skip : Nat} {f : Focus}
    (finds : f.Finds test skip) : (f.whole.childElements.filter test)[skip]? = some f.target := by
  have front : ((f.before.filterMap Node.element?).filter test).length = skip := by
    rw [← Element.countP_passes, finds.before]
  rw [f.childElements_whole, List.filter_append, List.filter_cons_of_pos finds.target,
    List.getElem?_append_right (Nat.le_of_eq front), front, Nat.sub_self]
  rfl

/-- Of the child elements that satisfy a test, each is found after those before it. -/
theorem Focus.exists_finds {test : Element → Bool} {skip : Nat} {e child : Element}
    (listed : (e.childElements.filter test)[skip]? = some child) :
    ∃ f : Focus, f.whole = e ∧ f.target = child ∧ f.Finds test skip := by
  cases picked : e.pick test skip with
  | none =>
    rw [Element.pick_eq_none_iff, Element.countP_passes] at picked
    exact absurd (List.getElem?_eq_some_iff.mp listed).1 (Nat.not_lt.mpr picked)
  | some f =>
    obtain ⟨rfl, finds⟩ := Element.pick_eq_some_iff.mp picked
    exact ⟨f, rfl, Option.some.inj (finds.filter_childElements.symm.trans listed), finds⟩

namespace Xml.Element

/-- A step that asks for nothing but a name accepts the child elements of that name. -/
theorem childrenNamed_eq {step : Part} (isStep : step.IsElementStep)
    (byName : ∀ e, step.asks e = true) (e : Element) :
    e.childrenNamed step.childName = e.childElements.filter step.accepts := by
  rw [Part.accepts_byName byName]
  refine List.filter_congr fun child _ => ?_
  rw [Bool.eq_iff_iff, beq_iff_eq, beq_iff_eq]
  exact text_eq_iff isStep.childName child.name

/-- A step that finds a child by its name leads from the data of the element to that of the child.
-/
theorem step?_value {step : Part} (isStep : step.IsElementStep) (byName : ∀ e, step.asks e = true)
    {f : Focus} (finds : f.Finds step.accepts step.passesOver) :
    f.whole.value.step? step = some f.target.value := by
  have isName := isStep.childName
  have found := finds.filter_childElements
  rw [← childrenNamed_eq isStep byName] at found
  have some : f.whole.childrenNamed step.childName ≠ [] := by
    intro none
    rw [none] at found
    cases found
  have single : ∀ v ∈ (f.whole.childrenNamed step.childName).map value, v.items = [v] := by
    simp [items_value]
  rw [Value.step?, entryAt?_unmarked (unmarked_of_isNCName isName), if_neg some, Option.bind_some,
    items_groupValue single (by simpa using some), List.getElem?_map, found]
  rfl

/-- Steps lead from the data of an element to that of the element to which they lead from it. -/
theorem Leads.walk?_value {steps : List Part} {address : Address} {e : Element}
    (leads : Leads steps address e) (byName : ∀ step ∈ steps, ∀ e, step.asks e = true) :
    ∃ target, (e.nodeAt? address).bind Node.element? = some target ∧
      e.value.walk? (elementSteps steps) = some target.value := by
  induction leads with
  | here e => exact ⟨e, rfl, rfl⟩
  | «attribute» key e => exact ⟨e, rfl, rfl⟩
  | @child step head rest f finds inside _ ih =>
    obtain ⟨asksNothing, others⟩ := List.forall_mem_cons.mp byName
    obtain ⟨target, found, walked⟩ := ih others
    refine ⟨target, (elementAt_whole f inside).trans found, ?_⟩
    rw [elementSteps_step head, Value.walk?, step?_value head asksNothing finds]
    exact walked

/-- A walk writes its text to the element that it ends at: as the attribute that the steps end in,
and else as all the text. -/
theorem written_of_place {steps : List Part} (tail : IsTail steps) {text : String}
    {e left : Element} {address : Address}
    (placed : e.place (some text) steps = (left, .ok address)) :
    ∃ target, (left.nodeAt? address).bind Node.element? = some target ∧
      (∀ key, steps.getLast? = some (.attribute key) →
        isNCName key = true ∧ target.attribute? (.bare key) = some text) ∧
      ((∀ key, steps.getLast? ≠ some (.attribute key)) → target.ownText = text) := by
  induction tail generalizing e left address with
  | nil =>
    have wrote := ownText_place_nil placed
    obtain ⟨_, _, rfl⟩ := map_eq_ok.mp (Prod.mk.inj placed).2
    exact ⟨left, rfl, nofun, fun _ => wrote⟩
  | @last key isName =>
    obtain ⟨wrote, rfl⟩ := place_last_eq_ok.mp placed
    refine ⟨left, rfl, ?_, fun other => absurd rfl (other key)⟩
    rintro _ ⟨⟩
    rcases writeAttribute_eq_ok isName wrote with rfl | ⟨none, _⟩
    · exact ⟨isName, attribute?_withAttribute key text e⟩
    · cases none
  | @step step rest head tail ih =>
    obtain ⟨f, inner, inside, _, reached, rfl, rfl⟩ := (place_step_eq_ok head).mp placed
    obtain ⟨target, found, asAttribute, asText⟩ := ih reached
    refine ⟨target, (elementAt_whole (f.retarget inner) inside).trans found, ?_, ?_⟩
    · exact fun key last => asAttribute key ((Footprint.getLast?_step head rest key).mp last)
    · exact fun other => asText fun key =>
        mt (Footprint.getLast?_step head rest key).mpr (other key)

end Xml.Element

namespace Document

variable {steps : List Part} {address : Address} {d left : Document}

/-- A document is walked from the entry of its root. -/
theorem Leads.walk?_toValue (path : WellFormed steps)
    (byName : ∀ step ∈ steps, ∀ e, step.asks e = true) (leads : d.Leads steps address) :
    ∃ target, d.elementAt? address = some target ∧
      d.toValue.walk? (elementSteps steps) = some target.value := by
  obtain ⟨root, step, rest, rooted, rfl, ⟨accepts, first⟩, below⟩ := leads
  obtain ⟨_, others⟩ := List.forall_mem_cons.mp byName
  obtain ⟨target, found, walked⟩ := below.walk?_value others
  refine ⟨target, ?_, ?_⟩
  · rw [elementAt?, nodeAt?, rooted]
    exact found
  · have named : root.name.text = step.childName :=
      congrArg Name.text (Part.name_of_accepts accepts)
    have entry : root.rootValue.entryAt? step.childName = some root.value := by
      rw [Element.rootValue, Value.entryAt?, Entries.get?, named]
      exact if_pos (beq_self_eq_true step.childName)
    rw [elementSteps_step path.1, toValue, rooted, Value.walk?, Value.step?, entry,
      Option.bind_some, first, Element.items_value]
    exact walked

/-- A walk down from a document writes its text to the element that it ends at. -/
theorem written_of_graftSteps (path : WellFormed steps) {text : String}
    (grafted : d.graftSteps (some text) steps = (left, .ok address)) :
    ∃ target, left.elementAt? address = some target ∧
      (∀ key, steps.getLast? = some (.attribute key) →
        isNCName key = true ∧ target.attribute? (.bare key) = some text) ∧
      ((∀ key, steps.getLast? ≠ some (.attribute key)) → target.ownText = text) := by
  cases steps with
  | nil => exact path.elim
  | cons step rest =>
    obtain ⟨head, tail⟩ := path
    obtain ⟨root, written, -, placed, rfl⟩ := (graftSteps_eq_ok_iff ⟨head, tail⟩).mp grafted
    obtain ⟨target, found, asAttribute, asText⟩ := Element.written_of_place tail placed
    refine ⟨target, found, ?_, ?_⟩
    · exact fun key last => asAttribute key ((Footprint.getLast?_step head rest key).mp last)
    · exact fun other => asText fun key =>
        mt (Footprint.getLast?_step head rest key).mpr (other key)

/-- After a text is written along a positional path, the path leads through the data of the document
to that of the element that was written to: to the text itself if the element has neither attributes
nor child elements, and to a dictionary with the text under the attribute that the path ends in. -/
theorem walk?_assign {path : String} (parsed : parse path = .ok steps)
    (positional : ∀ step ∈ steps, step.isPositional = true) {text : String}
    (wrote : d.assign (.text path) (.text text) = (left, .ok address)) :
    ∃ e, left.elementAt? address = some e ∧
      left.toValue.walk? (elementSteps steps) = some e.value ∧
      (e.head.attributes = [] → e.childElements = [] → e.value = .text text) ∧
      ∀ name, steps.getLast? = some (.attribute name) →
        ∃ entries, e.value = .dict entries ∧
          Entries.get? (.text ("@" ++ name)) entries = some (.text text) := by
  have wellFormed := wellFormed_of_parse parsed
  have byName : ∀ step ∈ steps, ∀ e, step.asks e = true := fun step member =>
    Part.asks_of_isPositional (positional step member)
  have grafted : d.graftSteps (some text) steps = (left, .ok address) := by
    have given : Data.Value.text text ≠ .null := nofun
    rw [← wrote, assign_given (show stepsOf (.text path) = .ok steps from parsed) given]
    rfl
  obtain ⟨e, found, walked⟩ :=
    (leads_of_graftSteps wellFormed byName grafted).walk?_toValue wellFormed byName
  obtain ⟨same, foundAgain, asAttribute, asText⟩ := written_of_graftSteps wellFormed grafted
  obtain rfl : same = e := Option.some.inj (foundAgain.symm.trans found)
  refine ⟨same, found, walked, ?_, ?_⟩
  · intro noAttributes noChildren
    have ownText : same.ownText = text := by
      refine asText fun key last => ?_
      have had := (asAttribute key last).2
      rw [Element.attribute?, noAttributes] at had
      cases had
    rw [Element.value_eq, noChildren, Head.value, noAttributes, ownText]
    rfl
  · intro name last
    obtain ⟨isName, had⟩ := asAttribute name last
    have entry := Element.entryAt?_attribute isName had
    cases read : same.value with
    | dict entries =>
      rw [read] at entry
      exact ⟨entries, rfl, entry⟩
    | _ =>
      rw [read] at entry
      cases entry

/-- The second of two elements, beside one of another name, is found at its position, with the
attribute that was written to it. -/
theorem walk?_assign_second :
    let d := ofRoot ⟨⟨.bare "r", "", [], [], none⟩,
      [(Element.blank "a").node, (Element.blank "b").node, .comment "c" none]⟩
    let (left, outcome) := d.assign (.text "/r/a[2]/@k") (.text "v")
    outcome = .ok [3] ∧
      ∃ e, left.elementAt? [3] = some e ∧
        left.toValue.walk? [.element "r", .filtered "a" (.position 2)] = some e.value ∧
        ∃ entries, e.value = .dict entries ∧
          Entries.get? (.text "@k") entries = some (.text "v") := by
  intro d
  have wrote : d.assign (.text "/r/a[2]/@k") (.text "v") =
      ((d.assign (.text "/r/a[2]/@k") (.text "v")).1, .ok [3]) := rfl
  obtain ⟨e, found, walked, _, attributes⟩ := walk?_assign rfl (by decide) wrote
  exact ⟨rfl, e, found, walked, attributes "k" rfl⟩

end Document

end XmlGraft
