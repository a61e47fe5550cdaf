import XmlGraft.Proofs.Document.Walk

/-!
# Preservation — what a walk leaves alone

A walk renames nothing. Where it goes on below an element it leaves the text and the attributes of
that element alone, and where it ends it writes one text or one attribute. So what a step accepted
it still accepts after the rest of the walk (`accepts_place`), but for one case: the step asks for a
value of an attribute or a child, and the rest of the path is a single step that writes just that
(`Part.overwritten?`).
-/

namespace XmlGraft

open Xml XmlGraft.Path

namespace Path

/-- The value that the predicate of a step asks for, if the rest of the path is one step that writes
what the predicate tests. -/
def Part.overwritten? (rest : List Part) (step : Part) : Option String :=
  match step, rest with
  | .filtered _ (.attributeIs key value), [.attribute name] =>
    if name = key then some value else none
  | .filtered _ (.childIs key value), [.element name]
  | .filtered _ (.childIs key value), [.filtered name _] => if name = key then some value else none
  | _, _ => none

/-- The value that a path asks for in its last but one step and writes in its last. -/
def overwritten? : List Part → Option String
  | [] => none
  | step :: rest => (step.overwritten? rest).or (overwritten? rest)

/-- Where the step before the last tests a child, an element step of that name writes what it tests.
-/
theorem Part.overwritten?_childIs {name key value : String} {last : Part}
    (isStep : last.IsElementStep) :
    (Part.filtered name (.childIs key value)).overwritten? [last] =
      if last.childName = key then some value else none := by
  cases last with
  | element other => rfl
  | filtered other predicate => rfl
  | _ => exact isStep.elim

end Path

namespace Xml.Element

/-! ## Names and texts -/

/-- Writing a text leaves the name and the attributes of an element alone. -/
theorem writeText_head (value : Option String) (e : Element) :
    (e.writeText value).1.name = e.name ∧
      ∀ name, (e.writeText value).1.attribute? name = e.attribute? name := by
  cases value with
  | none => exact ⟨rfl, fun _ => rfl⟩
  | some text =>
    rw [writeText, setText]
    split
    · exact ⟨rfl, fun _ => rfl⟩
    · exact ⟨rfl, fun _ => rfl⟩

/-- What is written as a plain attribute is that attribute, or the element as it is. -/
theorem writeAttribute_eq_ok {key : String} (isName : isNCName key = true) {value : Option String}
    {e written : Element} (wrote : e.writeAttribute [] key value = .ok written) :
    written = e.withAttribute key (value.getD "") ∨
      value = none ∧ (e.attribute? (.bare key)).isSome ∧ written = e := by
  rw [writeAttribute_plain isName] at wrote
  cases value with
  | some text =>
    by_cases writable : compatible text = true
    · simp only [if_pos writable] at wrote
      cases wrote
      exact Or.inl rfl
    · simp only [if_neg writable] at wrote
      cases wrote
  | none =>
    by_cases present : (e.attribute? (.bare key)).isSome = true
    · simp only [if_pos present] at wrote
      cases wrote
      exact Or.inr ⟨rfl, present, rfl⟩
    · simp only [if_neg present] at wrote
      cases wrote
      exact Or.inl rfl

/-- A walk renames nothing. -/
theorem name_place {steps : List Part} (tail : IsTail steps) (value : Option String) (e : Element) :
    (e.place value steps).1.name = e.name := by
  cases tail with
  | nil => exact (writeText_head value e).1
  | @last key isName =>
    rw [place]
    split
    · next written wrote =>
      rcases writeAttribute_eq_ok isName wrote with rfl | ⟨_, _, rfl⟩
      · rfl
      · rfl
    · rfl
  | step head tail =>
    rw [place_step head]
    split
    · rfl
    · next f designated =>
      exact congrArg Head.name (whole_of_designated designated).1

/-- What a walk leaves has the name of the element that it began at. -/
theorem name_of_place {steps : List Part} (tail : IsTail steps) {value : Option String}
    {e left : Element} {outcome : Except Fault Address}
    (placed : e.place value steps = (left, outcome)) : left.name = e.name := by
  have renamed := name_place tail value e
  rwa [placed] at renamed

/-- A step that asks nothing of a child but its name accepts what a walk leaves of it. -/
theorem accepts_of_place {step : Part} (byName : ∀ e, step.asks e = true) {steps : List Part}
    (tail : IsTail steps) {value : Option String} {e left : Element}
    {outcome : Except Fault Address} (placed : e.place value steps = (left, outcome))
    (accepts : step.accepts e = true) : step.accepts left = true := by
  have named := (name_of_place tail placed).trans (Part.name_of_accepts accepts)
  rw [Part.accepts_of_name named, byName]

/-- A walk that goes on below an element, or writes nothing, leaves its text alone. -/
theorem ownText_place {steps : List Part} (tail : IsTail steps) {value : Option String}
    (below : steps ≠ [] ∨ value = none) {e left : Element} {address : Address}
    (placed : e.place value steps = (left, .ok address)) : left.ownText = e.ownText := by
  cases tail with
  | nil =>
    rcases below with below | rfl
    · exact absurd rfl below
    · cases placed
      rfl
  | last isName =>
    obtain ⟨wrote, rfl⟩ := place_last_eq_ok.mp placed
    rcases writeAttribute_eq_ok isName wrote with rfl | ⟨_, _, rfl⟩
    · rfl
    · rfl
  | step head tail =>
    obtain ⟨f, inner, inside, designated, _, rfl, rfl⟩ := (place_step_eq_ok head).mp placed
    obtain ⟨sameHead, added, children, noTails⟩ := whole_of_designated designated
    refine ownText_congr (congrArg Head.text sameHead) ?_ noTails
    rw [← children]
    simp only [Focus.whole, Focus.retarget, List.map_append, List.map_cons]
    rfl

/-- A text that is written is all the text. -/
theorem ownText_place_nil {text : String} {e left : Element} {address : Address}
    (placed : e.place (some text) [] = (left, .ok address)) : left.ownText = text := by
  rw [place, writeText, setText] at placed
  split at placed
  · cases placed
    exact ownText_withText text e
  · cases placed

/-! ## What a step asks for -/

/-- An attribute is as it was after a walk, unless the walk ends in it. -/
theorem attribute?_place {steps : List Part} (tail : IsTail steps) {value : Option String}
    {key : String} {e left : Element} {address : Address}
    (placed : e.place value steps = (left, .ok address)) (other : steps ≠ [.attribute key]) :
    left.attribute? (.bare key) = e.attribute? (.bare key) := by
  cases tail with
  | nil =>
    obtain ⟨rfl, _⟩ := Prod.mk.inj placed
    exact (writeText_head value e).2 (.bare key)
  | @last name isName =>
    obtain ⟨wrote, rfl⟩ := place_last_eq_ok.mp placed
    rcases writeAttribute_eq_ok isName wrote with rfl | ⟨_, _, rfl⟩
    · refine attribute?_withAttribute_of_ne ?_ (value.getD "") e
      intro same
      cases same
      exact other rfl
    · rfl
  | step head tail =>
    obtain ⟨f, inner, inside, designated, _, rfl, rfl⟩ := (place_step_eq_ok head).mp placed
    obtain ⟨sameHead, _⟩ := whole_of_designated designated
    rw [attribute?, attribute?]
    exact congrArg (fun head : Head => (head.attributes.find? _).map (·.value)) sameHead

/-- An attribute that a walk ends in has the value that was written, or the one that it had. -/
theorem attribute?_place_last {key x : String} (isName : isNCName key = true)
    {value : Option String} {e left : Element} {address : Address}
    (placed : e.place value [.attribute key] = (left, .ok address))
    (had : e.attribute? (.bare key) = some x) (same : ∀ text ∈ value, x = text) :
    left.attribute? (.bare key) = some x := by
  obtain ⟨wrote, rfl⟩ := place_last_eq_ok.mp placed
  cases value with
  | some text =>
    rcases writeAttribute_eq_ok isName wrote with rfl | ⟨none, _⟩
    · rw [attribute?_withAttribute, same text rfl]
      rfl
    · cases none
  | none =>
    rw [writeAttribute_plain isName, had] at wrote
    cases wrote
    exact had

/-- Setting the text of an element leaves the names and texts of its children alone. -/
theorem hasChild_withText (key value text : String) (e : Element) :
    (e.withText text).hasChild key value = e.hasChild key value := by
  rw [hasChild, hasChild, withText, List.any_map]
  refine List.any_congr rfl ?_
  intro node
  cases node with
  | element head children tail => rfl
  | comment content tail => rfl
  | instruction target content tail => rfl

/-- Among the children of a focus is its target. -/
theorem hasChild_whole (key value : String) (f : Focus) :
    f.whole.hasChild key value = true ↔
      (f.target.name = .bare key ∧ f.target.ownText = value) ∨
        (f.before ++ f.after).any
          (Node.passes fun child => child.name == .bare key && child.ownText == value) = true := by
  rw [hasChild, Focus.whole, List.any_append, List.any_append, List.any_cons, Node.passes_element,
    Bool.or_eq_true, Bool.or_eq_true, Bool.or_eq_true, Bool.and_eq_true, beq_iff_eq, beq_iff_eq]
  exact or_left_comm

/-- A child with a name and text is still there after a walk, unless the walk ends in a child of
that name and writes another text. -/
theorem hasChild_place {steps : List Part} (tail : IsTail steps) {value : Option String}
    {key x : String} {e left : Element} {address : Address}
    (placed : e.place value steps = (left, .ok address)) (had : e.hasChild key x = true)
    (same : ∀ last, steps = [last] → last.IsElementStep → last.childName = key →
      ∀ text ∈ value, x = text) : left.hasChild key x = true := by
  cases tail with
  | nil =>
    cases value with
    | none =>
      cases placed
      exact had
    | some text =>
      rw [place, writeText, setText] at placed
      split at placed
      · cases placed
        rw [hasChild_withText]
        exact had
      · cases placed
  | last isName =>
    obtain ⟨wrote, rfl⟩ := place_last_eq_ok.mp placed
    rcases writeAttribute_eq_ok isName wrote with rfl | ⟨_, _, rfl⟩
    · exact had
    · exact had
  | @step step rest head tail =>
    obtain ⟨f, inner, inside, designated, reached, rfl, rfl⟩ := (place_step_eq_ok head).mp placed
    obtain ⟨_, added, children, _⟩ := whole_of_designated designated
    have hadWhole : f.whole.hasChild key x = true := by
      rw [hasChild, children, List.any_append, ← hasChild, had, Bool.true_or]
    refine (hasChild_whole key x (f.retarget inner)).mpr ?_
    rcases (hasChild_whole key x f).mp hadWhole with ⟨named, text⟩ | elsewhere
    · -- the child is the one that the walk goes on in: it keeps its name, and its text if not last
      refine Or.inl ⟨(name_of_place tail reached).trans named, ?_⟩
      by_cases below : rest ≠ [] ∨ value = none
      · exact (ownText_place tail below reached).trans text
      · obtain ⟨last, written⟩ := not_or.mp below
        obtain ⟨text, rfl⟩ := Option.ne_none_iff_exists'.mp written
        obtain rfl := Decidable.not_not.mp last
        have accepted :=
          Part.name_of_accepts (finds_of_designated head.isChildStep designated).target
        have sameName : step.childName = key := congrArg Name.label (accepted.symm.trans named)
        rw [same step rfl head sameName text rfl]
        exact ownText_place_nil reached
    · exact Or.inr elsewhere

/-- What a step accepted it accepts after the rest of the walk, unless that writes another value
where the step asks for one. -/
theorem accepts_place {step : Part} {rest : List Part} (head : step.IsElementStep)
    (tail : IsTail rest) {value : Option String} {e left : Element} {address : Address}
    (placed : e.place value rest = (left, .ok address)) (accepts : step.accepts e = true)
    (same : ∀ x ∈ step.overwritten? rest, ∀ text ∈ value, x = text) :
    step.accepts left = true := by
  have named := Part.name_of_accepts accepts
  rw [Part.accepts_of_name named] at accepts
  rw [Part.accepts_of_name ((name_of_place tail placed).trans named)]
  cases step with
  | filtered name predicate =>
    cases predicate with
    | attributeIs key x =>
      have had : e.attribute? (.bare key) = some x := beq_iff_eq.mp accepts
      refine beq_iff_eq.mpr ?_
      by_cases last : rest = [.attribute key]
      · subst last
        refine attribute?_place_last head.2.1 placed had (same x ?_)
        exact if_pos rfl
      · rw [attribute?_place tail placed last, had]
    | childIs key x =>
      refine hasChild_place tail placed accepts ?_
      rintro last rfl isStep sameName
      refine same x ?_
      rw [Part.overwritten?_childIs isStep, if_pos sameName]
      rfl
    | _ => rfl
  | _ => rfl

end Xml.Element

end XmlGraft
