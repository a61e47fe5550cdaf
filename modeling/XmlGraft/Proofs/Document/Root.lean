import XmlGraft.Proofs.Document.Designation

/-!
# The root — what the first step of a path means

At a document a step designates the root, if it accepts it and passes over nothing. In an empty
document it makes the root, again if it passes over nothing (`reach_eq_ok_iff`). A document that has
a root never gets another, and is left as it is by a step that does not designate it
(`resolution`, `reach_eq`).
-/

namespace XmlGraft

open Xml XmlGraft.Path

namespace Document

/-- The candidate for a plain name is the root, if it is its name. -/
theorem candidate?_eq {name : String} (isName : isNCName name = true) {d : Document}
    {root : Element} (rooted : d.root = some root) :
    d.candidate? name = if root.name = .bare name then some root else none := by
  rw [candidate?, rooted, Option.filter_some]
  by_cases same : root.name = .bare name
  · rw [if_pos same, if_pos (beq_iff_eq.mpr ((text_eq_iff isName root.name).mpr same))]
  · have differs : ¬(root.name.text == name) = true := fun equal =>
      same ((text_eq_iff isName root.name).mp (beq_iff_eq.mp equal))
    rw [if_neg same, if_neg differs]

/-- An empty document has no candidate. -/
theorem candidate?_empty {d : Document} (empty : d.root = none) (name : String) :
    d.candidate? name = none := by
  rw [candidate?, empty, Option.filter_none]

/-! ## What a step does at a document -/

/-- Why a step that would make another root is refused: the document has one, unless what the step
would make cannot be made in the first place. -/
def refusal (step : Part) (root : Element) : Fault :=
  if step.creatable then .secondRoot step.childName root.name.text else .forbiddenText

/-- What a step does at a document. Where it makes the root of an empty document and passes over
some, the root that it made stays, and the next is refused. -/
def resolution (step : Part) (d : Document) : Document × Except Fault Element :=
  match d.root with
  | some root =>
    if step.accepts root = true ∧ step.passesOver = 0 then (d, .ok root)
    else (d, .error (refusal step root))
  | none =>
    if step.creatable = true then
      ({ d with root := some step.seed },
        if step.passesOver = 0 then .ok step.seed else .error (refusal step step.seed))
    else (d, .error .forbiddenText)

/-- A document that has a root is left alone by a step that would make another. -/
theorem addMade_rooted {d : Document} {root : Element} (rooted : d.root = some root) (step : Part) :
    d.addMade (if step.creatable then .ok step.seed else .error .forbiddenText) =
      (d, .error (refusal step root)) := by
  have text : step.seed.name.text = step.childName := congrArg Name.text step.name_seed
  by_cases creatable : step.creatable = true
  · rw [if_pos creatable, refusal, if_pos creatable, addMade, addRoot, rooted, text]
  · rw [if_neg creatable, refusal, if_neg creatable, addMade]

/-- An empty document takes a root. -/
theorem addMade_empty {d : Document} (empty : d.root = none) (root : Element) :
    d.addMade (.ok root) = ({ d with root := some root }, .ok root) := by
  rw [addMade, addRoot, empty]

/-- What a step does at a document that has a root. -/
theorem resolution_rooted {d : Document} {root : Element} (rooted : d.root = some root)
    (step : Part) :
    d.resolution step =
      if step.accepts root = true ∧ step.passesOver = 0 then (d, .ok root)
      else (d, .error (refusal step root)) := by
  rw [resolution, rooted]

/-- Where the root has another name, a step would make another. -/
theorem resolution_of_name_ne {d : Document} {root : Element} (rooted : d.root = some root)
    (step : Part) (other : root.name ≠ .bare step.childName) :
    d.resolution step = (d, .error (refusal step root)) := by
  rw [resolution_rooted rooted]
  exact if_neg fun both => other (Part.name_of_accepts both.1)

/-- A step with a position reaches the root if it is the first candidate. -/
theorem reachPosition_rooted {name : String} {index : Int}
    (isStep : (Part.filtered name (.position index)).IsElementStep) {d : Document} {root : Element}
    (rooted : d.root = some root) :
    d.reachPosition name index = d.resolution (.filtered name (.position index)) := by
  obtain ⟨isName, positive, _⟩ := isStep
  have refused : d.addMade (Element.new name) =
      (d, .error (refusal (.filtered name (.position index)) root)) := by
    rw [Element.new_plain isName]
    exact addMade_rooted rooted (.filtered name (.position index))
  by_cases named : root.name = .bare name
  · have accepts : (Part.filtered name (.position index)).accepts root = true := by
      rw [Part.accepts, Bool.and_eq_true, beq_iff_eq]
      exact ⟨named, rfl⟩
    have candidates : (d.candidate? name).toList = [root] := by
      rw [candidate?_eq isName rooted, if_pos named, Option.toList_some]
    rw [reachPosition, candidates, resolution_rooted rooted, Part.passesOver, accepts]
    by_cases first : index = 1
    · subst first
      rfl
    · have beyond : ¬index ≤ ([root].length : Nat) := by
        rw [List.length_singleton]
        omega
      have notFirst : ¬(true = true ∧ index.toNat - 1 = 0) := by omega
      rw [if_neg notFirst]
      simp only [if_neg beyond, refused]
  · have candidates : (d.candidate? name).toList = [] := by
      rw [candidate?_eq isName rooted, if_neg named, Option.toList_none]
    have beyond : ¬index ≤ (([] : List Element).length : Nat) := by
      rw [List.length_nil]
      omega
    rw [resolution_of_name_ne rooted (.filtered name (.position index)) named, reachPosition,
      candidates]
    simp only [if_neg beyond, refused]

/-- A step with a position makes the root if it is the first. -/
theorem reachPosition_empty {name : String} {index : Int}
    (isStep : (Part.filtered name (.position index)).IsElementStep) {d : Document}
    (empty : d.root = none) :
    d.reachPosition name index = d.resolution (.filtered name (.position index)) := by
  obtain ⟨isName, positive, _⟩ := isStep
  have beyond : ¬index ≤ (([] : List Element).length : Nat) := by
    rw [List.length_nil]
    omega
  have seed : (Part.filtered name (.position index)).seed = .blank name := rfl
  have creatable : (Part.filtered name (.position index)).creatable = true := rfl
  simp only [reachPosition, candidate?_empty empty, Option.toList_none, Element.new_plain isName,
    addMade_empty empty, if_neg beyond, resolution, empty, creatable, if_true, seed,
    Part.passesOver]
  by_cases first : index = 1
  · subst first
    rfl
  · have notFirst : ¬index - (([] : List Element).length : Nat) = 1 := by
      rw [List.length_nil]
      omega
    have passesSome : ¬index.toNat - 1 = 0 := by omega
    rw [if_neg notFirst, if_neg passesSome, addRoot]
    rfl

/-- A step with another predicate passes over nothing. -/
theorem passesOver_comparison {name : String} {predicate : Part}
    (comparison : ∀ index, predicate ≠ .position index) :
    (Part.filtered name predicate).passesOver = 0 := by
  cases predicate with
  | position index => exact absurd rfl (comparison index)
  | _ => rfl

/-- Without a candidate, a step with another predicate makes its seed. -/
theorem reachTested_of_none {name : String} {predicate : Part}
    (isStep : (Part.filtered name predicate).IsElementStep)
    (comparison : ∀ index, predicate ≠ .position index) {d : Document}
    (none : d.candidate? name = none) :
    d.reachTested name predicate =
      d.addMade (if (Part.filtered name predicate).creatable then
        .ok (Part.filtered name predicate).seed else .error .forbiddenText) := by
  rw [← seeded_eq isStep.isChildStep]
  unfold reachTested
  rw [none]
  cases predicate with
  | position index => exact absurd rfl (comparison index)
  | attributeIs key value => rfl
  | childIs key value => rfl
  | _ => exact isStep.2.elim

/-- A step with another predicate reaches the root if that is as it asks. -/
theorem reachTested_rooted {name : String} {predicate : Part}
    (isStep : (Part.filtered name predicate).IsElementStep)
    (comparison : ∀ index, predicate ≠ .position index) {d : Document} {root : Element}
    (rooted : d.root = some root) :
    d.reachTested name predicate = d.resolution (.filtered name predicate) := by
  have refused := addMade_rooted rooted (.filtered name predicate)
  by_cases named : root.name = .bare name
  · have candidate : d.candidate? name = some root := by
      rw [candidate?_eq isStep.1 rooted, if_pos named]
    have accepts : (Part.filtered name predicate).accepts root =
        (Part.filtered name predicate).asks root := Part.accepts_of_name named
    have tested : d.reachTested name predicate =
        if (Part.filtered name predicate).asks root then (d, .ok root)
        else d.addMade (seeded name predicate) := by
      unfold reachTested
      rw [candidate, Xml.Element.predicateTest_eq isStep.isChildStep.2 comparison]
    rw [tested, seeded_eq isStep.isChildStep, refused]
    rw [resolution_rooted rooted, accepts, passesOver_comparison comparison]
    simp only [and_true]
  · have candidate : d.candidate? name = none := by
      rw [candidate?_eq isStep.1 rooted, if_neg named]
    rw [resolution_of_name_ne rooted (.filtered name predicate) named,
      reachTested_of_none isStep comparison candidate, refused]

/-- A step with another predicate makes the root if its literal can stand in markup. -/
theorem reachTested_empty {name : String} {predicate : Part}
    (isStep : (Part.filtered name predicate).IsElementStep)
    (comparison : ∀ index, predicate ≠ .position index) {d : Document} (empty : d.root = none) :
    d.reachTested name predicate = d.resolution (.filtered name predicate) := by
  rw [reachTested_of_none isStep comparison (candidate?_empty empty name)]
  simp only [resolution, empty, passesOver_comparison comparison, if_true]
  by_cases creatable : (Part.filtered name predicate).creatable = true
  · rw [if_pos creatable, if_pos creatable]
    exact addMade_empty empty _
  · rw [if_neg creatable, if_neg creatable, addMade]

/-- A step with a predicate is resolved at a document. -/
theorem reach_filtered {name : String} {predicate : Part}
    (isStep : (Part.filtered name predicate).IsElementStep) (d : Document) :
    d.reach (.filtered name predicate) = d.resolution (.filtered name predicate) := by
  cases rooted : d.root with
  | some root =>
    cases predicate with
    | position index => exact reachPosition_rooted isStep rooted
    | attributeIs key value => exact reachTested_rooted isStep (fun _ same => nomatch same) rooted
    | childIs key value => exact reachTested_rooted isStep (fun _ same => nomatch same) rooted
    | _ => exact isStep.2.elim
  | none =>
    cases predicate with
    | position index => exact reachPosition_empty isStep rooted
    | attributeIs key value => exact reachTested_empty isStep (fun _ same => nomatch same) rooted
    | childIs key value => exact reachTested_empty isStep (fun _ same => nomatch same) rooted
    | _ => exact isStep.2.elim

/-- A step without a predicate is resolved at a document. -/
theorem reach_element {name : String} (isName : isNCName name = true) (d : Document) :
    d.reach (.element name) = d.resolution (.element name) := by
  cases rooted : d.root with
  | some root =>
    have candidate := candidate?_eq isName rooted
    by_cases named : root.name = .bare name
    · have accepts : (Part.element name).accepts root = true := Part.accepts_of_name named
      rw [if_pos named] at candidate
      simp only [reach, candidate, resolution, rooted, accepts]
      rfl
    · rw [if_neg named] at candidate
      rw [resolution_of_name_ne rooted (.element name) named, reach, candidate,
        Element.new_plain isName]
      exact addMade_rooted rooted (.element name)
  | none =>
    simp only [reach, candidate?_empty rooted, Element.new_plain isName, addMade_empty rooted,
      resolution, rooted]
    rfl

/-- What a step does at a document. -/
theorem reach_eq {step : Part} (isStep : step.IsElementStep) (d : Document) :
    d.reach step = d.resolution step := by
  cases step with
  | element name => exact reach_element isStep d
  | filtered name predicate => exact reach_filtered isStep d
  | _ => exact isStep.elim

/-! ## Reaching the root -/

/-- What a step does at a document that has a root: it reaches the root or is refused, and leaves
the document alone. -/
def AtRoot (d : Document) (root : Element) (step : Part)
    (outcome : Document × Except Fault Element) : Prop :=
  if step.accepts root = true ∧ step.passesOver = 0 then outcome = (d, .ok root)
  else ∃ fault, outcome = (d, .error fault)

/-- A step reaches the root of a document that has one, or is refused. -/
theorem reach_rooted {step : Part} (isStep : step.IsElementStep) {d : Document} {root : Element}
    (rooted : d.root = some root) : AtRoot d root step (d.reach step) := by
  rw [reach_eq isStep, AtRoot, resolution_rooted rooted]
  split
  · rfl
  · exact ⟨_, rfl⟩

/-- What a step does at an empty document: it makes the root, or is refused. -/
def MakesRoot (d : Document) (step : Part) (outcome : Document × Except Fault Element) : Prop :=
  if step.creatable = true ∧ step.passesOver = 0 then
    outcome = ({ d with root := some step.seed }, .ok step.seed)
  else ∃ left fault, outcome = (left, .error fault)

/-- A step makes the root of an empty document, or is refused. -/
theorem reach_empty {step : Part} (isStep : step.IsElementStep) {d : Document}
    (empty : d.root = none) : MakesRoot d step (d.reach step) := by
  simp only [reach_eq isStep, MakesRoot, resolution, empty]
  by_cases creatable : step.creatable = true
  · by_cases first : step.passesOver = 0
    · simp only [creatable, first, and_self, if_true]
    · simp only [creatable, first, and_false, if_true, if_false]
      exact ⟨_, _, rfl⟩
  · simp only [creatable]
    exact ⟨_, _, rfl⟩

/-- A document with a root reaches it if the step accepts it and passes over nothing. -/
theorem reach_rooted_eq_ok_iff {step : Part} (isStep : step.IsElementStep) {d left : Document}
    {present root : Element} (rooted : d.root = some present) :
    d.reach step = (left, .ok root) ↔
      left = d ∧ root = present ∧ step.passesOver = 0 ∧ step.accepts present = true := by
  have outcome := reach_rooted isStep rooted
  rw [AtRoot] at outcome
  by_cases reached : step.accepts present = true ∧ step.passesOver = 0
  · rw [if_pos reached] at outcome
    rw [outcome]
    constructor
    · intro equal
      cases equal
      exact ⟨rfl, rfl, reached.2, reached.1⟩
    · rintro ⟨rfl, rfl, _⟩
      rfl
  · rw [if_neg reached] at outcome
    obtain ⟨fault, refused⟩ := outcome
    rw [refused]
    constructor
    · intro equal
      cases equal
    · rintro ⟨_, _, first, accepts⟩
      exact absurd ⟨accepts, first⟩ reached

/-- An empty document reaches the root that the step makes, if it can be made and comes first. -/
theorem reach_empty_eq_ok_iff {step : Part} (isStep : step.IsElementStep) {d left : Document}
    {root : Element} (empty : d.root = none) :
    d.reach step = (left, .ok root) ↔
      left = { d with root := some step.seed } ∧ root = step.seed ∧ step.passesOver = 0 ∧
        step.creatable = true := by
  have outcome := reach_empty isStep empty
  rw [MakesRoot] at outcome
  by_cases made : step.creatable = true ∧ step.passesOver = 0
  · rw [if_pos made] at outcome
    rw [outcome]
    constructor
    · intro equal
      cases equal
      exact ⟨rfl, rfl, made.2, made.1⟩
    · rintro ⟨rfl, rfl, _⟩
      rfl
  · rw [if_neg made] at outcome
    obtain ⟨other, fault, refused⟩ := outcome
    rw [refused]
    constructor
    · intro equal
      cases equal
    · rintro ⟨_, _, first, creatable⟩
      exact absurd ⟨creatable, first⟩ made

/-- The element that a step reaches at a document is its root, which it accepts, and which was there
or was made for it. -/
theorem reach_eq_ok_iff {step : Part} (isStep : step.IsElementStep) {d left : Document}
    {root : Element} :
    d.reach step = (left, .ok root) ↔
      left = { d with root := some root } ∧ step.passesOver = 0 ∧ step.accepts root = true ∧
        (d.root = some root ∨ d.root = none ∧ step.creatable = true ∧ root = step.seed) := by
  cases rooted : d.root with
  | some present =>
    have same : d = { d with root := some present } := by rw [← rooted]
    rw [reach_rooted_eq_ok_iff isStep rooted]
    constructor
    · rintro ⟨rfl, rfl, first, accepts⟩
      exact ⟨same, first, accepts, Or.inl rfl⟩
    · rintro ⟨rfl, first, accepts, equal | ⟨none, _⟩⟩
      · cases equal
        exact ⟨same.symm, rfl, first, accepts⟩
      · cases none
  | none =>
    rw [reach_empty_eq_ok_iff isStep rooted]
    constructor
    · rintro ⟨rfl, rfl, first, creatable⟩
      exact ⟨rfl, first, Part.accepts_seed isStep.isChildStep, Or.inr ⟨rfl, creatable, rfl⟩⟩
    · rintro ⟨rfl, first, _, equal | ⟨_, creatable, rfl⟩⟩
      · cases equal
      · exact ⟨rfl, rfl, first, creatable⟩

end Document

end XmlGraft
