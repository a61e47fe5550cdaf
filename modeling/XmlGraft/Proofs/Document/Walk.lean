import XmlGraft.Document.Graft
import XmlGraft.Proofs.Document.Root

/-!
# Walks — grafting along a path that was read

On a path that was read a walk needs neither its surroundings nor the count of prefixes:
`Element.place` is the walk without them, and `graft_eq` says that it is the same walk. Each element
step designates a child and goes on inside it (`place_step`), so a walk that succeeds is taken apart
step by step (`place_step_eq_ok`), and at a document after its first step (`graft_eq_ok_iff`).
-/

namespace XmlGraft

open Xml XmlGraft.Path

namespace Xml.Element

/-- Writing an attribute with a plain name needs no surroundings. -/
theorem writeAttribute_plain {key : String} (isName : isNCName key = true) (above : Scope)
    (value : Option String) (e : Element) :
    e.writeAttribute above key value =
      match value with
      | some text =>
        if compatible text then .ok (e.withAttribute key text) else .error .forbiddenText
      | none => .ok (if (e.attribute? (.bare key)).isSome then e else e.withAttribute key "") := by
  cases value with
  | some text => exact setAttribute_plain isName above text e
  | none =>
    rw [writeAttribute, ofText_plain isName, ok_bind]
    by_cases present : (e.attribute? (.bare key)).isSome = true
    · simp only [if_pos present]
      rfl
    · simp only [if_neg present]
      rw [setAttribute_plain isName]
      rfl

/-- Walks steps down from an element and writes a value at their end, where nothing needs a prefix.
Answers with the element as it then is, and with the address of the element that was written to. -/
def place (value : Option String) : List Part → Element → Element × Except Fault Address
  | [], e => ((e.writeText value).1, (e.writeText value).2.map fun _ => [])
  | [.attribute key], e =>
    match e.writeAttribute [] key value with
    | .ok written => (written, .ok [])
    | .error fault => (e, .error fault)
  | step :: rest, e =>
    match e.designated step with
    | none => (e, .error .forbiddenText)
    | some f =>
      ((f.retarget (place value rest f.target).1).whole,
        (place value rest f.target).2.map (f.index :: ·))

/-- An element step designates a child and goes on inside it. -/
theorem place_step {step : Part} (head : step.IsElementStep) (value : Option String)
    (rest : List Part) (e : Element) :
    e.place value (step :: rest) =
      match e.designated step with
      | none => (e, .error .forbiddenText)
      | some f =>
        ((f.retarget (f.target.place value rest).1).whole,
          (f.target.place value rest).2.map (f.index :: ·)) := by
  cases step with
  | «attribute» key => exact head.elim
  | _ => rfl

/-- A walk with surroundings takes an element step alike. -/
theorem graft_step {step : Part} (head : step.IsElementStep) (value : Option String)
    (rest : List Part) (above : Scope) (made : Nat) (e : Element) :
    e.graft value (step :: rest) above made =
      match e.reach above made step with
      | .error fault => ((e, made), .error fault)
      | .ok (focus, made) =>
        let ((inner, made), outcome) :=
          focus.target.graft value rest (e.head.frame :: above) made
        (({ focus with target := inner }.whole, made), outcome.map (focus.index :: ·)) := by
  cases step with
  | «attribute» key => exact head.elim
  | _ => rfl

/-- Grafting along a path that was read is the walk without surroundings. -/
theorem graft_eq {steps : List Part} (tail : IsTail steps) (value : Option String) (above : Scope)
    (made : Nat) (e : Element) :
    e.graft value steps above made =
      (((e.place value steps).1, made), (e.place value steps).2) := by
  induction tail generalizing above made e with
  | nil => rfl
  | @last key isName =>
    rw [graft, place, writeAttribute_plain isName above, writeAttribute_plain isName []]
    cases value with
    | none => rfl
    | some text =>
      by_cases writable : compatible text = true
      · simp only [if_pos writable]
      · simp only [if_neg writable]
  | @step step rest head tail ih =>
    rw [graft_step head, place_step head, reach_eq head.isChildStep]
    cases e.designated step with
    | none => rfl
    | some f =>
      simp only [ih]
      rfl

/-- A walk that ends in an attribute succeeds if the attribute is written. -/
theorem place_last_eq_ok {key : String} {value : Option String} {e left : Element}
    {address : Address} :
    e.place value [.attribute key] = (left, .ok address) ↔
      e.writeAttribute [] key value = .ok left ∧ address = [] := by
  rw [place]
  constructor
  · intro equal
    split at equal
    · next wrote =>
      cases equal
      exact ⟨wrote, rfl⟩
    · cases equal
  · rintro ⟨wrote, rfl⟩
    rw [wrote]

/-- A walk that succeeds at an element step succeeds inside the child that the step designates. -/
theorem place_step_eq_ok {step : Part} (head : step.IsElementStep) {value : Option String}
    {rest : List Part} {e left : Element} {address : Address} :
    e.place value (step :: rest) = (left, .ok address) ↔
      ∃ f inner inside, e.designated step = some f ∧
        f.target.place value rest = (inner, .ok inside) ∧
        left = (f.retarget inner).whole ∧ address = f.index :: inside := by
  rw [place_step head]
  cases designated : e.designated step with
  | none =>
    constructor
    · intro equal
      cases equal
    · rintro ⟨_, _, _, equal, _⟩
      cases equal
  | some f =>
    constructor
    · intro equal
      obtain ⟨sameLeft, sameOutcome⟩ := Prod.mk.inj equal
      obtain ⟨inside, reached, rfl⟩ := map_eq_ok.mp sameOutcome
      exact ⟨f, _, inside, rfl, Prod.ext rfl reached, sameLeft.symm, rfl⟩
    · rintro ⟨g, inner, inside, equal, placed, rfl, rfl⟩
      cases equal
      simp only [placed]
      rfl

end Xml.Element

namespace Document

/-- A walk down from a document resolves its first step there, and walks on from the root without
surroundings. -/
theorem graftSteps_eq {step : Part} {rest : List Part} (path : WellFormed (step :: rest))
    (value : Option String) (d : Document) :
    d.graftSteps value (step :: rest) =
      match d.reach step with
      | (left, .error fault) => (left, .error fault)
      | (left, .ok root) =>
        (⟨some (root.place value rest).1, left.prefixesMade⟩, (root.place value rest).2) := by
  simp only [graftSteps]
  cases d.reach step with
  | mk left outcome =>
    cases outcome with
    | error fault => rfl
    | ok root => simp only [Element.graft_eq path.2]

/-- Grafting along a path that was read is the walk down from the document. -/
theorem graft_eq {path : String} {step : Part} {rest : List Part}
    (parsed : parse path = .ok (step :: rest)) (value : Option String) (d : Document) :
    d.graft path value =
      match d.reach step with
      | (left, .error fault) => (left, .error fault)
      | (left, .ok root) =>
        (⟨some (root.place value rest).1, left.prefixesMade⟩, (root.place value rest).2) := by
  rw [graft, parsed]
  exact graftSteps_eq (wellFormed_of_parse parsed) value d

/-- A walk down from a document succeeds if the first step reaches the root and the walk from there
succeeds. -/
theorem graftSteps_eq_ok_iff {step : Part} {rest : List Part} (path : WellFormed (step :: rest))
    {value : Option String} {d left : Document} {address : Address} :
    d.graftSteps value (step :: rest) = (left, .ok address) ↔
      ∃ root written, d.reach step = ({ d with root := some root }, .ok root) ∧
        root.place value rest = (written, .ok address) ∧
        left = { d with root := some written } := by
  rw [graftSteps_eq path]
  constructor
  · intro equal
    split at equal
    · cases equal
    · next left root reached =>
      obtain ⟨rfl, _⟩ := (reach_eq_ok_iff path.1).mp reached
      obtain ⟨sameLeft, sameOutcome⟩ := Prod.mk.inj equal
      exact ⟨root, _, reached, Prod.ext rfl sameOutcome, sameLeft.symm⟩
  · rintro ⟨root, written, reached, placed, rfl⟩
    simp only [reached, placed]

/-- Grafting succeeds if the first step reaches the root and the walk from there succeeds. -/
theorem graft_eq_ok_iff {path : String} {step : Part} {rest : List Part}
    (parsed : parse path = .ok (step :: rest)) {value : Option String} {d left : Document}
    {address : Address} :
    d.graft path value = (left, .ok address) ↔
      ∃ root written, d.reach step = ({ d with root := some root }, .ok root) ∧
        root.place value rest = (written, .ok address) ∧
        left = { d with root := some written } := by
  rw [graft, parsed]
  exact graftSteps_eq_ok_iff (wellFormed_of_parse parsed)

end Document

end XmlGraft
