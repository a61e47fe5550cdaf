import XmlGraft.Proofs.Document.Preservation

/-!
# Counting elements — when a walk creates one

A walk never loses an element, and it creates one exactly where it misses one that can be made:
`Element.missing?` is the first step for which it finds no child, and `elementCount_place_ne_iff`
says that the count of elements changes exactly if there is such a step and its seed can be made.
At a document with a root the same holds after the first step, which never makes a second root.
-/

namespace XmlGraft

open Xml XmlGraft.Path

/-! ## Counts -/

namespace Xml

mutual

/-- How many elements a node is and has below it. -/
def Node.elementCount : Node → Nat
  | .element _ children _ => countElements children + 1
  | .comment _ _ | .instruction _ _ _ => 0

/-- How many elements some nodes are and have below them. -/
def countElements : List Node → Nat
  | [] => 0
  | node :: rest => node.elementCount + countElements rest

end

/-- How many elements an element is and has below it. -/
def Element.elementCount (e : Element) : Nat := countElements e.children + 1

theorem countElements_append (first second : List Node) :
    countElements (first ++ second) = countElements first + countElements second := by
  induction first with
  | nil => exact (Nat.zero_add _).symm
  | cons node rest ih => rw [List.cons_append, countElements, countElements, ih, Nat.add_assoc]

/-- Tails are not counted. -/
theorem countElements_withTail (tail : Option String) (nodes : List Node) :
    countElements (nodes.map (Node.withTail tail)) = countElements nodes := by
  induction nodes with
  | nil => rfl
  | cons node rest ih =>
    have same : (node.withTail tail).elementCount = node.elementCount := by
      cases node with
      | _ => rfl
    rw [List.map_cons, countElements, countElements, ih, same]

end Xml

/-- How many elements a document has. -/
def Document.elementCount (d : Document) : Nat := (d.root.map Element.elementCount).getD 0

/-- The elements of a focus are those of its target and those around it. -/
theorem Focus.elementCount_whole (f : Focus) :
    f.whole.elementCount =
      countElements f.before + f.target.elementCount + countElements f.after + 1 := by
  rw [Element.elementCount, Focus.whole, countElements_append, countElements, Node.elementCount,
    Element.elementCount]
  omega

/-- Another target changes the count as much as it differs itself. -/
theorem Focus.elementCount_retarget (f : Focus) (target : Element) :
    (f.retarget target).whole.elementCount + f.target.elementCount =
      f.whole.elementCount + target.elementCount := by
  have before := (f.retarget target).elementCount_whole
  have after := f.elementCount_whole
  simp only [Focus.retarget] at before
  simp only [Focus.retarget]
  omega

/-! ## What a walk creates -/

namespace Xml.Element

/-- The first step for which a walk finds no child. -/
def missing? : List Part → Element → Option Part
  | [], _ | [.attribute _], _ => none
  | step :: rest, e =>
    match e.pick step.accepts step.passesOver with
    | some f => f.target.missing? rest
    | none => some step

theorem missing?_step {step : Part} (head : step.IsElementStep) (rest : List Part) (e : Element) :
    e.missing? (step :: rest) =
      match e.pick step.accepts step.passesOver with
      | some f => f.target.missing? rest
      | none => some step := by
  cases step with
  | «attribute» key => exact head.elim
  | _ => rfl

/-- Where the seed of a step is made there are more elements than before. -/
theorem elementCount_grown (step : Part) (e : Element) :
    e.elementCount < (e.grown step).whole.elementCount := by
  rw [Focus.elementCount_whole, grown, countElements_append, elementCount, elementCount]
  omega

/-- Writing a text creates no element. -/
theorem elementCount_writeText (value : Option String) (e : Element) :
    (e.writeText value).1.elementCount = e.elementCount := by
  cases value with
  | none => rfl
  | some text =>
    rw [writeText, setText]
    split
    · exact congrArg (· + 1) (countElements_withTail none e.children)
    · rfl

/-- A walk that ends in an attribute creates no element. -/
theorem elementCount_place_last {key : String} (isName : isNCName key = true)
    (value : Option String) (e : Element) :
    (e.place value [.attribute key]).1.elementCount = e.elementCount := by
  rw [place]
  split
  · next wrote =>
    rcases writeAttribute_eq_ok isName wrote with rfl | ⟨_, _, rfl⟩
    · rfl
    · rfl
  · rfl

/-- A walk never loses an element. -/
theorem elementCount_le_place {steps : List Part} (tail : IsTail steps) (value : Option String)
    (e : Element) : e.elementCount ≤ (e.place value steps).1.elementCount := by
  induction tail generalizing e with
  | nil => exact Nat.le_of_eq (elementCount_writeText value e).symm
  | last isName => exact Nat.le_of_eq (elementCount_place_last isName value e).symm
  | @step step rest head tail ih =>
    rw [place_step head]
    split
    · exact Nat.le_refl _
    · next f designated =>
      have inside := ih f.target
      have around := f.elementCount_retarget (f.target.place value rest).1
      have grows : e.elementCount ≤ f.whole.elementCount := by
        rcases designated_cases designated with picked | ⟨_, _, rfl⟩
        · exact Nat.le_of_eq (congrArg elementCount (pick_eq_some_iff.mp picked).1.symm)
        · exact Nat.le_of_lt (elementCount_grown step e)
      show e.elementCount ≤ (f.retarget (f.target.place value rest).1).whole.elementCount
      omega

/-- A walk creates an element exactly if it misses one that can be made. -/
theorem elementCount_place_ne_iff {steps : List Part} (tail : IsTail steps) (value : Option String)
    (e : Element) :
    (e.place value steps).1.elementCount ≠ e.elementCount ↔
      ∃ step ∈ e.missing? steps, step.creatable = true := by
  induction tail generalizing e with
  | nil =>
    constructor
    · exact fun created => absurd (elementCount_writeText value e) created
    · rintro ⟨_, none, _⟩
      cases none
  | last isName =>
    constructor
    · exact fun created => absurd (elementCount_place_last isName value e) created
    · rintro ⟨_, none, _⟩
      cases none
  | @step step rest head tail ih =>
    rw [place_step head, missing?_step head]
    cases picked : e.pick step.accepts step.passesOver with
    | some f =>
      have designated : e.designated step = some f := by rw [designated, picked]
      have around := f.elementCount_retarget (f.target.place value rest).1
      rw [(pick_eq_some_iff.mp picked).1] at around
      rw [designated, ← ih f.target]
      show (f.retarget (f.target.place value rest).1).whole.elementCount ≠ e.elementCount ↔ _
      omega
    | none =>
      by_cases creatable : step.creatable = true
      · have designated : e.designated step = some (e.grown step) := by
          rw [designated, picked, if_pos creatable]
        have grows := elementCount_grown step e
        have inside := elementCount_le_place tail value (e.grown step).target
        have around := (e.grown step).elementCount_retarget
          ((e.grown step).target.place value rest).1
        rw [designated]
        constructor
        · exact fun _ => ⟨step, rfl, creatable⟩
        · intro _
          show ((e.grown step).retarget _).whole.elementCount ≠ e.elementCount
          omega
      · have refused : e.designated step = none := by
          rw [designated, picked, if_neg creatable]
        rw [refused]
        constructor
        · exact fun created => absurd rfl created
        · rintro ⟨other, same, otherCreatable⟩
          cases same
          exact absurd otherCreatable creatable

end Xml.Element

namespace Document

/-- The first step after the root for which a walk finds no child, if it reaches the root. -/
def missing? (steps : List Part) (d : Document) : Option Part :=
  match d.root, steps with
  | some root, step :: rest =>
    if step.accepts root = true ∧ step.passesOver = 0 then root.missing? rest else none
  | _, _ => none

/-- In a document with a root grafting creates an element exactly if it misses one below the root
that can be made. -/
theorem elementCount_graft_ne_iff {path : String} {steps : List Part}
    (parsed : parse path = .ok steps) (value : Option String) {d : Document} {root : Element}
    (rooted : d.root = some root) :
    (d.graft path value).1.elementCount ≠ d.elementCount ↔
      ∃ step ∈ d.missing? steps, step.creatable = true := by
  have wellFormed := wellFormed_of_parse parsed
  cases steps with
  | nil => exact wellFormed.elim
  | cons step rest =>
    obtain ⟨head, tail⟩ := wellFormed
    have atRoot := reach_rooted head rooted
    have count : d.elementCount = root.elementCount := by
      rw [elementCount, rooted]
      rfl
    have missed : d.missing? (step :: rest) =
        if step.accepts root = true ∧ step.passesOver = 0 then root.missing? rest else none := by
      simp only [missing?, rooted]
    rw [graft_eq parsed, missed]
    rw [AtRoot] at atRoot
    by_cases reached : step.accepts root = true ∧ step.passesOver = 0
    · rw [if_pos reached] at atRoot
      simp only [atRoot, if_pos reached, count]
      exact Element.elementCount_place_ne_iff tail value root
    · rw [if_neg reached] at atRoot
      obtain ⟨fault, refused⟩ := atRoot
      simp only [refused, if_neg reached]
      constructor
      · exact fun created => absurd rfl created
      · rintro ⟨_, none, _⟩
        cases none

end Document

end XmlGraft
