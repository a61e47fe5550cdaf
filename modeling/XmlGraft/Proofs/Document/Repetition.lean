import XmlGraft.Proofs.Document.Count

/-!
# Repetition — grafting along the same path again

A graft that succeeded leads to the same element when it is repeated, since every step of its path
still accepts the child that it designated (`accepts_place`). So the second of two grafts succeeds
too, creates nothing, and leaves what one graft with the later text would have left
(`graft_graft`).

This is not so for a path that asks for one value and writes another in its place, as in
`/r/a[@x='1']/@x`: once written, the element is no longer the one that the path means, and the
second graft makes another. It creates an element in no other case (`graft_twice_creates_iff`).
-/

namespace XmlGraft

open Xml XmlGraft.Path

namespace Path

/-- A last step overwrites nothing that was asked for. -/
theorem overwritten?_singleton (step : Part) : overwritten? [step] = none := by
  have none : step.overwritten? [] = none := by
    cases step with
    | filtered name predicate =>
      cases predicate with
      | _ => rfl
    | _ => rfl
  rw [overwritten?, none]
  rfl

/-- A path asks for a value and overwrites it in its first two steps, or further down. -/
theorem mem_overwritten?_cons {step : Part} {rest : List Part} {x : String} :
    x ∈ overwritten? (step :: rest) ↔ x ∈ step.overwritten? rest ∨ x ∈ overwritten? rest := by
  -- what the first step asks for is overwritten only by a rest of one step, which asks in vain
  have apart : ∀ y ∈ step.overwritten? rest, overwritten? rest = none := by
    intro y member
    unfold Part.overwritten? at member
    split at member
    · exact overwritten?_singleton _
    · exact overwritten?_singleton _
    · exact overwritten?_singleton _
    · cases member
  rw [overwritten?]
  cases first : step.overwritten? rest with
  | none => simp only [Option.none_or, Option.mem_def, false_or, reduceCtorEq]
  | some y =>
    rw [apart y first]
    simp only [Option.some_or, Option.mem_def, or_false, reduceCtorEq]

end Path

namespace Xml.Element

/-- Writing a text twice leaves the later one, or the only one. -/
theorem writeText_writeText {first second : Option String} {e left : Element}
    {address : Address} (writable : ∀ text ∈ second, compatible text = true)
    (placed : e.place first [] = (left, .ok address)) :
    ∃ again, left.place second [] = (again, .ok address) ∧
      e.place (second.or first) [] = (again, .ok address) := by
  cases second with
  | none =>
    rw [Option.none_or, placed]
    obtain ⟨_, sameOutcome⟩ := Prod.mk.inj placed
    obtain ⟨_, _, rfl⟩ := map_eq_ok.mp sameOutcome
    exact ⟨left, rfl, rfl⟩
  | some text =>
    have wrote : ∀ e : Element, e.place (some text) [] = (e.withText text, .ok []) := by
      intro e
      rw [place, writeText, setText, if_pos (writable text rfl)]
      rfl
    rw [Option.some_or, wrote, wrote]
    cases first with
    | none =>
      cases placed
      exact ⟨_, rfl, rfl⟩
    | some other =>
      rw [place, writeText, setText] at placed
      split at placed
      · cases placed
        rw [withText_withText]
        exact ⟨_, rfl, rfl⟩
      · cases placed

/-- Writing an attribute twice leaves the later value, or the only one. -/
theorem writeAttribute_writeAttribute {key : String} (isName : isNCName key = true)
    {first second : Option String} {e left : Element}
    (writable : ∀ text ∈ second, compatible text = true)
    (wrote : e.writeAttribute [] key first = .ok left) :
    ∃ again, left.writeAttribute [] key second = .ok again ∧
      e.writeAttribute [] key (second.or first) = .ok again := by
  cases second with
  | none =>
    have present : (left.attribute? (.bare key)).isSome = true := by
      rcases writeAttribute_eq_ok isName wrote with rfl | ⟨_, present, rfl⟩
      · rw [attribute?_withAttribute]
        rfl
      · exact present
    rw [Option.none_or, wrote]
    refine ⟨left, ?_, rfl⟩
    rw [writeAttribute_plain isName, present]
    rfl
  | some text =>
    have writes : ∀ e : Element, e.writeAttribute [] key (some text) =
        .ok (e.withAttribute key text) := by
      intro e
      rw [writeAttribute_plain isName]
      exact if_pos (writable text rfl)
    rw [Option.some_or, writes, writes]
    rcases writeAttribute_eq_ok isName wrote with rfl | ⟨_, _, rfl⟩
    · rw [withAttribute_withAttribute]
      exact ⟨_, rfl, rfl⟩
    · exact ⟨_, rfl, rfl⟩

/-- A text that a walk has written can stand in markup. -/
theorem compatible_of_place {steps : List Part} (tail : IsTail steps) {text : String}
    {e left : Element} {address : Address}
    (placed : e.place (some text) steps = (left, .ok address)) : compatible text = true := by
  induction tail generalizing e left address with
  | nil =>
    rw [place, writeText, setText] at placed
    split at placed
    · next writable => exact writable
    · cases placed
  | last isName =>
    obtain ⟨wrote, _⟩ := place_last_eq_ok.mp placed
    rw [writeAttribute_plain isName] at wrote
    by_cases writable : compatible text = true
    · exact writable
    · simp only [if_neg writable] at wrote
      cases wrote
  | step head tail ih =>
    obtain ⟨f, inner, inside, _, reached, _⟩ := (place_step_eq_ok head).mp placed
    exact ih reached

/-- The second of two walks along the same steps leads where the first did, creates nothing, and
leaves what one walk with the later text leaves. -/
theorem place_place {steps : List Part} (tail : IsTail steps) {first second : Option String}
    (writable : ∀ text ∈ second, compatible text = true) {e left : Element} {address : Address}
    (placed : e.place first steps = (left, .ok address))
    (same : ∀ x ∈ overwritten? steps, ∀ text ∈ first, x = text) :
    ∃ again, left.place second steps = (again, .ok address) ∧
      e.place (second.or first) steps = (again, .ok address) ∧
      again.elementCount = left.elementCount := by
  induction tail generalizing e left address with
  | nil =>
    obtain ⟨again, repeated, once⟩ := writeText_writeText writable placed
    refine ⟨again, repeated, once, ?_⟩
    rw [← (Prod.mk.inj repeated).1]
    exact elementCount_writeText second left
  | @last key isName =>
    obtain ⟨wrote, rfl⟩ := place_last_eq_ok.mp placed
    obtain ⟨again, repeated, once⟩ := writeAttribute_writeAttribute isName writable wrote
    have walked := place_last_eq_ok.mpr ⟨repeated, rfl⟩
    refine ⟨again, walked, place_last_eq_ok.mpr ⟨once, rfl⟩, ?_⟩
    have count := elementCount_place_last isName second left
    rw [walked] at count
    exact count
  | @step step rest head tail ih =>
    obtain ⟨f, inner, inside, designated, reached, rfl, rfl⟩ := (place_step_eq_ok head).mp placed
    have finds := finds_of_designated head.isChildStep designated
    have accepts := accepts_place head tail reached finds.target fun x member =>
      same x (mem_overwritten?_cons.mpr (Or.inl member))
    obtain ⟨again, repeated, once, count⟩ := ih reached fun x member =>
      same x (mem_overwritten?_cons.mpr (Or.inr member))
    have found := designated_of_finds (finds.retarget accepts)
    have around := (f.retarget inner).elementCount_retarget again
    refine ⟨(f.retarget again).whole, ?_, ?_, ?_⟩
    · exact (place_step_eq_ok head).mpr ⟨f.retarget inner, again, inside, found, repeated, rfl, rfl⟩
    · exact (place_step_eq_ok head).mpr ⟨f, again, inside, designated, once, rfl, rfl⟩
    · simp only [Focus.retarget] at around ⊢
      omega

end Xml.Element

namespace Document

/-- A graft that succeeded leads from the same root when it is repeated. -/
theorem graft_again {path : String} {steps : List Part} (parsed : parse path = .ok steps)
    {d left : Document} {first second : Option String} {address : Address}
    (grafted : d.graft path first = (left, .ok address))
    (writable : ∀ text ∈ second, compatible text = true)
    (same : ∀ x ∈ overwritten? steps, ∀ text ∈ first, x = text) :
    ∃ again, left.graft path second = (again, .ok address) ∧
      d.graft path (second.or first) = (again, .ok address) ∧
      again.elementCount = left.elementCount := by
  have wellFormed := wellFormed_of_parse parsed
  cases steps with
  | nil => exact wellFormed.elim
  | cons step rest =>
    obtain ⟨head, tail⟩ := wellFormed
    obtain ⟨root, written, reached, placed, rfl⟩ := (graft_eq_ok_iff parsed).mp grafted
    obtain ⟨_, onlyRoot, accepted, _⟩ := (reach_eq_ok_iff head).mp reached
    have accepts := Element.accepts_place head tail placed accepted fun x member =>
      same x (mem_overwritten?_cons.mpr (Or.inl member))
    obtain ⟨again, repeated, once, count⟩ := Element.place_place tail writable placed
      fun x member => same x (mem_overwritten?_cons.mpr (Or.inr member))
    have found : Document.reach step { d with root := some written } =
        ({ d with root := some written }, .ok written) :=
      (reach_eq_ok_iff head).mpr ⟨rfl, onlyRoot, accepts, Or.inl rfl⟩
    refine ⟨{ d with root := some again }, ?_, ?_, count⟩
    · exact (graft_eq_ok_iff parsed).mpr ⟨written, again, found, repeated, rfl⟩
    · exact (graft_eq_ok_iff parsed).mpr ⟨root, again, reached, once, rfl⟩

/-- The second of two grafts along the same path succeeds, leads to the same element, creates no
element, and leaves what one graft with the later text would have left. What the path itself asks
for must not be overwritten by its last step, if the first graft writes at all. -/
theorem graft_graft {path : String} {steps : List Part} (parsed : parse path = .ok steps)
    {d left : Document} {first second : Option String} {address : Address}
    (grafted : d.graft path first = (left, .ok address))
    (writable : ∀ text ∈ second, compatible text = true)
    (kept : first = none ∨ overwritten? steps = none) :
    ∃ again, left.graft path second = (again, .ok address) ∧
      d.graft path (second.or first) = (again, .ok address) ∧
      again.elementCount = left.elementCount := by
  refine graft_again parsed grafted writable ?_
  intro x member text written
  rcases kept with rfl | none
  · cases written
  · rw [none] at member
    cases member

/-- Two grafts below an element with a given attribute leave what the second alone would have. -/
theorem graft_graft_entry :
    ∃ left again,
      Document.empty.graft "/log/entry[@id='7']/note" (some "a") = (left, .ok [0, 0]) ∧
        left.graft "/log/entry[@id='7']/note" (some "b") = (again, .ok [0, 0]) ∧
        Document.empty.graft "/log/entry[@id='7']/note" (some "b") = (again, .ok [0, 0]) ∧
        again.elementCount = left.elementCount := by
  have parsed : parse "/log/entry[@id='7']/note" =
      .ok [.element "log", .filtered "entry" (.attributeIs "id" "7"),
        .element "note"] := rfl
  have grafted : Document.empty.graft "/log/entry[@id='7']/note" (some "a") =
      ((Document.empty.graft "/log/entry[@id='7']/note" (some "a")).1, .ok [0, 0]) :=
    Prod.ext rfl rfl
  have writable : ∀ text ∈ some "b", compatible text = true := by
    rintro _ ⟨⟩
    rfl
  obtain ⟨again, repeated, once, count⟩ := graft_graft parsed grafted writable (Or.inr rfl)
  exact ⟨_, again, grafted, repeated, once, count⟩

/-- The second of two grafts of one text along the same path creates an element exactly if the path
overwrites what it asks for with another value, and afterwards misses an element that can be made.
-/
theorem graft_twice_creates_iff {path : String} {steps : List Part}
    (parsed : parse path = .ok steps) {d left : Document} {text : String} {address : Address}
    (grafted : d.graft path (some text) = (left, .ok address)) :
    (left.graft path (some text)).1.elementCount ≠ left.elementCount ↔
      (∃ x ∈ overwritten? steps, x ≠ text) ∧
        ∃ step ∈ left.missing? steps, step.creatable = true := by
  have rooted : (∃ root, left.root = some root) ∧ compatible text = true := by
    have wellFormed := wellFormed_of_parse parsed
    cases steps with
    | nil => exact wellFormed.elim
    | cons step rest =>
      obtain ⟨root, written, _, placed, rfl⟩ := (graft_eq_ok_iff parsed).mp grafted
      exact ⟨⟨written, rfl⟩, Element.compatible_of_place wellFormed.2 placed⟩
  obtain ⟨⟨root, rooted⟩, writable⟩ := rooted
  have created := elementCount_graft_ne_iff parsed (some text) rooted
  constructor
  · intro more
    refine ⟨?_, created.mp more⟩
    -- a path that overwrites nothing, or with the value it asks for, leads to the same element
    apply Decidable.byContradiction
    intro harmless
    have same : ∀ x ∈ overwritten? steps, ∀ written ∈ some text, x = written := by
      rintro x member _ ⟨⟩
      apply Decidable.byContradiction
      exact fun other => harmless ⟨x, member, other⟩
    have writes : ∀ written ∈ some text, compatible written = true := by
      rintro _ ⟨⟩
      exact writable
    obtain ⟨again, repeated, _, count⟩ := graft_again parsed grafted writes same
    rw [repeated] at more
    exact more count
  · rintro ⟨_, missed⟩
    exact created.mpr missed

/-- A graft of `2` where the path asks for `1` creates a second element when it is repeated. -/
theorem graft_twice_creates_entry :
    ∃ left, Document.empty.graft "/log/entry[@id='1']/@id" (some "2") = (left, .ok [0]) ∧
      (left.graft "/log/entry[@id='1']/@id" (some "2")).1.elementCount ≠ left.elementCount := by
  have parsed : parse "/log/entry[@id='1']/@id" =
      .ok [.element "log", .filtered "entry" (.attributeIs "id" "1"), .attribute "id"] := rfl
  have grafted : Document.empty.graft "/log/entry[@id='1']/@id" (some "2") =
      ((Document.empty.graft "/log/entry[@id='1']/@id" (some "2")).1, .ok [0]) :=
    Prod.ext rfl rfl
  have overwrites : ∃ x ∈ overwritten? [.element "log", .filtered "entry" (.attributeIs "id" "1"),
      .attribute "id"], x ≠ "2" := ⟨"1", rfl, by decide⟩
  refine ⟨_, grafted, (graft_twice_creates_iff parsed grafted).mpr ⟨overwrites, ?_⟩⟩
  exact ⟨.filtered "entry" (.attributeIs "id" "1"), rfl, rfl⟩

/-- It is not so that grafting one text twice along the same path never creates an element. -/
theorem not_graft_twice_creates_nothing :
    ¬∀ (d left : Document) (path text : String) (steps : List Part) (address : Address),
      parse path = .ok steps → d.graft path (some text) = (left, .ok address) →
        (left.graft path (some text)).1.elementCount = left.elementCount := by
  intro law
  have same := law Document.empty (Document.empty.graft "/r/a[@x='1']/@x" (some "2")).1
    "/r/a[@x='1']/@x" "2" _ [0] rfl (Prod.ext rfl rfl)
  exact absurd same (by decide +kernel)

end Document

end XmlGraft
