import XmlGraft.Proofs.Document.Walk

/-!
# Outcomes — how grafting can end

Grafting along an expression that is no path ends with what the reader finds wrong with it, and
leaves the document alone. Along a path, it ends at an element of the document that it leaves, or
with a text that markup cannot hold, or because the document would get a second root. Nothing else
can happen (`graft_ends`): below the root a walk ends at an element or with a forbidden text
(`place_ends`), and only the first step meets the document itself.
-/

namespace XmlGraft

open Xml XmlGraft.Path

namespace Xml.Element

/-! ## Where a walk ends -/

/-- The elements below the target of a focus are found through its index. -/
theorem elementAt_whole (f : Focus) (address : Address) :
    (f.whole.nodeAt? (f.index :: address)).bind Node.element? =
      (f.target.nodeAt? address).bind Node.element? := by
  rw [nodeAt?, f.children_index]
  cases address with
  | nil => rfl
  | cons index rest => rfl

/-- Writing a text succeeds unless markup cannot hold it. -/
theorem writeText_ends (value : Option String) (e : Element) :
    (e.writeText value).2 = .ok () ∨ (e.writeText value).2 = .error .forbiddenText := by
  cases value with
  | none => exact .inl rfl
  | some text =>
    rw [writeText, setText]
    split
    · exact .inl rfl
    · exact .inr rfl

/-- Writing an attribute succeeds unless markup cannot hold its value. -/
theorem writeAttribute_ends {key : String} (isName : isNCName key = true) (value : Option String)
    (e : Element) :
    (∃ written, e.writeAttribute [] key value = .ok written) ∨
      e.writeAttribute [] key value = .error .forbiddenText := by
  rw [writeAttribute_plain isName]
  cases value with
  | none => exact .inl ⟨_, rfl⟩
  | some text =>
    by_cases writable : compatible text = true
    · exact .inl ⟨_, if_pos writable⟩
    · exact .inr (if_neg writable)

/-- A walk ends at an element, or with a text that markup cannot hold. -/
theorem place_ends {steps : List Part} (tail : IsTail steps) (value : Option String)
    (e : Element) :
    (∃ address written, (e.place value steps).2 = .ok address ∧
      ((e.place value steps).1.nodeAt? address).bind Node.element? = some written) ∨
      (e.place value steps).2 = .error .forbiddenText := by
  induction tail generalizing e with
  | nil =>
    rw [place]
    rcases writeText_ends value e with wrote | refused
    · rw [wrote]
      exact .inl ⟨[], _, rfl, rfl⟩
    · rw [refused]
      exact .inr rfl
  | last isName =>
    rw [place]
    rcases writeAttribute_ends isName value e with ⟨written, wrote⟩ | refused
    · rw [wrote]
      exact .inl ⟨[], written, rfl, rfl⟩
    · rw [refused]
      exact .inr rfl
  | step head _ ih =>
    rw [place_step head]
    split
    · exact .inr rfl
    · next f designated =>
      rcases ih f.target with ⟨address, written, reached, found⟩ | refused
      · rw [reached]
        refine .inl ⟨f.index :: address, written, rfl, ?_⟩
        exact (elementAt_whole (f.retarget _) address).trans found
      · rw [refused]
        exact .inr rfl

end Xml.Element

namespace Document

/-! ## The first step -/

/-- A second root is refused at a document that has a root which is not the one that the step
designates, and leaves it alone, or at an empty one where the step passes over some, and leaves it
with the first of these. -/
theorem resolution_secondRoot_iff {step : Part} (creatable : step.creatable = true)
    (d : Document) :
    (∃ added present, (d.resolution step).2 = .error (.secondRoot added present)) ↔
      (∃ root, d.root = some root ∧
        (root.name ≠ .bare step.childName ∨ 0 < step.passesOver ∨ step.asks root = false)) ∨
      d.root = none ∧ 0 < step.passesOver := by
  have refused : ∀ root, refusal step root = .secondRoot step.childName root.name.text := by
    intro root
    rw [refusal, if_pos creatable]
  cases rooted : d.root with
  | some root =>
    simp only [resolution_rooted rooted, refused, Option.some.injEq, exists_eq_left', reduceCtorEq,
      false_and, or_false]
    by_cases reached : step.accepts root = true ∧ step.passesOver = 0
    · rw [if_pos reached]
      have named := Part.name_of_accepts reached.1
      have asks := (Part.accepts_of_name named).symm.trans reached.1
      simp only [named, asks, reached.2, reduceCtorEq, exists_false, ne_eq, not_true_eq_false,
        Nat.lt_irrefl, or_self]
    · rw [if_neg reached]
      apply iff_of_true ⟨_, _, rfl⟩
      by_contra designates
      obtain ⟨named, first, asks⟩ : root.name = .bare step.childName ∧ step.passesOver = 0 ∧
          step.asks root = true := by
        simpa only [not_or, ne_eq, not_not, Nat.not_lt, Nat.le_zero, Bool.not_eq_false] using
          designates
      exact reached ⟨(Part.accepts_of_name named).trans asks, first⟩
  | none =>
    simp only [resolution, rooted, creatable, if_true, reduceCtorEq, false_and, exists_false,
      true_and, false_or, refused]
    by_cases first : step.passesOver = 0
    · simp only [first, if_true, reduceCtorEq, exists_false, Nat.lt_irrefl]
    · rw [if_neg first]
      exact iff_of_true ⟨_, _, rfl⟩ (Nat.pos_of_ne_zero first)

/-- What a refused second root leaves: the document, or a root with nothing in it if there was none.
-/
theorem resolution_left {step : Part} {d : Document} {added present : String}
    (refused : (d.resolution step).2 = .error (.secondRoot added present)) :
    (d.resolution step).1 =
      match d.root with
      | some _ => d
      | none => { d with root := some (.blank step.childName) } := by
  cases rooted : d.root with
  | some root =>
    rw [resolution_rooted rooted]
    split
    · rfl
    · rfl
  | none =>
    simp only [resolution, rooted] at refused ⊢
    by_cases creatable : step.creatable = true
    · rw [if_pos creatable] at refused ⊢
      have passed : step.passesOver ≠ 0 := by
        intro first
        rw [if_pos first] at refused
        cases refused
      have seed : step.seed = .blank step.childName := by
        unfold Part.passesOver at passed
        split at passed
        · rfl
        · exact absurd rfl passed
      rw [seed]
    · rw [if_neg creatable] at refused
      cases refused

/-- Resolving a step at a document ends at its root, with a text that markup cannot hold, or with a
second root. -/
theorem resolution_ends (step : Part) (d : Document) :
    (∃ root, (d.resolution step).2 = .ok root) ∨
      (d.resolution step).2 = .error .forbiddenText ∨
        ∃ added present, (d.resolution step).2 = .error (.secondRoot added present) := by
  have refused : ∀ root, refusal step root = .forbiddenText ∨
      ∃ added present, refusal step root = .secondRoot added present := by
    intro root
    unfold refusal
    split
    · exact .inr ⟨_, _, rfl⟩
    · exact .inl rfl
  unfold resolution
  split
  · split
    · exact .inl ⟨_, rfl⟩
    · next root _ _ => exact .inr ((refused root).imp (congrArg _) fun ⟨_, _, same⟩ =>
        ⟨_, _, congrArg _ same⟩)
  · split
    · split
      · exact .inl ⟨_, rfl⟩
      · exact .inr ((refused step.seed).imp (congrArg _) fun ⟨_, _, same⟩ =>
          ⟨_, _, congrArg _ same⟩)
    · exact .inr (.inl rfl)

/-! ## Grafting -/

section Path

variable {path : String} {step : Part} {rest : List Part}

/-- Where the first step is refused, so is the whole path, and nothing is done after it. -/
theorem graft_of_refused (parsed : parse path = .ok (step :: rest)) (value : Option String)
    {d : Document} {fault : Fault} (refused : (d.resolution step).2 = .error fault) :
    d.graft path value = ((d.resolution step).1, .error fault) := by
  obtain ⟨head, _⟩ := wellFormed_of_parse parsed
  rw [graft_eq parsed, reach_eq head]
  cases resolved : d.resolution step with
  | mk left outcome =>
    rw [resolved] at refused
    cases (show outcome = .error fault from refused)
    rfl

/-- Where the first step reaches the root, the path ends at an element or with a text that markup
cannot hold. -/
theorem graft_of_reached (parsed : parse path = .ok (step :: rest)) (value : Option String)
    {d : Document} {root : Element} (reached : (d.resolution step).2 = .ok root) :
    (∃ address written, (d.graft path value).2 = .ok address ∧
      (d.graft path value).1.elementAt? address = some written) ∨
      (d.graft path value).2 = .error .forbiddenText := by
  obtain ⟨head, tail⟩ := wellFormed_of_parse parsed
  rw [graft_eq parsed, reach_eq head]
  cases resolved : d.resolution step with
  | mk left outcome =>
    rw [resolved] at reached
    cases (show outcome = .ok root from reached)
    exact Element.place_ends tail value root

/-- A second root is refused by the first step of a path or not at all. -/
theorem graft_secondRoot_iff (parsed : parse path = .ok (step :: rest)) (value : Option String)
    {d : Document} {added present : String} :
    (d.graft path value).2 = .error (.secondRoot added present) ↔
      (d.resolution step).2 = .error (.secondRoot added present) := by
  constructor
  · intro refused
    cases resolved : (d.resolution step).2 with
    | error fault =>
      rw [graft_of_refused parsed value resolved] at refused
      cases refused
      rfl
    | ok root =>
      rcases graft_of_reached parsed value resolved with ⟨address, _, ended, _⟩ | ended
      · rw [ended] at refused
        cases refused
      · rw [ended] at refused
        cases refused
  · intro refused
    rw [graft_of_refused parsed value refused]

/-- Grafting along a path ends at an element of the document that it leaves, or with a text that
markup cannot hold, or with a second root. -/
theorem graft_ends (parsed : parse path = .ok (step :: rest)) (value : Option String)
    (d : Document) :
    (∃ address written, (d.graft path value).2 = .ok address ∧
      (d.graft path value).1.elementAt? address = some written) ∨
      (d.graft path value).2 = .error .forbiddenText ∨
        ∃ added present, (d.graft path value).2 = .error (.secondRoot added present) := by
  rcases resolution_ends step d with ⟨root, reached⟩ | refused | ⟨added, present, refused⟩
  · exact (graft_of_reached parsed value reached).imp_right .inl
  · rw [graft_of_refused parsed value refused]
    exact .inr (.inl rfl)
  · rw [graft_of_refused parsed value refused]
    exact .inr (.inr ⟨added, present, rfl⟩)

end Path

/-- How grafting ends. An expression that is no path is refused as one, or for a numeral that is too
long, and the document is left alone. A path leads to an element, or to a text that markup cannot
hold, or to a second root. If the first step can be made, it is a second root exactly where there is
a root that the step does not designate, by its name, its place or its predicate, and the document
is left alone; or where there is none and the step passes over some, and one of these is left. Only
the first step of a path ever asks for a second root. -/
theorem graft_outcomes (path : String) (value : Option String) (d : Document) :
    (∀ fault, parse path = .error fault →
      (fault = .invalidPath path ∨ ∃ digits, fault = .longNumeral digits) ∧
        d.graft path value = (d, .error fault)) ∧
    ∀ steps, parse path = .ok steps → ∃ step rest, steps = step :: rest ∧
      ((∃ address written, (d.graft path value).2 = .ok address ∧
        (d.graft path value).1.elementAt? address = some written) ∨
        (d.graft path value).2 = .error .forbiddenText ∨
          ∃ added present, (d.graft path value).2 = .error (.secondRoot added present)) ∧
      (step.creatable = true →
        ((∃ added present, (d.graft path value).2 = .error (.secondRoot added present)) ↔
          (∃ root, d.root = some root ∧
            (root.name ≠ .bare step.childName ∨ 0 < step.passesOver ∨ step.asks root = false)) ∨
          d.root = none ∧ 0 < step.passesOver)) ∧
      ∀ added present, (d.graft path value).2 = .error (.secondRoot added present) →
        (d.reach step).2 = .error (.secondRoot added present) ∧
          (d.graft path value).1 =
            match d.root with
            | some _ => d
            | none => { d with root := some (.blank step.childName) } := by
  constructor
  · intro fault refused
    refine ⟨?_, by rw [graft, refused]⟩
    rcases parse_cases path with ⟨_, found, _⟩ | ⟨digits, found, _⟩ | found
    all_goals
      rw [refused] at found
      cases found
    · exact .inr ⟨digits, rfl⟩
    · exact .inl rfl
  · intro steps parsed
    have path := wellFormed_of_parse parsed
    cases steps with
    | nil => exact path.elim
    | cons step rest =>
      refine ⟨step, rest, rfl, graft_ends parsed value d, ?_, ?_⟩
      · intro creatable
        rw [← resolution_secondRoot_iff creatable d]
        exact exists_congr fun _ => exists_congr fun _ => graft_secondRoot_iff parsed value
      · intro added present ended
        have refused := (graft_secondRoot_iff parsed value).mp ended
        rw [reach_eq path.1, graft_of_refused parsed value refused]
        exact ⟨refused, resolution_left refused⟩

/-- A position above one in an empty document leaves the first of the roots that it asks for. -/
theorem graft_outcomes_second :
    (∃ added present, (Document.empty.graft "/log[2]/entry" (some "x")).2 =
      .error (.secondRoot added present)) ∧
      (Document.empty.graft "/log[2]/entry" (some "x")).1 = ⟨some (.blank "log"), 0⟩ := by
  have parsed : parse "/log[2]/entry" =
      .ok [.filtered "log" (.position 2), .element "entry"] := rfl
  obtain ⟨step, rest, same, _, secondRoot, left⟩ :=
    (graft_outcomes "/log[2]/entry" (some "x") .empty).2 _ parsed
  cases same
  obtain ⟨added, present, ended⟩ := (secondRoot rfl).mpr (.inr ⟨rfl, by decide⟩)
  exact ⟨⟨added, present, ended⟩, (left added present ended).2⟩

end Document

end XmlGraft
