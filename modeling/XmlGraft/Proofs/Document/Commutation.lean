import XmlGraft.Proofs.Document.Positional

/-!
# Commutation — writes at different positions may be swapped

Two writes that go to children of one name at different positions, below an element that both lead
to, may be made in either order (`Document.assign_comm`). Each of them fills the element up to its
position (`Element.filled`). Filling up depends on how many children of the name there are and not
on what has become of them, and what two positions need is filled up in either order
(`filled_filled`). In the element filled up for both, the two writes replace children at different
indexes (`Focus.retarget_within`).
-/

namespace XmlGraft

open Xml XmlGraft.Path

/-- What stands in a tail before other steps are element steps, and these are a tail. -/
theorem Path.isTail_of_append {front more : List Part} (tail : IsTail (front ++ more))
    (some : more ≠ []) : (∀ step ∈ front, step.IsElementStep) ∧ IsTail more := by
  induction front with
  | nil => exact ⟨List.forall_mem_nil _, tail⟩
  | cons step rest ih =>
    cases hrest : rest ++ more with
    | nil => exact absurd (List.append_eq_nil_iff.mp hrest).2 some
    | cons next others =>
      rw [List.cons_append, hrest] at tail
      cases tail with
      | step head tail =>
        obtain ⟨heads, moreTail⟩ := ih (hrest ▸ tail)
        exact ⟨List.forall_mem_cons.mpr ⟨head, heads⟩, moreTail⟩

/-! ## Two children of one element -/

namespace Focus

/-- The focus on the child at the same index of another element. -/
def within (e : Element) (f : Focus) : Focus :=
  ⟨e.head, e.children.take f.index, f.target, f.tail, e.children.drop (f.index + 1)⟩

variable {f g : Focus}

/-- The child at the index of a focus is picked out of another element, if it stands there. -/
theorem whole_within {e : Element} (found : e.children[f.index]? = some f.node) :
    (f.within e).whole = e ∧ (f.within e).index = f.index := by
  obtain ⟨inside, same⟩ := List.getElem?_eq_some_iff.mp found
  constructor
  · have node : (f.within e).node = e.children[f.index] := same.symm
    show (⟨e.head, e.children.take f.index ++ (f.within e).node :: e.children.drop (f.index + 1)⟩ :
      Element) = e
    rw [node, List.getElem_cons_drop, List.take_append_drop]
  · rw [index, within, List.length_take]
    exact Nat.min_eq_left (Nat.le_of_lt inside)

/-- The target is one of the children, and another in its place is set there. -/
theorem whole_retarget (f : Focus) (target : Element) :
    (f.retarget target).whole =
      ⟨f.head, f.whole.children.set f.index (.element target.head target.children f.tail)⟩ := by
  simp [whole, retarget, index]

/-- The child that is found is the only one that is found alike. -/
theorem Finds.unique {test : Element → Bool} {skip : Nat} (finds : f.Finds test skip)
    (others : g.Finds test skip) (whole : f.whole = g.whole) : f = g := by
  have picked := Element.pick_eq_some_iff.mpr ⟨whole, finds⟩
  rw [Element.pick_eq_some_iff.mpr ⟨rfl, others⟩] at picked
  exact (Option.some.inj picked).symm

/-- Another target of the same name leaves the names of the children as they are. -/
theorem names_retarget {target : Element} (renamed : target.name = f.target.name) :
    (f.retarget target).whole.children.map Node.name? = f.whole.children.map Node.name? := by
  rw [whole, whole, List.map_append, List.map_append, List.map_cons, List.map_cons]
  exact congrArg (fun name => _ ++ some name :: _) renamed

/-- What is found by its name is found after another child is replaced by one of the same name. -/
theorem Finds.within {test : Element → Bool} {name : Name}
    (byName : test = fun e => e.name == name) {skip : Nat} (finds : f.Finds test skip)
    (whole : f.whole = g.whole) (target : Element) (renamed : target.name = g.target.name) :
    (f.within (g.retarget target).whole).Finds test skip := by
  refine ⟨finds.target, ?_⟩
  have front : f.whole.children.take f.index = f.before := List.take_left
  have names : (f.within (g.retarget target).whole).before.map Node.name? =
      f.before.map Node.name? := by
    rw [← front, List.map_take, whole, ← names_retarget renamed, ← List.map_take]
    rfl
  rw [countP_names byName, names, ← countP_names byName]
  exact finds.before

section Apart

variable (whole : f.whole = g.whole) (apart : f.index ≠ g.index)

include whole apart

/-- A child stands at its index after another is replaced. -/
theorem within_retarget (target : Element) :
    (f.within (g.retarget target).whole).whole = (g.retarget target).whole ∧
      (f.within (g.retarget target).whole).index = f.index := by
  refine whole_within ?_
  rw [children_retarget apart, ← whole, f.children_index]

/-- Two children are replaced in either order. -/
theorem retarget_within (target other : Element) :
    ((f.within (g.retarget other).whole).retarget target).whole =
      ((g.within (f.retarget target).whole).retarget other).whole := by
  obtain ⟨first, firstIndex⟩ := within_retarget whole apart other
  obtain ⟨second, secondIndex⟩ := within_retarget whole.symm apart.symm target
  have head : f.head = g.head := congrArg Element.head whole
  rw [whole_retarget, whole_retarget (g.within _), first, second, firstIndex, secondIndex,
    whole_retarget g, whole_retarget f, whole]
  show (⟨g.head, (g.whole.children.set g.index _).set f.index _⟩ : Element) =
    ⟨f.head, (g.whole.children.set f.index _).set g.index _⟩
  rw [head, List.set_comm _ _ apart]
  rfl

end Apart

/-- Of two children of one name that are replaced one after the other by elements of that name, the
second can be found and replaced before the first, and the first then after it. -/
theorem Finds.exchange {test : Element → Bool} {name : Name}
    (byName : test = fun e => e.name == name) {skip skipOther : Nat} {x y : Element}
    (finds : f.Finds test skip) (findsOther : g.Finds test skipOther)
    (whole : g.whole = (f.retarget x).whole) (apart : f.index ≠ g.index)
    (renamed : x.name = f.target.name) (renamedOther : y.name = g.target.name) :
    ∃ h k : Focus, h.whole = f.whole ∧ h.index = g.index ∧ h.target = g.target ∧
      h.Finds test skipOther ∧ k.whole = (h.retarget y).whole ∧ k.index = f.index ∧
      k.target = f.target ∧ k.Finds test skip ∧ (k.retarget x).whole = (g.retarget y).whole := by
  -- the second child in the element before the first is replaced
  obtain ⟨wholeH, indexH⟩ := within_retarget whole apart.symm f.target
  have findsH := findsOther.within byName whole f.target renamed.symm
  generalize eqH : g.within ((f.retarget x).retarget f.target).whole = h at wholeH indexH findsH
  have targetH : h.target = g.target := eqH ▸ rfl
  have apartH : f.index ≠ h.index := indexH.symm ▸ apart
  -- and the first child after the second is replaced there
  obtain ⟨wholeK, indexK⟩ := within_retarget wholeH.symm apartH y
  have findsK := finds.within byName wholeH.symm y
    (renamedOther.trans (congrArg Element.name targetH.symm))
  refine ⟨h, _, wholeH, indexH, targetH, findsH, wholeK, indexK, rfl, findsK, ?_⟩
  obtain ⟨wholeG, _⟩ := within_retarget (f := h) wholeH apartH.symm x
  have findsG := findsH.within byName wholeH x renamed
  rw [retarget_within wholeH.symm apartH, findsG.unique findsOther (wholeG.trans whole.symm)]

end Focus

/-! ## Filling up -/

namespace Xml.Element

/-- An element with as many seeds of a step appended as are short for the step to find one. -/
def filled (step : Part) (e : Element) : Element :=
  let short := step.passesOver + 1 - e.children.countP (Node.passes step.accepts)
  ⟨e.head, e.children ++ List.replicate short step.seed.node⟩

/-- A step whose seed can be made designates a child of every element. -/
theorem exists_designated {step : Part} (creatable : step.creatable = true) (e : Element) :
    ∃ f, e.designated step = some f := by
  unfold designated
  split
  · exact ⟨_, rfl⟩
  · exact ⟨_, if_pos creatable⟩

/-- What a step designates is what it finds in the element filled up for it. -/
theorem designated_eq_some_iff {step : Part} (isStep : step.IsChildStep)
    (creatable : step.creatable = true) {e : Element} {f : Focus} :
    e.designated step = some f ↔
      f.whole = e.filled step ∧ f.Finds step.accepts step.passesOver := by
  have forward : ∀ {g : Focus}, e.designated step = some g →
      g.whole = e.filled step ∧ g.Finds step.accepts step.passesOver := by
    intro g designated
    refine ⟨?_, finds_of_designated isStep designated⟩
    rcases designated_cases designated with picked | ⟨none, _, rfl⟩
    · have enough : step.passesOver < e.children.countP (Node.passes step.accepts) := by
        by_contra few
        rw [pick_eq_none_iff.mpr (Nat.le_of_not_lt few)] at picked
        cases picked
      rw [filled, Nat.sub_eq_zero_of_le enough, (pick_eq_some_iff.mp picked).1]
      simp
    · have few := pick_eq_none_iff.mp none
      rw [filled, Nat.sub_add_comm few, List.replicate_succ', ← List.append_assoc]
      rfl
  refine ⟨forward, ?_⟩
  rintro ⟨whole, finds⟩
  obtain ⟨g, designated⟩ := exists_designated creatable e
  obtain ⟨sameWhole, others⟩ := forward designated
  rw [designated, finds.unique others (whole.trans sameWhole.symm)]

section Positions

variable {name : String} {i j : Int}

/-- What a step with a position makes can always be made. -/
theorem creatable_position (name : String) (i : Int) :
    (Part.filtered name (.position i)).creatable = true := rfl

/-- A step with a position finds children by their name. -/
theorem accepts_position (name : String) (i : Int) :
    (Part.filtered name (.position i)).accepts = fun e => e.name == .bare name :=
  Part.accepts_byName fun _ => rfl

/-- Children of one name are filled up for two positions in either order. -/
theorem filled_filled (e : Element) :
    (e.filled (.filtered name (.position i))).filled (.filtered name (.position j)) =
      (e.filled (.filtered name (.position j))).filled (.filtered name (.position i)) := by
  have seed : Node.passes (fun e => e.name == .bare name) (Element.blank name).node = true :=
    beq_self_eq_true (Name.bare name)
  have seeds : ∀ i, (Part.filtered name (.position i)).seed = .blank name := fun _ => rfl
  simp only [filled, accepts_position, seeds, List.countP_append, List.countP_replicate, seed,
    if_true, List.append_assoc, List.replicate_append_replicate]
  congr 3
  omega

end Positions

end Xml.Element

/-- The focus in the element filled up for a step. -/
def Focus.filled (step : Part) (f : Focus) : Focus :=
  let short := step.passesOver + 1 - f.whole.children.countP (Node.passes step.accepts)
  { f with after := f.after ++ List.replicate short step.seed.node }

namespace Focus

theorem whole_filled (step : Part) (f : Focus) : (f.filled step).whole = f.whole.filled step := by
  simp [filled, Element.filled, whole]

/-- A child that is found is found in the element filled up for another step. -/
theorem Finds.filled {test : Element → Bool} {skip : Nat} {f : Focus} (finds : f.Finds test skip)
    (step : Part) : (f.filled step).Finds test skip :=
  finds.append _

/-- An element is filled up alike whatever has become of one of its children, if that keeps its
name. -/
theorem filled_retarget {name : String} {i : Int} {f : Focus} {target : Element}
    (renamed : target.name = f.target.name) :
    (f.retarget target).whole.filled (.filtered name (.position i)) =
      ((f.filled (.filtered name (.position i))).retarget target).whole := by
  have byName := Element.accepts_position name i
  have count : (f.retarget target).whole.children.countP
      (Node.passes (Part.filtered name (.position i)).accepts) =
        f.whole.children.countP (Node.passes (Part.filtered name (.position i)).accepts) := by
    rw [countP_names byName, names_retarget renamed, ← countP_names byName]
  rw [Element.filled, count]
  simp [filled, whole, retarget]

end Focus

/-! ## Two walks -/

namespace Xml.Element

/-- A walk to a position goes on in the child that stands there once the element is filled up. -/
theorem place_position_eq_ok {name : String} {i : Int}
    (head : (Part.filtered name (.position i)).IsElementStep) {value : Option String}
    {rest : List Part} {e left : Element} {address : Address} :
    e.place value (.filtered name (.position i) :: rest) = (left, .ok address) ↔
      ∃ f : Focus, ∃ inner inside, f.whole = e.filled (.filtered name (.position i)) ∧
        f.Finds (Part.filtered name (.position i)).accepts (i.toNat - 1) ∧
        f.target.place value rest = (inner, .ok inside) ∧
        left = (f.retarget inner).whole ∧ address = f.index :: inside := by
  rw [place_step_eq_ok head]
  simp only [designated_eq_some_iff head.isChildStep (creatable_position name i), and_assoc]
  rfl

/-- Of two edits that succeed one after the other, the second may be made before the first: each
ends at the same address, and the same comes of both. -/
def Swaps (first second : Edit) : Prop :=
  ∀ ⦃e between left : Element⦄ ⦃a b : Address⦄, e.place first.2 first.1 = (between, .ok a) →
    between.place second.2 second.1 = (left, .ok b) →
      ∃ swapped, e.place second.2 second.1 = (swapped, .ok b) ∧
        swapped.place first.2 first.1 = (left, .ok a)

variable {front back : List Part} {value other : Option String}

/-- Edits of children of one name at different positions may be swapped. -/
theorem swaps_positions {name : String} {i j : Int} (differ : i ≠ j)
    (head : (Part.filtered name (.position i)).IsElementStep)
    (otherHead : (Part.filtered name (.position j)).IsElementStep)
    (tail : IsTail front) (otherTail : IsTail back) :
    Swaps (.filtered name (.position i) :: front, value)
      (.filtered name (.position j) :: back, other) := by
  intro e between left a b first second
  obtain ⟨f, x, inFirst, wholeF, findsF, placedF, rfl, rfl⟩ := (place_position_eq_ok head).mp first
  obtain ⟨g, y, inSecond, wholeG, findsG, placedG, rfl, rfl⟩ :=
    (place_position_eq_ok otherHead).mp second
  have renamedF := name_of_place tail placedF
  have renamedG := name_of_place otherTail placedG
  rw [Focus.filled_retarget renamedF] at wholeG
  have wholeM := (f.whole_filled (.filtered name (.position j))).trans (congrArg _ wholeF)
  have apart : f.index ≠ g.index := by
    have differs : i.toNat - 1 ≠ j.toNat - 1 := by
      have := head.2.1
      have := otherHead.2.1
      omega
    have accepts : (Part.filtered name (.position i)).accepts x = true :=
      Part.accepts_of_name (renamedF.trans (Part.name_of_accepts findsF.target))
    have byName : ∀ i e, (Part.filtered name (.position i)).asks e = true := fun _ _ => rfl
    have others := ((findsF.filled _).retarget accepts).index_ne (byName i) (byName j)
      (.inr differs) findsG wholeG.symm
    exact others
  have sameTest : (Part.filtered name (.position j)).accepts =
      (Part.filtered name (.position i)).accepts := by
    rw [accepts_position, accepts_position]
  rw [sameTest] at findsG
  obtain ⟨h, k, wholeH, indexH, targetH, findsH, wholeK, indexK, targetK, findsK, left⟩ :=
    (findsF.filled (.filtered name (.position j))).exchange (accepts_position name i) findsG wholeG
      apart renamedF renamedG
  -- the second child is there, or made, before the first is filled up
  have creatable := creatable_position name j
  obtain ⟨g', designated⟩ := exists_designated creatable e
  obtain ⟨wholeG', findsG'⟩ :=
    (designated_eq_some_iff otherHead.isChildStep creatable).mp designated
  rw [sameTest] at findsG'
  have meet : g'.filled (.filtered name (.position i)) = h := by
    refine (findsG'.filled _).unique findsH ?_
    rw [Focus.whole_filled, wholeG', filled_filled, ← wholeM, wholeH]
  have target : g'.target = g.target := (congrArg Focus.target meet).trans targetH
  have index : g'.index = g.index := (congrArg Focus.index meet).trans indexH
  refine ⟨(g'.retarget y).whole, ?_, ?_⟩
  · refine (place_position_eq_ok otherHead).mpr ⟨g', y, inSecond, wholeG', ?_, ?_, rfl, ?_⟩
    · rw [sameTest]; exact findsG'
    · rw [target]; exact placedG
    · rw [index]
  · refine (place_position_eq_ok head).mpr ⟨k, x, inFirst, ?_, findsK, ?_, left.symm, ?_⟩
    · have renamed := renamedG.trans (congrArg Element.name target.symm)
      rw [wholeK, ← meet, Focus.filled_retarget renamed]
    · rw [targetK]; exact placedF
    · rw [indexK]; rfl

/-- Edits that may be swapped may be swapped below a step that asks nothing of a child but its name.
-/
theorem Swaps.step {step : Part} (head : step.IsElementStep) (byName : ∀ e, step.asks e = true)
    (tail : IsTail front) (otherTail : IsTail back) (swaps : Swaps (front, value) (back, other)) :
    Swaps (step :: front, value) (step :: back, other) := by
  intro e between left a b first second
  obtain ⟨f, x, inFirst, designated, placedFirst, rfl, rfl⟩ := (place_step_eq_ok head).mp first
  have finds := finds_of_designated head.isChildStep designated
  obtain ⟨g, y, inSecond, found, placedSecond, rfl, rfl⟩ := (place_step_eq_ok head).mp second
  -- whatever is written below the child, the step finds it again
  have findsAgain : ∀ {steps : List Part} {text : Option String} {inner : Element}
      {inside : Address}, IsTail steps → f.target.place text steps = (inner, .ok inside) →
        (f.retarget inner).whole.designated step = some (f.retarget inner) :=
    fun tail placed =>
      designated_of_finds (finds.retarget (accepts_of_place byName tail placed finds.target))
  rw [findsAgain tail placedFirst] at found
  cases found
  obtain ⟨z, placedBack, placedFront⟩ := swaps placedFirst placedSecond
  have again := findsAgain otherTail placedBack
  refine ⟨(f.retarget z).whole, (place_step_eq_ok head).mpr ?_, (place_step_eq_ok head).mpr ?_⟩
  · exact ⟨f, z, inSecond, designated, placedBack, rfl, rfl⟩
  · exact ⟨_, y, inFirst, again, placedFront, rfl, rfl⟩

/-- Edits that may be swapped may be swapped below steps that ask nothing of a child but its name.
-/
theorem Swaps.below {shared : List Part} (heads : ∀ step ∈ shared, step.IsElementStep)
    (byName : ∀ step ∈ shared, ∀ e, step.asks e = true) (tail : IsTail front)
    (otherTail : IsTail back) (swaps : Swaps (front, value) (back, other)) :
    Swaps (shared ++ front, value) (shared ++ back, other) := by
  induction shared with
  | nil => exact swaps
  | cons step rest ih =>
    obtain ⟨head, heads⟩ := List.forall_mem_cons.mp heads
    obtain ⟨asksNothing, byName⟩ := List.forall_mem_cons.mp byName
    exact (ih heads byName).step head asksNothing (isTail_append heads tail)
      (isTail_append heads otherTail)

end Xml.Element

namespace Document

/-- A write that succeeds writes one text along its steps, in whatever document it is made. -/
theorem exists_text_of_assign {path value : Data.Value} {steps : List Part}
    (read : stepsOf path = .ok steps) {d left : Document} {address : Address}
    (wrote : d.assign path value = (left, .ok address)) :
    ∃ text, ∀ other : Document, other.assign path value = other.graftSteps text steps := by
  by_cases given : value = .null
  · subst given
    exact ⟨none, assign_null read⟩
  · cases spelled : value.spell with
    | error fault =>
      rw [assign_given read given, spelled] at wrote
      cases wrote
    | ok text => exact ⟨some text, fun other => by rw [assign_given read given, spelled]⟩

/-- Edits that may be swapped at an element may be swapped at a document. -/
theorem graftSteps_comm {step : Part} (byName : ∀ e, step.asks e = true) {front back : List Part}
    (path : WellFormed (step :: front)) (otherPath : WellFormed (step :: back))
    {value other : Option String} (swaps : Element.Swaps (front, value) (back, other))
    {d between left : Document} {a b : Address}
    (first : d.graftSteps value (step :: front) = (between, .ok a))
    (second : between.graftSteps other (step :: back) = (left, .ok b)) :
    ∃ swapped, d.graftSteps other (step :: back) = (swapped, .ok b) ∧
      swapped.graftSteps value (step :: front) = (left, .ok a) := by
  obtain ⟨root, x, reached, placedFirst, rfl⟩ := (graftSteps_eq_ok_iff path).mp first
  obtain ⟨again, y, found, placedSecond, rfl⟩ := (graftSteps_eq_ok_iff otherPath).mp second
  -- whatever is written below the root, the step reaches it again
  have reachAgain : ∀ {steps : List Part} {text : Option String} {inner : Element}
      {inside : Address}, IsTail steps → root.place text steps = (inner, .ok inside) →
        ({ d with root := some inner } : Document).reach step =
          ({ d with root := some inner }, .ok inner) := by
    intro steps text inner inside tail placed
    obtain ⟨-, first, accepts, -⟩ := (reach_eq_ok_iff path.1).mp reached
    have again := Element.accepts_of_place byName tail placed accepts
    exact (reach_eq_ok_iff path.1).mpr ⟨rfl, first, again, .inl rfl⟩
  rw [reachAgain path.2 placedFirst] at found
  cases found
  obtain ⟨z, placedBack, placedFront⟩ := swaps placedFirst placedSecond
  refine ⟨{ d with root := some z }, (graftSteps_eq_ok_iff otherPath).mpr ?_,
    (graftSteps_eq_ok_iff path).mpr ?_⟩
  · exact ⟨root, z, reached, placedBack, rfl⟩
  · exact ⟨z, y, reachAgain otherPath.2 placedBack, placedFront, rfl⟩

/-- Writes to children of one name at different positions, below a positional path that leads to
both, may be made in either order: if they succeed one after the other, they succeed the other way
round, with the same answers and the same document in the end. -/
theorem assign_comm {path otherPath value other : Data.Value} {shared front back : List Part}
    {name : String} {i j : Int}
    (read : stepsOf path = .ok (shared ++ .filtered name (.position i) :: front))
    (otherRead : stepsOf otherPath = .ok (shared ++ .filtered name (.position j) :: back))
    (some : shared ≠ []) (positional : ∀ step ∈ shared, step.isPositional = true) (differ : i ≠ j)
    {d between left : Document} {a b : Address}
    (first : d.assign path value = (between, .ok a))
    (second : between.assign otherPath other = (left, .ok b)) :
    ∃ swapped, d.assign otherPath other = (swapped, .ok b) ∧
      swapped.assign path value = (left, .ok a) := by
  obtain ⟨text, writes⟩ := exists_text_of_assign read first
  obtain ⟨otherText, otherWrites⟩ := exists_text_of_assign otherRead second
  simp only [writes, otherWrites] at first second ⊢
  cases shared with
  | nil => exact absurd rfl some
  | cons step rest =>
    have wellFormed := wellFormed_of_stepsOf read
    have otherWellFormed := wellFormed_of_stepsOf otherRead
    obtain ⟨isPositional, others⟩ := List.forall_mem_cons.mp positional
    obtain ⟨heads, tail⟩ := isTail_of_append wellFormed.2 (List.cons_ne_nil _ _)
    obtain ⟨-, otherTail⟩ := isTail_of_append otherWellFormed.2 (List.cons_ne_nil _ _)
    have swaps : Element.Swaps (.filtered name (.position i) :: front, text)
        (.filtered name (.position j) :: back, otherText) := by
      cases tail with
      | step head tail =>
        cases otherTail with
        | step otherHead otherTail =>
          exact Element.swaps_positions differ head otherHead tail otherTail
    exact graftSteps_comm (Part.asks_of_isPositional isPositional) wellFormed otherWellFormed
      (swaps.below heads (fun step member => Part.asks_of_isPositional (others step member)) tail
        otherTail) first second

/-- The third child of a name is made and written before the first, or after it. -/
theorem assign_comm_third :
    let third : Data.Value := .text "/r/c[3]/@k"
    let first : Data.Value := .text "/r/c[1]/d"
    let (between, answer) := empty.assign third (.text "v")
    let (left, otherAnswer) := between.assign first .null
    answer = .ok [2] ∧ otherAnswer = .ok [0, 0] ∧
      ∃ swapped, empty.assign first .null = (swapped, .ok [0, 0]) ∧
        swapped.assign third (.text "v") = (left, .ok [2]) := by
  intro third first
  have wrote : empty.assign third (.text "v") = ((empty.assign third (.text "v")).1, .ok [2]) := rfl
  have wroteOther : (empty.assign third (.text "v")).1.assign first .null =
      (((empty.assign third (.text "v")).1.assign first .null).1, .ok [0, 0]) := rfl
  have read : stepsOf third =
      .ok ([.element "r"] ++ .filtered "c" (.position 3) :: [.attribute "k"]) := rfl
  have otherRead : stepsOf first =
      .ok ([.element "r"] ++ .filtered "c" (.position 1) :: [.element "d"]) := rfl
  exact ⟨rfl, rfl,
    assign_comm read otherRead (by decide) (by decide) (by decide) wrote wroteOther⟩

end Document

end XmlGraft
