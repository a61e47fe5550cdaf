import XmlGraft.Proofs.Document.Footprint
import XmlGraft.Proofs.Document.Preservation

/-!
# Append-only — a write adds, and touches one place

Whatever a write along a path ends with, the nodes that were there stay where they are and are the
elements, comments and instructions that they were. At most one of the elements gains children, and
these are elements at the end. A path that ends in an attribute writes that attribute of the element
that it leads to, and one that ends in an element writes the text of that element. A text that is
refused takes the leading text of the element with it.

So a write has a small footprint (`Footprint.LeftBy`). One step of a walk extends the footprint of
the rest of it by one index, or lets the element grow, and then the rest happens among new nodes
(`place_framed`). A run of writes has the footprints of all of them (`Footprint.LeftByRun`).
-/

namespace XmlGraft

open Xml XmlGraft.Path

namespace Footprint

/-- What a write along some steps may touch, by its outcome and by the outcome that it has when no
value is given. -/
structure LeftBy (given : Prop) (steps : List Part) (silent outcome : Except Fault Address)
    (f : Footprint) : Prop where
  /-- At most one element gains children. -/
  grown : f.grown.length ≤ 1
  /-- The attribute that the steps end in is written, of the element that they lead to. -/
  attributes : ∀ mark ∈ f.attributes, outcome = .ok mark.1 ∧
    ∃ key, steps.getLast? = some (.attribute key) ∧ mark.2 = .bare key
  /-- The text of the element that the steps lead to is written, if they end in an element. -/
  texts : ∀ address ∈ f.texts, outcome = .ok address ∧ given ∧
    ∀ key, steps.getLast? ≠ some (.attribute key)
  /-- The leading text of that element is lost to a text that is refused. -/
  lost : ∀ address ∈ f.lost, outcome = .error .forbiddenText ∧ silent = .ok address ∧ given ∧
    ∀ key, steps.getLast? ≠ some (.attribute key)

section

variable {given : Prop} {steps rest : List Part} {silent outcome : Except Fault Address}

/-- Every write may touch nothing. -/
theorem LeftBy.empty : LeftBy given steps silent outcome {} :=
  ⟨Nat.zero_le 1, List.forall_mem_nil _, List.forall_mem_nil _, List.forall_mem_nil _⟩

/-- What is touched without a value may be touched with one. -/
theorem LeftBy.imp {given other : Prop} (implies : given → other) {steps : List Part}
    {silent outcome : Except Fault Address} {f : Footprint}
    (left : LeftBy given steps silent outcome f) : LeftBy other steps silent outcome f where
  grown := left.grown
  attributes := left.attributes
  texts := fun address listed => (left.texts address listed).imp_right (.imp_left implies)
  lost := fun address listed =>
    (left.lost address listed).imp_right (.imp_right (.imp_left implies))

/-- Every write may let one element grow. -/
theorem LeftBy.grow (address : Address) :
    LeftBy given steps silent outcome { grown := [address] } :=
  ⟨Nat.le_refl 1, List.forall_mem_nil _, List.forall_mem_nil _, List.forall_mem_nil _⟩

/-- With an element step in front, some steps end as they did. -/
theorem getLast?_step {step : Part} (head : step.IsElementStep) (rest : List Part) (key : String) :
    (step :: rest).getLast? = some (.attribute key) ↔ rest.getLast? = some (.attribute key) := by
  cases rest with
  | nil =>
    refine iff_of_false ?_ nofun
    intro same
    cases same
    exact head
  | cons next more => rw [List.getLast?_cons_cons]

/-- An element step in front changes nothing about the end of a path. -/
theorem LeftBy.step {step : Part} (head : step.IsElementStep) {f : Footprint}
    (left : LeftBy given rest silent outcome f) : LeftBy given (step :: rest) silent outcome f where
  grown := left.grown
  attributes := by
    intro mark listed
    obtain ⟨ended, key, last, name⟩ := left.attributes mark listed
    exact ⟨ended, key, (getLast?_step head rest key).mpr last, name⟩
  texts := by
    intro address listed
    obtain ⟨ended, given, last⟩ := left.texts address listed
    exact ⟨ended, given, fun key => mt (getLast?_step head rest key).mp (last key)⟩
  lost := by
    intro address listed
    obtain ⟨ended, reached, given, last⟩ := left.lost address listed
    exact ⟨ended, reached, given, fun key => mt (getLast?_step head rest key).mp (last key)⟩

/-- What a write touches at a child it touches there in the element too. -/
theorem LeftBy.below {f : Footprint} (left : LeftBy given steps silent outcome f) (index : Nat) :
    LeftBy given steps (silent.map (index :: ·)) (outcome.map (index :: ·)) (f.below index) where
  grown := by
    rw [Footprint.below, List.length_map]
    exact left.grown
  attributes := by
    intro mark listed
    obtain ⟨inner, inside, rfl⟩ := List.mem_map.mp listed
    obtain ⟨ended, last⟩ := left.attributes inner inside
    rw [ended]
    exact ⟨rfl, last⟩
  texts := by
    intro address listed
    obtain ⟨inner, inside, rfl⟩ := List.mem_map.mp listed
    obtain ⟨ended, last⟩ := left.texts inner inside
    rw [ended]
    exact ⟨rfl, last⟩
  lost := by
    intro address listed
    obtain ⟨inner, inside, rfl⟩ := List.mem_map.mp listed
    obtain ⟨ended, reached, last⟩ := left.lost inner inside
    rw [ended, reached]
    exact ⟨rfl, rfl, last⟩

end

end Footprint

namespace Xml.Element

/-! ## Walks -/

/-- Writing a text touches the text of the element, if a value is given. -/
theorem writeText_framed (value : Option String) (e : Element) :
    ∃ f, e.Framed f (e.writeText value).1 ∧
      f.LeftBy (value ≠ none) [] (e.place none []).2 (e.place value []).2 := by
  cases value with
  | none => exact ⟨{}, .refl {} e, .empty⟩
  | some text =>
    by_cases writable : compatible text = true
    · have wrote : e.writeText (some text) = (e.withText text, .ok ()) := if_pos writable
      simp only [place, wrote, ok_map]
      refine ⟨{ texts := [[]] }, framed_withText text e, Nat.zero_le 1, List.forall_mem_nil _, ?_,
        List.forall_mem_nil _⟩
      intro address listed
      cases List.mem_singleton.mp listed
      exact ⟨rfl, Option.some_ne_none text, fun _ => (Option.some_ne_none _).symm⟩
    · have refused : e.writeText (some text) =
          (⟨{ e.head with text := none }, e.children⟩, .error .forbiddenText) := if_neg writable
      simp only [place, refused, error_map]
      refine ⟨{ lost := [[]] }, framed_withHead ⟨rfl, rfl, rfl, rfl, ?_⟩, Nat.zero_le 1,
        List.forall_mem_nil _, List.forall_mem_nil _, ?_⟩
      · exact .inr (.inr ⟨List.mem_singleton_self _, rfl⟩)
      · intro address listed
        cases List.mem_singleton.mp listed
        exact ⟨rfl, rfl, Option.some_ne_none text, fun _ => (Option.some_ne_none _).symm⟩

/-- Setting an attribute touches that attribute. -/
theorem framed_withAttribute (key value : String) (e : Element) :
    e.Framed { attributes := [([], .bare key)] } (e.withAttribute key value) := by
  refine framed_withHead ⟨rfl, rfl, rfl, ?_, .inl rfl⟩
  have other : ∀ a : Attribute, a.name = .bare key →
      Footprint.spares { attributes := [([], .bare key)] } [] a = false := by
    intro a same
    simp only [Footprint.spares, same, List.mem_singleton, not_true_eq_false, decide_false]
  have put : ∀ attributes : List Attribute,
      (putAttribute ⟨.bare key, "", value⟩ attributes).filter
        (Footprint.spares { attributes := [([], .bare key)] } []) =
      attributes.filter (Footprint.spares { attributes := [([], .bare key)] } []) := by
    intro attributes
    induction attributes with
    | nil => exact List.filter_cons_of_neg (Bool.eq_false_iff.mp (other _ rfl))
    | cons a rest ih =>
      unfold putAttribute
      split
      · next same =>
        have before := Bool.eq_false_iff.mp (other a same)
        have after := Bool.eq_false_iff.mp (other { a with value := value } same)
        exact (List.filter_cons_of_neg after).trans (List.filter_cons_of_neg before).symm
      · rw [List.filter_cons, List.filter_cons, ih]
  exact put e.head.attributes

/-- A walk has the footprint of one write. -/
theorem place_framed {steps : List Part} (tail : IsTail steps) (value : Option String)
    (e : Element) :
    ∃ f, e.Framed f (e.place value steps).1 ∧
      f.LeftBy (value ≠ none) steps (e.place none steps).2 (e.place value steps).2 := by
  induction tail generalizing e with
  | nil => exact writeText_framed value e
  | @last key isName =>
    rw [place]
    split
    · next written wrote =>
      rcases writeAttribute_eq_ok isName wrote with rfl | ⟨_, _, rfl⟩
      · refine ⟨_, framed_withAttribute key _ e, Nat.zero_le 1, ?_, List.forall_mem_nil _,
          List.forall_mem_nil _⟩
        intro mark listed
        cases List.mem_singleton.mp listed
        exact ⟨rfl, key, rfl, rfl⟩
      · exact ⟨{}, .refl {} _, .empty⟩
    · exact ⟨{}, .refl {} e, .empty⟩
  | @step step rest head tail ih =>
    rw [place_step head, place_step head]
    cases designated : e.designated step with
    | none => exact ⟨{}, .refl {} e, .empty⟩
    | some f =>
      rcases designated_cases designated with picked | ⟨_, _, rfl⟩
      · obtain ⟨g, framed, left⟩ := ih f.target
        obtain ⟨rfl, _⟩ := pick_eq_some_iff.mp picked
        exact ⟨g.below f.index, framed_retarget framed, (left.below f.index).step head⟩
      · -- what the walk goes on in is new, and so is all that it touches there
        refine ⟨{ grown := [[]] }, ?_, .grow []⟩
        simp only [grown, Focus.retarget, Focus.whole, List.append_assoc]
        apply framed_append (List.append_ne_nil_of_right_ne_nil _ (List.cons_ne_nil _ []))
        intro node member
        rcases List.mem_append.mp member with member | member
        · rw [(List.mem_replicate.mp member).2]
          rfl
        · rw [List.mem_singleton.mp member]
          rfl

end Xml.Element

namespace Document

/-! ## Documents -/

/-- A change from one document to another leaves each node at its address, and keeps it but for what
a footprint lists. An empty document has no nodes, and may be given a root. -/
def Framed (f : Footprint) (d left : Document) : Prop :=
  ∀ root, d.root = some root → ∃ after, left.root = some after ∧ root.Framed f after

theorem Framed.refl (f : Footprint) (d : Document) : d.Framed f d :=
  fun root rooted => ⟨root, rooted, .refl f root⟩

/-- Two changes one after the other. -/
theorem Framed.trans {f g : Footprint} {d between left : Document} (first : d.Framed f between)
    (second : between.Framed g left) : d.Framed (f ++ g) left := by
  intro root rooted
  obtain ⟨middle, rootedMiddle, framed⟩ := first root rooted
  obtain ⟨after, rootedAfter, framedToo⟩ := second middle rootedMiddle
  exact ⟨after, rootedAfter, framed.trans framedToo⟩

/-- A walk down from a document has the footprint of one write. -/
theorem graftSteps_framed {steps : List Part} (path : WellFormed steps) (value : Option String)
    (d : Document) :
    ∃ f, d.Framed f (d.graftSteps value steps).1 ∧
      f.LeftBy (value ≠ none) steps (d.graftSteps none steps).2 (d.graftSteps value steps).2 := by
  cases steps with
  | nil => exact path.elim
  | cons step rest =>
    cases rooted : d.root with
    | none =>
      -- there is no node that could be touched
      refine ⟨{}, ?_, .empty⟩
      intro root present
      rw [rooted] at present
      cases present
    | some root =>
      rw [graftSteps_eq path, graftSteps_eq path, reach_eq path.1, resolution_rooted rooted]
      by_cases reached : step.accepts root = true ∧ step.passesOver = 0
      · rw [if_pos reached]
        obtain ⟨f, framed, left⟩ := Element.place_framed path.2 value root
        refine ⟨f, ?_, left.step path.1⟩
        intro present rootedPresent
        rw [rooted] at rootedPresent
        cases rootedPresent
        exact ⟨_, rfl, framed⟩
      · rw [if_neg reached]
        exact ⟨{}, .refl {} d, .empty⟩

/-! ## Writes of values -/

/-- Only a well-formed path has steps. -/
theorem wellFormed_of_stepsOf {path : Data.Value} {steps : List Part}
    (read : stepsOf path = .ok steps) : WellFormed steps := by
  cases path with
  | text path => exact wellFormed_of_parse read
  | _ =>
    obtain ⟨_, _, refused⟩ := bind_eq_ok.mp read
    cases refused

end Document

namespace Footprint

/-- A footprint that a write of a value may leave in a document. What is no path touches nothing. -/
def LeftByWrite (d : Document) (path value : Data.Value) (f : Footprint) : Prop :=
  f = {} ∨ ∃ steps, Document.stepsOf path = .ok steps ∧
    f.LeftBy (value ≠ .null) steps (d.assign path .null).2 (d.assign path value).2

/-- A footprint that a run of writes may leave, each in the document that those before it leave. -/
inductive LeftByRun : Document → List (Data.Value × Data.Value) → Footprint → Prop
  | none (d : Document) : LeftByRun d [] {}
  | write {d : Document} {path value : Data.Value} {writes : List (Data.Value × Data.Value)}
    {f g : Footprint} (first : f.LeftByWrite d path value)
    (others : LeftByRun (d.assign path value).1 writes g) :
    LeftByRun d ((path, value) :: writes) (f ++ g)

end Footprint

namespace Document

/-- The document that a run of writes leaves, whatever each of them ends with. -/
def assignAll : List (Data.Value × Data.Value) → Document → Document
  | [], d => d
  | (path, value) :: writes, d => assignAll writes (d.assign path value).1

/-- Without a value, a walk makes what is missing. -/
theorem assign_null {path : Data.Value} {steps : List Part} (read : stepsOf path = .ok steps)
    (d : Document) : d.assign path .null = d.graftSteps none steps := by
  unfold assign
  rw [read]

/-- A value is written as its text. -/
theorem assign_given {path value : Data.Value} {steps : List Part}
    (read : stepsOf path = .ok steps) (given : value ≠ .null) (d : Document) :
    d.assign path value =
      match value.spell with
      | .ok text => d.graftSteps (some text) steps
      | .error fault => (d, .error fault) := by
  unfold assign
  rw [read]
  split
  · next same => cases same
  · exact absurd rfl given
  · next same _ =>
    cases same
    rfl

/-- Every write leaves a footprint of one write. -/
theorem assign_framed (path value : Data.Value) (d : Document) :
    ∃ f : Footprint, f.LeftByWrite d path value ∧ d.Framed f (d.assign path value).1 := by
  cases read : stepsOf path with
  | error fault =>
    have refused : d.assign path value = (d, .error fault) := by
      unfold assign
      rw [read]
    rw [refused]
    exact ⟨{}, .inl rfl, .refl {} d⟩
  | ok steps =>
    have wellFormed := wellFormed_of_stepsOf read
    by_cases given : value = .null
    · subst given
      obtain ⟨f, framed, left⟩ := graftSteps_framed wellFormed none d
      refine ⟨f, .inr ⟨steps, read, ?_⟩, ?_⟩
      · rw [assign_null read]
        exact left.imp fun some => absurd rfl some
      · rw [assign_null read]
        exact framed
    · cases spelled : value.spell with
      | error fault =>
        have refused : d.assign path value = (d, .error fault) := by
          rw [assign_given read given, spelled]
        rw [refused]
        exact ⟨{}, .inl rfl, .refl {} d⟩
      | ok text =>
        have written : d.assign path value = d.graftSteps (some text) steps := by
          rw [assign_given read given, spelled]
        obtain ⟨f, framed, left⟩ := graftSteps_framed wellFormed (some text) d
        refine ⟨f, .inr ⟨steps, read, ?_⟩, ?_⟩
        · rw [assign_null read, written]
          exact left.imp fun _ => given
        · rw [written]
          exact framed

/-- A run of writes leaves the footprints of all of them. -/
theorem assignAll_framed (writes : List (Data.Value × Data.Value)) (d : Document) :
    ∃ f : Footprint, f.LeftByRun d writes ∧ d.Framed f (d.assignAll writes) := by
  induction writes generalizing d with
  | nil => exact ⟨{}, .none d, .refl {} d⟩
  | cons write rest ih =>
    obtain ⟨path, value⟩ := write
    obtain ⟨f, first, framed⟩ := assign_framed path value d
    obtain ⟨g, others, framedToo⟩ := ih (d.assign path value).1
    exact ⟨f ++ g, .write first others, framed.trans framedToo⟩

/-- Writes are append-only and touch one place each, whatever they end with: a single one, and all
of a run. -/
theorem assign_appendOnly :
    (∀ (d : Document) (path value : Data.Value), ∃ f : Footprint, f.LeftByWrite d path value ∧
      d.Framed f (d.assign path value).1) ∧
      ∀ (d : Document) (writes : List (Data.Value × Data.Value)), ∃ f : Footprint,
        f.LeftByRun d writes ∧ d.Framed f (d.assignAll writes) :=
  ⟨fun d path value => assign_framed path value d, fun d writes => assignAll_framed writes d⟩

/-- It is not so that a write never loses a text: one that is refused takes the leading text of the
element that the path leads to. -/
theorem not_assign_keeps_text :
    ¬∀ (d : Document) (path value : Data.Value), ∃ f : Footprint, f.LeftByWrite d path value ∧
      f.lost = [] ∧ d.Framed f (d.assign path value).1 := by
  intro law
  let d : Document := .ofRoot ⟨⟨.bare "a", "", [], [], some "t"⟩, []⟩
  obtain ⟨f, left, lost, framed⟩ := law d (.text "/a") (.text "x\x00y")
  have refused : (d.assign (.text "/a") (.text "x\x00y")).2 = .error .forbiddenText := rfl
  have noText : f.texts = [] := by
    rcases left with rfl | ⟨steps, _, left⟩
    · rfl
    · apply List.eq_nil_iff_forall_not_mem.mpr
      intro address listed
      have ended := (left.texts address listed).1
      rw [refused] at ended
      cases ended
  obtain ⟨after, rooted, framedRoot⟩ := framed _ rfl
  cases rooted
  obtain ⟨node, found, keeps⟩ := framedRoot [] _ rfl
  cases found
  cases keeps with
  | element keepsHead _ _ =>
    rcases keepsHead.text with same | listed | ⟨listed, _⟩
    · cases same
    · rw [noText] at listed
      cases listed
    · rw [lost] at listed
      cases listed

end Document

end XmlGraft
