import XmlGraft.Proofs.Data.Showing
import XmlGraft.Proofs.Document.AppendOnly
import XmlGraft.Proofs.Document.Count
import XmlGraft.Proofs.Document.Edits
import XmlGraft.Proofs.Document.Retrieval

/-!
# Refusals — what a refused text leaves behind

A write meets a text that markup cannot hold either in the literal of a step for which an element
would have to be made, or at its end, where its own text or value is to be set. What it has made by
then stays, and this is what another write makes: the one that gives no value, along the steps
before the refused one, or along all steps for elements if only the end is refused
(`place_refused`, `assign_forbiddenText`).

There is one difference. The text of an element is cleared before the new one is judged, so a
refused text takes the leading text of the element with it.
-/

namespace XmlGraft

open Xml XmlGraft.Path

/-! ## Steps for elements -/

namespace Path

/-- The steps for elements of a tail. -/
theorem IsTail.elementSteps {steps : List Part} (tail : IsTail steps) :
    ∀ step ∈ elementSteps steps, step.IsElementStep := by
  intro step member
  obtain ⟨inSteps, other⟩ := List.mem_filter.mp member
  exact (tail.isStep step inSteps).elementStep (by simpa using other)

end Path

/-! ## Clearing a text -/

/-- A node without its leading text. -/
def Xml.Node.withoutText : Node → Node
  | .element head children tail => .element { head with text := none } children tail
  | node => node

/-- Changes a node to one without its leading text, whatever its surroundings. -/
def Xml.Node.clearText : Scope → Node → Node × Unit := fun _ node => (node.withoutText, ())

/-- What changes the target of a focus changes the element, below the index of the target. -/
theorem Focus.changeAt?_whole {α : Type _} {change : Scope → Node → Node × α} {result : α}
    {f : Focus} {inner : Element} {address : Address} {above : Scope} {tail : Option String}
    (changed : f.node.changeAt? change address (f.head.frame :: above) =
      some ((f.retarget inner).node, result)) :
    (Node.element f.head f.whole.children tail).changeAt? change (f.index :: address) above =
      some (.element f.head (f.retarget inner).whole.children tail, result) := by
  rw [Node.changeAt?, f.children_index]
  simp only [changed, Option.map_some]
  refine congrArg (fun nodes => some (Node.element f.head nodes tail, result)) ?_
  show (f.before ++ f.node :: f.after).set f.before.length _ = f.before ++ _ :: f.after
  rw [List.set_append_right _ _ (Nat.le_refl _), Nat.sub_self, List.set_cons_zero]
  rfl

/-- A step whose seed cannot be made passes over nothing. -/
theorem Path.Part.passesOver_of_uncreatable {step : Part} (no : step.creatable = false) :
    step.passesOver = 0 := by
  unfold Part.passesOver
  split
  · cases no
  · rfl

namespace Xml.Element

/-! ## Walks -/

/-- Where a step designates nothing, no child element is one that it accepts, and none can be made.
-/
theorem refuses_of_designated {step : Part} {e : Element} (none : e.designated step = none) :
    step.creatable = false ∧ ∀ child ∈ e.childElements, step.accepts child = false := by
  unfold designated at none
  split at none
  · cases none
  · next unpicked =>
    split at none
    · cases none
    · next uncreatable =>
      have no := Bool.eq_false_iff.mpr uncreatable
      refine ⟨no, fun child member => ?_⟩
      obtain ⟨node, inChildren, isElement⟩ := List.mem_filterMap.mp member
      rw [pick_eq_none_iff, Part.passesOver_of_uncreatable no, Nat.le_zero,
        List.countP_eq_zero] at unpicked
      have fails := unpicked node inChildren
      rw [Node.passes, isElement] at fails
      exact Bool.eq_false_iff.mpr fails

/-- A walk that is refused has made what a walk without a value makes: up to a step for which no
child is there and none can be made, or up to its end, where its text cannot be held. A refused text
clears the text of the element, a refused attribute changes nothing. -/
theorem place_refused {steps : List Part} (tail : IsTail steps) {value : Option String}
    {e left : Element} {fault : Fault} (refused : e.place value steps = (left, .error fault)) :
    (∃ front step rest address found, steps = front ++ step :: rest ∧
      (∀ s ∈ front, s.IsElementStep) ∧ step.IsElementStep ∧
      e.place none front = (left, .ok address) ∧
      (left.nodeAt? address).bind Node.element? = some found ∧ found.designated step = none) ∨
    ∃ text made address, value = some text ∧ compatible text = false ∧
      e.place none (elementSteps steps) = (made, .ok address) ∧
      ((∃ key, steps.getLast? = some (.attribute key)) ∧ left = made ∨
        (∀ key, steps.getLast? ≠ some (.attribute key)) ∧ ∀ (above : Scope) (after : Option String),
          (Node.element made.head made.children after).changeAt? Node.clearText address above =
            some (.element left.head left.children after, ())) := by
  induction tail generalizing e left with
  | nil =>
    cases value with
    | none => cases refused
    | some text =>
      rw [place, writeText, setText] at refused
      by_cases fits : compatible text = true
      · rw [if_pos fits] at refused
        cases refused
      · rw [if_neg fits] at refused
        cases refused
        exact .inr ⟨text, e, [], rfl, Bool.eq_false_iff.mpr fits, rfl,
          .inr ⟨fun key => (Option.some_ne_none _).symm, fun above after => rfl⟩⟩
  | @last key isName =>
    rw [place, writeAttribute_plain isName] at refused
    cases value with
    | none => cases refused
    | some text =>
      by_cases fits : compatible text = true
      · simp only [if_pos fits] at refused
        cases refused
      · simp only [if_neg fits] at refused
        cases refused
        exact .inr ⟨text, e, [], rfl, Bool.eq_false_iff.mpr fits, rfl, .inl ⟨⟨key, rfl⟩, rfl⟩⟩
  | @step step rest head tail ih =>
    rw [place_step head] at refused
    cases designated : e.designated step with
    | none =>
      rw [designated] at refused
      cases refused
      exact .inl ⟨[], step, rest, [], e, rfl, List.forall_mem_nil _, head, rfl, rfl, designated⟩
    | some f =>
      rw [designated] at refused
      obtain ⟨rfl, outcome⟩ := Prod.mk.inj refused
      -- a walk without a value takes the same step, and goes on as the one inside the child
      have onward : ∀ {more : List Part} {inner : Element} {address : Address},
          f.target.place none more = (inner, .ok address) →
          e.place none (step :: more) = ((f.retarget inner).whole, .ok (f.index :: address)) :=
        fun placed => (place_step_eq_ok head).mpr ⟨f, _, _, designated, placed, rfl, rfl⟩
      have inside : f.target.place value rest = ((f.target.place value rest).1, .error fault) := by
        refine Prod.ext rfl ?_
        cases ended : (f.target.place value rest).2 with
        | ok address =>
          rw [ended] at outcome
          cases outcome
        | error other =>
          rw [ended] at outcome
          exact outcome
      obtain ⟨front, next, more, address, found, rfl, isStep, nextHead, placed, there, stops⟩ |
        ⟨text, made, address, given, unfit, placed, lost⟩ := ih inside
      · refine .inl ⟨step :: front, next, more, f.index :: address, found, rfl,
          List.forall_mem_cons.mpr ⟨head, isStep⟩, nextHead, onward placed, ?_, stops⟩
        exact (elementAt_whole (f.retarget _) address).trans there
      · refine .inr ⟨text, (f.retarget made).whole, f.index :: address, given, unfit, ?_, ?_⟩
        · rw [elementSteps_step head]
          exact onward placed
        · rcases lost with ⟨⟨key, last⟩, same⟩ | ⟨noAttribute, cleared⟩
          · refine .inl ⟨⟨key, (Footprint.getLast?_step head rest key).mpr last⟩, ?_⟩
            rw [same]
          · refine .inr ⟨fun key => ?_, fun above after => ?_⟩
            · exact mt (Footprint.getLast?_step head rest key).mp (noAttribute key)
            · exact Focus.changeAt?_whole (f := f.retarget made) (cleared _ f.tail)

end Xml.Element

namespace Document

/-! ## Documents -/

/-- A walk along some steps stops after them, having made what the write of no value along them
makes: nothing where there are none. What it would go on with is one of the candidates: the root, or
a child element of the element that it has come to. -/
inductive StopsAfter : List Part → List Element → Document → Document → Prop
  | none (d : Document) : StopsAfter [] d.root.toList d d
  | some {front : List Part} {path : String} {address : Address} {e : Element} {d left : Document}
    (nonempty : front ≠ []) (printed : print front = .ok path) (parsed : parse path = .ok front)
    (made : d.graft path none = (left, .ok address)) (found : left.elementAt? address = .some e) :
    StopsAfter front e.childElements d left

/-- Of what was there nothing has changed, except that elements gained children. -/
def OnlyGrows (d left : Document) : Prop :=
  ∃ f : Footprint, d.Framed f left ∧ f.attributes = [] ∧ f.texts = [] ∧ f.lost = []

/-- The write of no value along steps for elements changes nothing that was there, but for an
element that gains children. -/
theorem onlyGrows_graftSteps {steps : List Part} (leads : LeadsToElement steps) (d : Document) :
    d.OnlyGrows (d.graftSteps none steps).1 := by
  have path : WellFormed steps := List.append_nil steps ▸ leads.wellFormed .nil
  obtain ⟨f, framed, left⟩ := graftSteps_framed path none d
  refine ⟨f, framed, ?_, ?_, ?_⟩
  · refine List.eq_nil_iff_forall_not_mem.mpr fun mark listed => ?_
    obtain ⟨_, key, last, _⟩ := left.attributes mark listed
    exact leads.2 _ (List.mem_of_getLast? last)
  · exact List.eq_nil_iff_forall_not_mem.mpr fun address listed =>
      (left.texts address listed).2.1 rfl
  · exact List.eq_nil_iff_forall_not_mem.mpr fun address listed =>
      (left.lost address listed).2.2.1 rfl

/-- A step that is refused at a document for its literal leaves the document alone, and does not
mean its root. -/
theorem resolution_forbidden {step : Part} {d left : Document}
    (refused : d.resolution step = (left, .error .forbiddenText)) :
    left = d ∧ step.creatable = false ∧ ∀ root ∈ d.root.toList, step.accepts root = false := by
  have uncreatable : ∀ {root}, refusal step root = .forbiddenText → step.creatable = false := by
    intro root same
    unfold refusal at same
    split at same
    · cases same
    · next no => exact Bool.eq_false_iff.mpr no
  cases rooted : d.root with
  | none =>
    refine (?_ : _ ∧ _).imp_right fun no => ⟨no, List.forall_mem_nil _⟩
    simp only [resolution, rooted] at refused
    split at refused
    · obtain ⟨-, same⟩ := Prod.mk.inj refused
      split at same
      · cases same
      · next creatable _ =>
        rw [uncreatable (Except.error.inj same)] at creatable
        cases creatable
    · next no => exact ⟨(Prod.mk.inj refused).1.symm, Bool.eq_false_iff.mpr no⟩
  | some root =>
    rw [resolution_rooted rooted] at refused
    split at refused
    · cases refused
    · next unreached =>
      obtain ⟨rfl, same⟩ := Prod.mk.inj refused
      have no := uncreatable (Except.error.inj same)
      refine ⟨rfl, no, List.forall_mem_singleton.mpr (Bool.eq_false_iff.mpr fun accepts => ?_)⟩
      exact unreached ⟨accepts, Part.passesOver_of_uncreatable no⟩

section

variable {steps : List Part} {value : Option String} {d left : Document}

/-- A walk down from a document that meets a text which markup cannot hold has made what a walk
without a value makes: along the steps before one whose literal is refused, or along all steps for
elements if the value is. A value that is refused as text clears the text of the element. -/
theorem graftSteps_refused (path : WellFormed steps)
    (refused : d.graftSteps value steps = (left, .error .forbiddenText)) :
    (∃ front step rest candidates, steps = front ++ step :: rest ∧ step.creatable = false ∧
      StopsAfter front candidates d left ∧ (∀ e ∈ candidates, step.accepts e = false) ∧
      d.OnlyGrows left) ∨
    ∃ text path made address, value = some text ∧ compatible text = false ∧
      print (elementSteps steps) = .ok path ∧ parse path = .ok (elementSteps steps) ∧
      d.graft path none = (made, .ok address) ∧ d.OnlyGrows made ∧
      ((∃ key, steps.getLast? = some (.attribute key)) ∧ left = made ∨
        (∀ key, steps.getLast? ≠ some (.attribute key)) ∧
          made.changeAt? Node.clearText address = some (left, ())) := by
  cases steps with
  | nil => exact path.elim
  | cons step rest =>
    obtain ⟨head, tail⟩ := path
    rw [graftSteps_eq ⟨head, tail⟩] at refused
    split at refused
    · next refusedAtRoot =>
      cases refused
      rw [reach_eq head] at refusedAtRoot
      obtain ⟨rfl, no, others⟩ := resolution_forbidden refusedAtRoot
      exact .inl ⟨[], step, rest, _, rfl, no, .none left, others, {}, .refl {} left, rfl, rfl, rfl⟩
    · next reachedLeft root reached =>
      obtain ⟨rfl, outcome⟩ := Prod.mk.inj refused
      obtain ⟨rfl, -⟩ := (reach_eq_ok_iff head).mp reached
      have inside : root.place value rest = ((root.place value rest).1, .error .forbiddenText) :=
        Prod.ext rfl outcome
      -- a walk without a value reaches the same root, and goes on as the one below it
      have onward : ∀ {more : List Part} {inner : Element} {address : Address},
          (∀ s ∈ more, s.IsElementStep) → root.place none more = (inner, .ok address) →
          ∃ path, print (step :: more) = .ok path ∧ parse path = .ok (step :: more) ∧
            d.graft path none = ({ d with root := some inner }, .ok address) ∧
            d.OnlyGrows { d with root := some inner } := by
        intro more inner address isStep placed
        have leads : LeadsToElement (step :: more) :=
          ⟨List.cons_ne_nil _ _, List.forall_mem_cons.mpr ⟨head, isStep⟩⟩
        have whole : WellFormed (step :: more) :=
          List.append_nil (step :: more) ▸ leads.wellFormed .nil
        obtain ⟨path, printed, parsed⟩ := parse_print whole
        have grafted : d.graftSteps none (step :: more) =
            ({ d with root := some inner }, .ok address) :=
          (graftSteps_eq_ok_iff whole).mpr ⟨root, inner, reached, placed, rfl⟩
        have grows := onlyGrows_graftSteps leads d
        rw [grafted] at grows
        refine ⟨path, printed, parsed, ?_, grows⟩
        rw [graft, parsed]
        exact grafted
      obtain ⟨front, next, more, address, found, rfl, isStep, nextHead, placed, there, stops⟩ |
        ⟨text, made, address, given, unfit, placed, lost⟩ := Element.place_refused tail inside
      · obtain ⟨path, printed, parsed, grafted, grows⟩ := onward isStep placed
        obtain ⟨no, others⟩ := Element.refuses_of_designated stops
        exact .inl ⟨step :: front, next, more, _, rfl, no,
          .some (List.cons_ne_nil _ _) printed parsed grafted there, others, grows⟩
      · rw [elementSteps_step head]
        obtain ⟨path, printed, parsed, grafted, grows⟩ := onward tail.elementSteps placed
        refine .inr ⟨text, path, _, address, given, unfit, printed, parsed, grafted, grows, ?_⟩
        rcases lost with ⟨⟨key, last⟩, same⟩ | ⟨noAttribute, cleared⟩
        · refine .inl ⟨⟨key, (Footprint.getLast?_step head rest key).mpr last⟩, ?_⟩
          rw [same]
        · refine .inr ⟨fun key => ?_, ?_⟩
          · exact mt (Footprint.getLast?_step head rest key).mp (noAttribute key)
          have changed : made.node.changeAt? Node.clearText address [] =
              some ((root.place value rest).1.node, ()) := cleared [] none
          simp only [changeAt?, Option.bind_eq_bind, Option.bind_some, changed]
          rfl

end

/-- A write along a path that is refused for a text which markup cannot hold leaves exactly what a
write of no value leaves. If the literal of a step is such a text, and neither the root nor a child
is what the step asks for, that write goes along the steps before it, and there is none if it is the
first. If the value is, it goes along all steps for elements; a refused attribute then changes
nothing, and a refused text clears the leading text of the element that the write leads to, and
changes nothing else. Of what was there before, the write of no value changes neither attributes nor
texts. -/
theorem assign_forbiddenText {path : String} {steps : List Part} (parsed : parse path = .ok steps)
    {value : Data.Value} {d left : Document}
    (refused : d.assign (.text path) value = (left, .error .forbiddenText)) :
    (∃ front step rest candidates, steps = front ++ step :: rest ∧ step.creatable = false ∧
      StopsAfter front candidates d left ∧ (∀ e ∈ candidates, step.accepts e = false) ∧
      d.OnlyGrows left) ∨
    ∃ text front made address, value.spell = .ok text ∧ compatible text = false ∧
      print (elementSteps steps) = .ok front ∧ parse front = .ok (elementSteps steps) ∧
      d.graft front none = (made, .ok address) ∧ d.OnlyGrows made ∧
      ((∃ key, steps.getLast? = some (.attribute key)) ∧ left = made ∨
        (∀ key, steps.getLast? ≠ some (.attribute key)) ∧
          made.changeAt? Node.clearText address = some (left, ())) := by
  have read : stepsOf (.text path) = .ok steps := parsed
  have wellFormed := wellFormed_of_parse parsed
  by_cases given : value = .null
  · subst given
    rw [assign_null read] at refused
    refine (graftSteps_refused wellFormed refused).imp_right ?_
    rintro ⟨text, _, _, _, none, _⟩
    cases none
  · rw [assign_given read given] at refused
    cases spelled : value.spell with
    | error fault =>
      rw [spelled] at refused
      obtain ⟨-, same⟩ := Prod.mk.inj refused
      rw [Data.Value.fault_of_spell spelled] at same
      cases same
    | ok text =>
      rw [spelled] at refused
      refine (graftSteps_refused wellFormed refused).imp_right ?_
      rintro ⟨_, front, made, address, ⟨⟩, others⟩
      exact ⟨text, front, made, address, rfl, others⟩

/-- Two elements are made before a step whose literal is refused, and stay. -/
theorem assign_forbiddenText_literal :
    let d := ofRoot ⟨⟨.bare "a", "", [], [], some "t"⟩, [(Element.blank "b").node]⟩
    ∃ left, d.assign (.text "/a/c[2]/e[@k='\x01']/f") (.text "v") = (left, .error .forbiddenText) ∧
      left.elementCount = 4 ∧ d.OnlyGrows left := by
  intro d
  have parsed : parse "/a/c[2]/e[@k='\x01']/f" = .ok [.element "a",
      .filtered "c" (.position 2), .filtered "e" (.attributeIs "k" "\x01"), .element "f"] := rfl
  have refused : d.assign (.text "/a/c[2]/e[@k='\x01']/f") (.text "v") =
      ((d.assign (.text "/a/c[2]/e[@k='\x01']/f") (.text "v")).1, .error .forbiddenText) :=
    Prod.ext rfl rfl
  refine ⟨_, refused, by decide +kernel, ?_⟩
  obtain ⟨_, _, _, _, _, _, _, _, grows⟩ | ⟨text, _, _, _, spelled, unfit, _⟩ :=
    assign_forbiddenText parsed refused
  · exact grows
  · cases spelled
    cases unfit

/-- It is not so that a refused text changes nothing: the element loses its leading text. -/
theorem not_assign_forbiddenText_silent :
    ¬∀ (path : String) (steps : List Part), parse path = .ok steps →
      elementSteps steps = steps → ∀ (value : Data.Value) (d left made : Document)
      (address : Address), d.assign (.text path) value = (left, .error .forbiddenText) →
        d.graft path none = (made, .ok address) → left = made := by
  intro law
  let d : Document := .ofRoot ⟨⟨.bare "a", "", [], [], some "t"⟩, [(Element.blank "b").node]⟩
  have same := law "/a" [.element "a"] rfl rfl (.text "x\x00y") d _ d [] rfl rfl
  have texts := congrArg (fun d : Document => d.root.bind fun e => e.head.text) same
  cases texts

end Document

end XmlGraft
