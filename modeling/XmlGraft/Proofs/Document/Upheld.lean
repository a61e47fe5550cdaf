import XmlGraft.Proofs.Data.Mappings
import XmlGraft.Proofs.Document.Building
import XmlGraft.Proofs.Document.Names
import XmlGraft.Proofs.Document.ReadBack
import XmlGraft.Proofs.Document.Replay
import XmlGraft.Proofs.Xml.Law

/-!
# Upheld laws — what building and writing keep

A closed law that a document obeys it obeys after any run of writes, whatever each of them ends with
(`Document.Obeys.assignAll`). A path reaches only elements whose names have no namespace, so a law
need not admit new elements anywhere else.

A document that is built from data without namespaces obeys every closed law
(`Document.obeys_ofValue`).
-/

namespace XmlGraft

open Xml Data XmlGraft.Path

variable {law : Law}

/-- An element step is about a name without a colon. -/
theorem Path.Part.IsElementStep.childName {step : Part} (isStep : step.IsElementStep) :
    isNCName step.childName = true := by
  cases step with
  | element name => exact isStep
  | filtered name predicate => exact isStep.1
  | _ => exact isStep.elim

namespace Xml

/-! ## Walks -/

/-- A focus is on an element that obeys a law, and so is its target, in their surroundings. -/
theorem Focus.obeys_whole {f : Focus} {above : List Declaration} :
    f.whole.Obeys law above ↔
      (law.head above f.head ∧ law.text f.head.text ∧
        (∀ node ∈ f.before ++ f.after, node.Obeys law (f.head.declarations ++ above)) ∧
        law.text f.tail) ∧ f.target.Obeys law (f.head.declarations ++ above) := by
  constructor
  · rintro ⟨head, text, inside⟩
    have inside := allObey_iff.mp inside
    obtain ⟨target, tail⟩ := inside f.node
      (List.mem_append_right _ List.mem_cons_self)
    refine ⟨⟨head, text, ?_, tail⟩, target⟩
    intro node member
    rcases List.mem_append.mp member with member | member
    · exact inside node (List.mem_append_left _ member)
    · exact inside node (List.mem_append_right _ (List.mem_cons_of_mem _ member))
  · rintro ⟨⟨head, text, around, tail⟩, target⟩
    refine ⟨head, text, allObey_iff.mpr ?_⟩
    intro node member
    rcases List.mem_append.mp member with member | member
    · exact around node (List.mem_append_left _ member)
    · rcases List.mem_cons.mp member with rfl | member
      · exact ⟨target, tail⟩
      · exact around node (List.mem_append_right _ member)

section

variable (closed : law.Closed)

include closed

/-- The seed of a step obeys a law where an element of its name is admitted. -/
theorem obeys_seed {step : Part} (isStep : step.IsElementStep) (creatable : step.creatable = true)
    {above : List Declaration} (admitted : law.head above (Element.blank step.childName).head) :
    step.seed.Obeys law above := by
  have blank := Element.obeys_blank admitted
  cases step with
  | element name => exact blank
  | filtered name predicate =>
    cases predicate with
    | attributeIs key value =>
      exact blank.withAttribute closed isStep.2.1 creatable
    | childIs key value =>
      have inner := (Element.obeys_blank
        (closed.child admitted rfl isStep.1 isStep.2.1)).withText closed creatable
      have inside : ∀ node ∈ [((Element.blank key).withText value).node],
          node.Obeys law ((Element.blank name).head.declarations ++ above) :=
        List.forall_mem_singleton.mpr (Element.obeys_node.mpr inner)
      exact blank.append inside
    | _ => exact blank
  | _ => exact isStep.elim

/-- Writing a text keeps a law, also where it is refused. -/
theorem Element.Obeys.writeText {e : Element} {above : List Declaration}
    (obeys : e.Obeys law above) (value : Option String) :
    (e.writeText value).1.Obeys law above := by
  cases value with
  | none => exact obeys
  | some text =>
    rw [Element.writeText, setText]
    split
    · next writable => exact obeys.withText closed writable
    · exact obeys.withoutText closed

/-- Designating a child keeps a law, and the child obeys it too. -/
theorem Element.Obeys.designated {step : Part} (isStep : step.IsElementStep)
    {e : Element} {name : String} (named : e.name = .bare name) (isName : isNCName name = true)
    {above : List Declaration}
    (obeys : e.Obeys law above) {f : Focus} (found : e.designated step = some f) :
    f.whole.Obeys law above := by
  rcases designated_cases found with picked | ⟨_, creatable, rfl⟩
  · rw [(pick_eq_some_iff.mp picked).1]
    exact obeys
  · have seed := obeys_seed closed isStep creatable
      (closed.child obeys.1 named isName isStep.childName)
    simp only [grown, Focus.whole, List.append_assoc]
    refine obeys.append ?_
    intro node member
    rcases List.mem_append.mp member with member | member
    · rw [(List.mem_replicate.mp member).2]
      exact Element.obeys_node.mpr seed
    · rw [List.mem_singleton.mp member]
      exact ⟨seed, law.text_none⟩

/-- A walk keeps a law, whatever it ends with. -/
theorem Element.Obeys.place {steps : List Part} (tail : IsTail steps)
    (value : Option String) {e : Element} {name : String} (named : e.name = .bare name)
    (isName : isNCName name = true) {above : List Declaration} (obeys : e.Obeys law above) :
    (e.place value steps).1.Obeys law above := by
  induction tail generalizing e name above with
  | nil => exact obeys.writeText closed value
  | @last key isKey =>
    rw [Element.place, writeAttribute_plain isKey]
    cases value with
    | none =>
      by_cases present : (e.attribute? (.bare key)).isSome = true
      · simp only [if_pos present]
        exact obeys
      · simp only [if_neg present]
        exact obeys.withAttribute closed isKey rfl
    | some text =>
      by_cases writable : compatible text = true
      · simp only [if_pos writable]
        exact obeys.withAttribute closed isKey writable
      · simp only [if_neg writable]
        exact obeys
  | @step step rest head tail ih =>
    rw [place_step head]
    cases found : e.designated step with
    | none => exact obeys
    | some f =>
      have whole := obeys.designated closed head named isName found
      have accepted := Part.name_of_accepts (finds_of_designated head.isChildStep found).target
      obtain ⟨around, target⟩ := Focus.obeys_whole.mp whole
      exact Focus.obeys_whole.mpr ⟨around, ih accepted head.childName target⟩

end

end Xml

namespace Document

/-! ## Runs of writes -/

/-- The root of a document obeys a law, if there is one. -/
def Obeys (law : Law) (d : Document) : Prop := ∀ root ∈ d.root, root.Obeys law []

variable (closed : law.Closed)

include closed

/-- A walk down from a document keeps a law, whatever it ends with. -/
theorem Obeys.graftSteps {steps : List Part} (path : WellFormed steps)
    (value : Option String) {d : Document} (obeys : d.Obeys law) :
    (d.graftSteps value steps).1.Obeys law := by
  cases steps with
  | nil => exact path.elim
  | cons step rest =>
    obtain ⟨head, tail⟩ := path
    have walked : ∀ {root : Element}, root.name = .bare step.childName → root.Obeys law [] →
        (⟨some (root.place value rest).1, d.prefixesMade⟩ : Document).Obeys law := by
      rintro root named obeys _ ⟨⟩
      exact obeys.place closed tail value named head.childName
    rw [graftSteps_eq ⟨head, tail⟩, reach_eq head]
    cases rooted : d.root with
    | some root =>
      rw [resolution_rooted rooted]
      by_cases reached : step.accepts root = true ∧ step.passesOver = 0
      · rw [if_pos reached]
        exact walked (Part.name_of_accepts reached.1) (obeys root rooted)
      · rw [if_neg reached]
        exact obeys
    | none =>
      simp only [resolution, rooted]
      by_cases creatable : step.creatable = true
      · have seed := obeys_seed closed head creatable (closed.root head.childName)
        by_cases first : step.passesOver = 0
        · simp only [if_pos creatable, if_pos first]
          exact walked step.name_seed seed
        · simp only [if_pos creatable, if_neg first]
          rintro _ ⟨⟩
          exact seed
      · simp only [if_neg creatable]
        exact obeys

/-- A run of writes keeps a law, whatever each of them ends with. -/
theorem Obeys.assignAll (writes : List (Value × Value)) {d : Document} (obeys : d.Obeys law) :
    (d.assignAll writes).Obeys law := by
  induction writes generalizing d with
  | nil => exact obeys
  | cons write rest ih =>
    refine ih ?_
    rcases assign_cases write.1 write.2 d with same | ⟨steps, text, read, same⟩
    · rw [same]
      exact obeys
    · rw [same]
      exact obeys.graftSteps closed (wellFormed_of_stepsOf read) text

end Document

/-! ## Building -/

namespace Xml

/-- A name without a namespace is its label. -/
theorem Name.eq_bare {n : Name} (bare : n.uri = "") : n = .bare n.label := by
  cases n with
  | mk uri label =>
    cases bare
    rfl

namespace Element

/-- A new element whose name has no namespace is blank. -/
theorem new_bare {tag : String} {e : Element} (made : Element.new tag = .ok e)
    (bare : e.name.uri = "") : e = .blank e.name.label ∧ isNCName e.name.label = true := by
  obtain ⟨judged, _⟩ := new_eq_ok made
  obtain ⟨name, judgedToo, same⟩ := bind_eq_ok.mp made
  rw [judged] at judgedToo
  cases judgedToo
  refine ⟨(Except.ok.inj same).symm.trans ?_, isNCName_of_elementName judged⟩
  rw [Head.new, if_pos bare, blank, ← Name.eq_bare bare]

section

variable (closed : law.Closed)

include closed

/-- Setting attributes keeps a law, if none of them has a namespace. -/
theorem Obeys.setAttributes {attributes : List (String × Value)} {e left : Element}
    (set : e.setAttributes attributes = .ok left)
    (bare : ∀ name ∈ left.head.attributes.map (·.name), name.uri = "") (plain : e.Plain)
    (obeys : e.Obeys law []) : left.Obeys law [] ∧ left.Plain := by
  induction attributes generalizing e with
  | nil =>
    cases set
    exact ⟨obeys, plain⟩
  | cons entry rest ih =>
    obtain ⟨next, setFirst, setOthers⟩ := bind_eq_ok.mp set
    obtain ⟨given, judged, checked⟩ := bind_eq_ok.mp setFirst
    obtain ⟨_, writable, same⟩ := bind_eq_ok.mp checked
    cases same
    obtain ⟨nsPrefix, put, _⟩ := e.head.putAttribute_eq [] given (attributeText entry.2)
    have later := (names_setAttributes setOthers).2.2.1
    rw [put] at later
    have noNamespace : given.uri = "" :=
      bare given (later (names_putAttribute ⟨given, nsPrefix, _⟩ e.head.attributes).2)
    obtain ⟨read, isName⟩ := isNCName_of_attributeName judged
    have writable : compatible (attributeText entry.2) = true := by
      rw [checkText] at writable
      split at writable
      · next compatible => exact compatible
      · cases writable
    obtain ⟨uri, label⟩ := given
    subst noNamespace
    have set :
        (⟨e.head.putAttribute [] ⟨"", label⟩ (attributeText entry.2), e.children⟩ : Element) =
          e.withAttribute label (attributeText entry.2) := rfl
    rw [set] at setOthers
    exact ih setOthers (plain.withAttribute label _)
      (obeys.withAttribute closed isName writable)

omit closed

mutual

/-- An element that is built from data obeys a closed law, if none of its names has a namespace. -/
theorem obeys_ofValue (closed : law.Closed) (value : Value) {tag : String} {e : Element}
    (built : ofValue tag value = .ok e) (bare : ∀ name ∈ e.names, name.uri = "") :
    e.Obeys law [] ∧ e.Plain := by
  cases value with
  | scalar text =>
    obtain ⟨start, made, rest⟩ := bind_eq_ok.mp built
    obtain ⟨_, writable, same⟩ := bind_eq_ok.mp rest
    cases same
    obtain ⟨blank, isName⟩ := new_bare made (bare _ List.mem_cons_self)
    rw [checkText] at writable
    split at writable
    · next compatible =>
      rw [blank]
      refine ⟨(obeys_blank (closed.root isName)).withText closed compatible, ?_⟩
      obtain ⟨head, _⟩ := plain_blank start.name.label
      exact ⟨⟨head.name, head.declarations, head.attributes⟩, trivial⟩
    · cases writable
  | mapping entries =>
    obtain ⟨_, none, _⟩ | ⟨_, start, marked, children, same, made, set, builtChildren, rfl⟩ :=
      ofValue_cases built
    · cases none
    cases same
    have bareMarked : ∀ name ∈ marked.names, name.uri = "" := fun name member =>
      bare name (mem_names_appendAll.mpr (.inl member))
    have bareChildren : ∀ child ∈ children, ∀ name ∈ child.names, name.uri = "" :=
      fun child member name inChild =>
        bare name (mem_names_appendAll.mpr (.inr ⟨child, member, inChild⟩))
    have bareAttributes : ∀ name ∈ marked.head.attributes.map (·.name), name.uri = "" :=
      fun name member => bareMarked name (List.mem_append_left _ (List.mem_cons_of_mem _ member))
    have named := bareMarked marked.name List.mem_cons_self
    rw [(names_setAttributes set).1] at named
    obtain ⟨blank, isName⟩ := new_bare made named
    rw [blank] at set
    obtain ⟨obeys, plain⟩ := (obeys_blank (closed.root isName)).setAttributes closed
      set bareAttributes (plain_blank _)
    have inside := obeys_ofEntries closed entries builtChildren bareChildren
    have plainChildren : ∀ child ∈ children, child.Plain := fun child member =>
      (inside child member).2
    rw [appendAll_plain plainChildren]
    refine ⟨obeys.append ?_, plain.withChildren plainChildren⟩
    intro node member
    obtain ⟨child, inChildren, rfl⟩ := List.mem_map.mp member
    rw [plain.1.declarations]
    exact obeys_node.mpr (inside child inChildren).1
  | _ =>
    obtain ⟨_, none, _⟩ | ⟨_, _, _, _, none, _⟩ := ofValue_cases built
    · cases none
    · cases none

/-- So do the elements that entries denote. -/
theorem obeys_ofEntries (closed : law.Closed) (entries : List (String × Value))
    {children : List Element}
    (built : ofEntries entries = .ok children)
    (bare : ∀ child ∈ children, ∀ name ∈ child.names, name.uri = "") :
    ∀ child ∈ children, child.Obeys law [] ∧ child.Plain := by
  cases entries with
  | nil =>
    cases built
    exact fun _ member => absurd member List.not_mem_nil
  | cons entry rest =>
    obtain ⟨key, value⟩ := entry
    by_cases marked : marksAttribute key = true
    · rw [ofEntries_marked marked] at built
      exact obeys_ofEntries closed rest built bare
    · have one : ¬value.isSequence = true →
          ∀ child ∈ children, child.Obeys law [] ∧ child.Plain := by
        intro single
        obtain ⟨first, others, builtFirst, builtOthers, rfl⟩ :=
          (ofEntries_single marked single).mp built
        obtain ⟨bareFirst, bareOthers⟩ := List.forall_mem_cons.mp bare
        exact List.forall_mem_cons.mpr ⟨obeys_ofValue closed value builtFirst bareFirst,
          obeys_ofEntries closed rest builtOthers bareOthers⟩
      cases value with
      | sequence items =>
        obtain ⟨first, others, builtFirst, builtOthers, rfl⟩ :=
          (ofEntries_sequence marked).mp built
        obtain ⟨bareFirst, bareOthers⟩ := List.forall_mem_append.mp bare
        exact List.forall_mem_append.mpr ⟨obeys_ofItems closed items builtFirst bareFirst,
          obeys_ofEntries closed rest builtOthers bareOthers⟩
      | _ => exact one Bool.false_ne_true

/-- So do the elements that items denote. -/
theorem obeys_ofItems (closed : law.Closed) (items : List Value)
    {tag : String} {children : List Element} (built : ofItems tag items = .ok children)
    (bare : ∀ child ∈ children, ∀ name ∈ child.names, name.uri = "") :
    ∀ child ∈ children, child.Obeys law [] ∧ child.Plain := by
  cases items with
  | nil =>
    cases built
    exact fun _ member => absurd member List.not_mem_nil
  | cons item rest =>
    obtain ⟨first, others, builtFirst, builtOthers, rfl⟩ := ofItems_cons.mp built
    obtain ⟨bareFirst, bareOthers⟩ := List.forall_mem_cons.mp bare
    exact List.forall_mem_cons.mpr ⟨obeys_ofValue closed item builtFirst bareFirst,
      obeys_ofItems closed rest builtOthers bareOthers⟩

end

end

end Element

end Xml

namespace Document

/-- A document that is built from data obeys a closed law, if none of the names in it has a
namespace. -/
theorem obeys_ofValue (closed : law.Closed) {value : Value} {d : Document}
    (built : ofValue value = .ok d) (bare : ∀ name ∈ d.names, name.uri = "") : d.Obeys law := by
  obtain ⟨wrapped, wraps, _⟩ := bind_eq_ok.mp built
  rw [ofValue, wraps, ok_bind] at built
  obtain ⟨entry, found, rest⟩ := bind_eq_ok.mp built
  obtain ⟨rfl, _⟩ := documentEntry?_eq_ok found
  cases entry with
  | none =>
    cases rest
    rintro _ ⟨⟩
  | some entry =>
    obtain ⟨root, builtRoot, same⟩ := bind_eq_ok.mp rest
    cases same
    rintro _ ⟨⟩
    exact (Element.obeys_ofValue closed entry.2 builtRoot bare).1

end Document

end XmlGraft
