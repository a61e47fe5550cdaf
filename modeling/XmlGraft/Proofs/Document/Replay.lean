import XmlGraft.Proofs.Document.Buildable
import XmlGraft.Proofs.Document.Preservation

/-!
# Replay — what a value writes builds what it denotes

Built directly, an element gets its attributes and then its children, each complete when it is
appended. Built by its writes it begins blank, and each write finds or makes the child that it is
about and goes on inside. Both end with the same element (`ofValue_becomes`): at each write the
children before are complete, the child that is worked on is the last of its name, and those of
later entries are not there yet. So the writes of a value, grafted in order onto the empty document,
build the document that the value denotes (`graftAll_writes`).
-/

namespace XmlGraft

open Xml Data XmlGraft.Path

namespace Xml.Element

/-! ## Runs of edits -/

/-- Edits in order, each made to what the ones before left. -/
inductive Becomes : List Edit → Element → Element → Prop
  | refl (e : Element) : Becomes [] e e
  | edit {steps : List Part} {value : Option String} {edits : List Edit} {e next left : Element}
    {address : Address} (tail : IsTail steps) (placed : e.place value steps = (next, .ok address))
    (rest : Becomes edits next left) : Becomes ((steps, value) :: edits) e left

namespace Becomes

/-- Runs of edits follow one another. -/
theorem append {first second : List Edit} {e next left : Element} (here : Becomes first e next)
    (there : Becomes second next left) : Becomes (first ++ second) e left := by
  induction here with
  | refl e => exact there
  | edit tail placed _ ih => exact .edit tail placed (ih there)

/-- Edits of a child that a step finds by its name are edits of the parent. -/
theorem inChild_found {step : Part} (head : step.IsElementStep) (byName : ∀ e, step.asks e = true)
    {edits : List Edit} {e left : Element} (inside : Becomes edits e left) {f : Focus}
    (target : f.target = e) (finds : f.Finds step.accepts step.passesOver) :
    Becomes (atChild step edits) f.whole (f.retarget left).whole := by
  induction inside generalizing f with
  | refl e =>
    subst target
    exact .refl f.whole
  | @edit steps value _ e next left address tail placed _ ih =>
    subst target
    have accepts := accepts_of_place byName tail placed finds.target
    have again : (f.retarget next).target = next := rfl
    have others := ih again (finds.retarget accepts)
    have here : f.whole.place value (step :: steps) =
        ((f.retarget next).whole, .ok (f.index :: address)) :=
      (place_step_eq_ok head).mpr
        ⟨f, next, address, designated_of_finds finds, placed, rfl, rfl⟩
    exact .edit (.step head tail) here others

/-- Edits of the child that a step designates by its name are edits of the parent, if there are any:
the first one makes the child where it is missing. -/
theorem inChild {step : Part} (head : step.IsElementStep) (byName : ∀ e, step.asks e = true)
    {edits : List Edit} (some : edits ≠ []) {e left : Element} {f : Focus}
    (designated : e.designated step = .some f) (inside : Becomes edits f.target left) :
    Becomes (atChild step edits) e (f.retarget left).whole := by
  cases inside with
  | refl => exact absurd rfl some
  | @edit steps value _ _ next _ address tail placed rest =>
    have finds := finds_of_designated head.isChildStep designated
    have accepts := accepts_of_place byName tail placed finds.target
    have again : (f.retarget next).target = next := rfl
    have others := inChild_found head byName rest again (finds.retarget accepts)
    have here : e.place value (step :: steps) =
        ((f.retarget next).whole, .ok (f.index :: address)) :=
      (place_step_eq_ok head).mpr ⟨f, next, address, designated, placed, rfl, rfl⟩
    exact .edit (.step head tail) here others

end Becomes

/-! ## Children that are appended -/

/-- An element with more children after its own. -/
def withChildren (e : Element) (children : List Element) : Element :=
  ⟨e.head, e.children ++ children.map Element.node⟩

theorem withChildren_nil (e : Element) : e.withChildren [] = e := by
  rw [withChildren, List.map_nil, List.append_nil]

theorem withChildren_append (e : Element) (first second : List Element) :
    (e.withChildren first).withChildren second = e.withChildren (first ++ second) := by
  rw [withChildren, withChildren, withChildren, List.map_append, List.append_assoc]

/-- Children without namespaces are appended as they are. -/
theorem appendAll_plain {children : List Element} (plain : ∀ child ∈ children, child.Plain)
    (e : Element) : e.appendAll children = e.withChildren children := by
  induction children generalizing e with
  | nil => exact (withChildren_nil e).symm
  | cons child rest ih =>
    have settled : e.append child = e.withChildren [child] := by
      rw [append, settle_plain (plain child List.mem_cons_self)]
      rfl
    have others := ih (fun other member => plain other (List.mem_cons_of_mem child member))
      (e.append child)
    rw [appendAll, List.foldl_cons]
    rw [appendAll] at others
    rw [others, settled, withChildren_append]
    rfl

/-- Children without namespaces are nodes without namespaces, after such nodes. -/
theorem allPlain_append {nodes : List Node} (before : AllPlain nodes) {children : List Element}
    (plain : ∀ child ∈ children, child.Plain) :
    AllPlain (nodes ++ children.map Element.node) := by
  induction nodes with
  | nil =>
    induction children with
    | nil => trivial
    | cons child rest ih =>
      obtain ⟨here, others⟩ := List.forall_mem_cons.mp plain
      exact ⟨here, ih others⟩
  | cons node rest ih => exact ⟨before.1, ih before.2⟩

/-- Children without namespaces bring none. -/
theorem Plain.withChildren {e : Element} (isPlain : e.Plain) {children : List Element}
    (plain : ∀ child ∈ children, child.Plain) : (e.withChildren children).Plain :=
  ⟨isPlain.1, allPlain_append isPlain.2 plain⟩

/-- How many children have a plain name. -/
def childCount (key : String) (e : Element) : Nat :=
  e.children.countP (Node.passes fun child => child.name == .bare key)

/-- Appended children count if they have the name. -/
theorem childCount_withChildren {name : String} {children : List Element}
    (named : ∀ child ∈ children, child.name = .bare name) (key : String) (e : Element) :
    (e.withChildren children).childCount key =
      e.childCount key + if name = key then children.length else 0 := by
  rw [childCount, withChildren, List.countP_append, List.countP_map]
  refine congrArg (e.childCount key + ·) ?_
  by_cases same : name = key
  · subst same
    rw [if_pos rfl, List.countP_eq_length]
    intro child member
    exact beq_iff_eq.mpr (named child member)
  · rw [if_neg same, List.countP_eq_zero]
    intro child member counted
    have equal : child.name = .bare key := beq_iff_eq.mp counted
    rw [named child member] at equal
    exact same (congrArg Name.label equal)

/-- Children of one name leave no other name with children that had none. -/
theorem childCount_fresh {key : String} {names : List String} {e : Element}
    (fresh : ∀ name ∈ key :: names, e.childCount name = 0) (notAgain : key ∉ names)
    {children : List Element} (named : ∀ child ∈ children, child.name = .bare key) :
    ∀ name ∈ names, (e.withChildren children).childCount name = 0 := by
  intro name member
  have differs : key ≠ name := by
    rintro rfl
    exact notAgain member
  rw [childCount_withChildren named, if_neg differs, fresh name (List.mem_cons_of_mem key member)]

/-- A step that is about a name and passes over all children of that name makes another. -/
theorem designated_next {step : Part} (byName : ∀ e, step.asks e = true)
    (creatable : step.creatable = true) {e : Element}
    (all : e.childCount step.childName = step.passesOver) :
    e.designated step = some ⟨e.head, e.children, step.seed, none, []⟩ := by
  have test : step.accepts = fun child => child.name == .bare step.childName := by
    funext child
    rw [Part.accepts, byName, Bool.and_true]
  have count : e.children.countP (Node.passes step.accepts) = step.passesOver := by
    rw [test]
    exact all
  have picked : e.pick step.accepts step.passesOver = none :=
    pick_eq_none_iff.mpr (Nat.le_of_eq count)
  rw [designated, picked, grown, count, Nat.sub_self, if_pos creatable, List.replicate_zero,
    List.append_nil]

/-- The edits of one more child make it, after all others and before those that follow. -/
theorem Becomes.appendChild {step : Part} (head : step.IsElementStep)
    (byName : ∀ e, step.asks e = true) (creatable : step.creatable = true)
    (seed : step.seed = .blank step.childName) {edits : List Edit} (some : edits ≠ [])
    {child : Element} (inside : Becomes edits (.blank step.childName) child) {e : Element}
    (all : e.childCount step.childName = step.passesOver) {more : List Edit}
    {others : List Element}
    (rest : Becomes more (e.withChildren [child]) ((e.withChildren [child]).withChildren others)) :
    Becomes (atChild step edits ++ more) e (e.withChildren (child :: others)) := by
  have designated := designated_next byName creatable all
  rw [← seed] at inside
  have first : Becomes (atChild step edits) e (e.withChildren [child]) :=
    inside.inChild head byName some designated
  rw [withChildren_append] at rest
  exact first.append rest

/-! ## Values -/

/-- Attributes that are set are edits. -/
theorem setAttributes_becomes {attributes : List (String × Value)}
    (names : ∀ a ∈ attributes, isNCName a.1 = true) {e left : Element}
    (set : e.setAttributes attributes = .ok left) :
    Becomes (attributeEdits attributes) e left ∧ (e.Plain → left.Plain) ∧
      left.name = e.name ∧ left.children = e.children := by
  induction attributes generalizing e with
  | nil =>
    cases set
    exact ⟨.refl _, id, rfl, rfl⟩
  | cons entry rest ih =>
    obtain ⟨name, value⟩ := entry
    have isName := names (name, value) List.mem_cons_self
    obtain ⟨next, setFirst, setOthers⟩ := bind_eq_ok.mp set
    obtain ⟨becomes, plain, kept⟩ :=
      ih (fun a member => names a (List.mem_cons_of_mem _ member)) setOthers
    have here : e.place (some (attributeText value)) [.attribute name] = (next, .ok []) :=
      place_last_eq_ok.mpr ⟨setFirst, rfl⟩
    rw [setAttribute_plain isName] at setFirst
    split at setFirst
    · cases setFirst
      exact ⟨.edit (.last isName) here becomes, fun isPlain => plain (isPlain.withAttribute name _),
        kept⟩
    · cases setFirst

/-- A new text is one edit. -/
theorem ofText_becomes {tag text : String} (isName : isNCName tag = true) {e : Element}
    (built : ofText tag text = .ok e) :
    Becomes [([], someText text)] (.blank tag) e ∧ e.Plain ∧ e.name = .bare tag := by
  rw [ofText, new_plain isName, ok_bind, checkText] at built
  split at built
  · next writable =>
    cases built
    have placed : (blank tag).place (someText text) [] = ((blank tag).withText text, .ok []) := by
      by_cases empty : text = ""
      · subst empty
        rfl
      · rw [someText, if_neg empty, place, writeText, setText, if_pos writable]
        rfl
    obtain ⟨head, children⟩ := plain_blank tag
    refine ⟨.edit .nil placed (.refl _), ⟨⟨head.name, head.declarations, head.attributes⟩, ?_⟩, rfl⟩
    exact children
  · cases built

mutual

/-- What a value writes in a blank element makes the element that it denotes. -/
theorem ofValue_becomes (value : Value) (addressable : value.Addressable) {tag : String}
    (isName : isNCName tag = true) {e : Element} (built : ofValue tag value = .ok e) :
    Becomes (edits value) (.blank tag) e ∧ edits value ≠ [] ∧ e.Plain ∧ e.name = .bare tag := by
  cases value with
  | scalar text =>
    obtain ⟨becomes, plain, named⟩ := ofText_becomes isName built
    exact ⟨becomes, List.cons_ne_nil _ _, plain, named⟩
  | mapping entries =>
    obtain ⟨_, none, _⟩ | ⟨_, start, marked, children, same, made, set, builtChildren, rfl⟩ :=
      ofValue_cases built
    · cases none
    cases same
    rw [new_plain isName] at made
    cases made
    obtain ⟨attributes, plainMarked, named, noChildren⟩ :=
      setAttributes_becomes addressable.1.attributesOf set
    have fresh : ∀ key ∈ (Value.elementsOf entries).map (·.1), marked.childCount key = 0 := by
      intro key _
      rw [childCount, noChildren]
      rfl
    obtain ⟨others, plain⟩ :=
      ofEntries_becomes entries addressable.1 addressable.2 builtChildren fresh
    have whole := attributes.append others
    rw [appendAll_plain plain]
    refine ⟨?_, ?_, (plainMarked (plain_blank tag)).withChildren plain, named⟩
    · rw [edits]
      by_cases empty :
          (attributeEdits (Value.attributesOf entries) ++ entryEdits entries).isEmpty = true
      · -- nothing is written below, and the write that is made instead writes nothing
        simp only [if_pos empty]
        rw [List.isEmpty_iff.mp empty] at whole
        generalize marked.withChildren children = left at whole
        cases whole
        exact .edit .nil rfl (.refl _)
      · simp only [if_neg empty]
        exact whole
    · rw [edits]
      by_cases empty :
          (attributeEdits (Value.attributesOf entries) ++ entryEdits entries).isEmpty = true
      · simp only [if_pos empty]
        exact List.cons_ne_nil _ _
      · simp only [if_neg empty]
        exact fun none => empty (List.isEmpty_iff.mpr none)
  | _ =>
    obtain ⟨_, none, _⟩ | ⟨_, _, _, _, none, _⟩ := ofValue_cases built
    · cases none
    · cases none

/-- What entries write in an element that has none of their children appends these. -/
theorem ofEntries_becomes (entries : List (String × Value))
    (addressable : AddressableEntries entries)
    (once : ((Value.elementsOf entries).map (·.1)).Nodup) {children : List Element}
    (built : ofEntries entries = .ok children) {e : Element}
    (fresh : ∀ key ∈ (Value.elementsOf entries).map (·.1), e.childCount key = 0) :
    Becomes (entryEdits entries) e (e.withChildren children) ∧
      ∀ child ∈ children, child.Plain := by
  cases entries with
  | nil =>
    cases built
    rw [withChildren_nil]
    exact ⟨.refl e, fun _ member => absurd member List.not_mem_nil⟩
  | cons entry rest =>
    obtain ⟨key, value⟩ := entry
    obtain ⟨isName, addressableValue, addressableRest⟩ := addressable
    by_cases marked : marksAttribute key = true
    · rw [ofEntries_marked marked] at built
      rw [Value.elementsOf_marked marked] at once fresh
      rw [(entryEdits_marked value rest marked []).2]
      exact ofEntries_becomes rest addressableRest once built fresh
    · rw [entryName, if_neg marked] at isName
      rw [Value.elementsOf_unmarked marked, List.map_cons] at once fresh
      obtain ⟨notAgain, onceRest⟩ := List.nodup_cons.mp once
      have noneBefore : e.childCount key = 0 := fresh key List.mem_cons_self
      have one : ¬value.isSequence = true →
          Becomes (entryEdits ((key, value) :: rest)) e (e.withChildren children) ∧
            ∀ child ∈ children, child.Plain := by
        intro single
        obtain ⟨first, others, builtFirst, builtOthers, rfl⟩ :=
          (ofEntries_single marked single).mp built
        obtain ⟨inside, some, plainFirst, named⟩ :=
          ofValue_becomes value addressableValue isName builtFirst
        have head : (Part.element key).IsElementStep := isName
        have namedAll : ∀ child ∈ [first], child.name = .bare key :=
          List.forall_mem_singleton.mpr named
        obtain ⟨there, plainOthers⟩ := ofEntries_becomes rest addressableRest onceRest builtOthers
          (childCount_fresh fresh notAgain namedAll)
        rw [(entryEdits_single value rest marked single []).2]
        exact ⟨inside.appendChild head (fun _ => rfl) rfl rfl some noneBefore there,
          List.forall_mem_cons.mpr ⟨plainFirst, plainOthers⟩⟩
      cases value with
      | sequence items =>
        obtain ⟨first, others, builtFirst, builtOthers, rfl⟩ :=
          (ofEntries_sequence marked).mp built
        obtain ⟨addressableItems, written⟩ := addressableValue
        have position : e.childCount key + 1 = 1 := by rw [noneBefore]
        obtain ⟨here, plainFirst⟩ := ofItems_becomes items addressableItems isName builtFirst
          (Nat.le_refl 1) (Nat.add_comm _ _ ▸ written) position
        obtain ⟨there, plainOthers⟩ := ofEntries_becomes rest addressableRest onceRest builtOthers
          (childCount_fresh fresh notAgain fun child member => (plainFirst child member).2)
        rw [withChildren_append] at there
        rw [entryEdits, if_neg marked]
        refine ⟨here.append there, ?_⟩
        intro child member
        rcases List.mem_append.mp member with member | member
        · exact (plainFirst child member).1
        · exact plainOthers child member
      | _ => exact one Bool.false_ne_true

/-- What items write in an element that has those before them appends these. -/
theorem ofItems_becomes (items : List Value) (addressable : AddressableItems items) {key : String}
    (isName : isNCName key = true) {children : List Element}
    (built : ofItems key items = .ok children) {position : Nat} (positive : 1 ≤ position)
    (written : position + items.length ≤ Decimal.integerLimit) {e : Element}
    (before : e.childCount key + 1 = position) :
    Becomes (itemEdits key position items) e (e.withChildren children) ∧
      ∀ child ∈ children, child.Plain ∧ child.name = .bare key := by
  cases items with
  | nil =>
    cases built
    rw [withChildren_nil]
    exact ⟨.refl e, fun _ member => absurd member List.not_mem_nil⟩
  | cons item rest =>
    obtain ⟨first, others, builtFirst, builtOthers, rfl⟩ := ofItems_cons.mp built
    rw [List.length_cons, ← Nat.add_assoc, Nat.add_right_comm] at written
    have head := isElementStep_position isName positive
      (Nat.lt_of_succ_le (Nat.le_trans (Nat.le_add_right _ _) written))
    obtain ⟨inside, some, plainFirst, named⟩ := ofValue_becomes item addressable.1 isName builtFirst
    have all : e.childCount key = (Part.filtered key (.position position)).passesOver := by
      show e.childCount key = (position : Int).toNat - 1
      rw [Int.toNat_natCast, ← before]
      rfl
    have namedAll : ∀ child ∈ [first], child.name = .bare key :=
      List.forall_mem_singleton.mpr named
    have after : (e.withChildren [first]).childCount key + 1 = position + 1 := by
      rw [childCount_withChildren namedAll, if_pos rfl, List.length_singleton, before]
    obtain ⟨there, plainOthers⟩ := ofItems_becomes rest addressable.2 isName builtOthers
      (Nat.le_succ_of_le positive) written after
    rw [itemEdits]
    exact ⟨inside.appendChild head (fun _ => rfl) rfl rfl some all there,
      List.forall_mem_cons.mpr ⟨⟨plainFirst, named⟩, plainOthers⟩⟩

end

end Xml.Element

/-! ## Documents -/

namespace Document

/-- A write below the root makes its edit to the element that the root is or becomes. -/
theorem graft_edit {tag : String} {d : Document} {e next : Element}
    (reached : d.reach (.element tag) = ({ d with root := some e }, .ok e)) {steps : List Part}
    {value : Option String} {address : Address}
    (placed : e.place value steps = (next, .ok address)) {path : String}
    (parsed : parse path = .ok ([.element tag] ++ steps)) :
    d.graft path value = ({ d with root := some next }, .ok address) :=
  (graft_eq_ok_iff parsed).mpr ⟨e, next, reached, placed, rfl⟩

/-- Writes that spell some edits of the root make them. -/
theorem graftAll_becomes {tag : String} (isName : isNCName tag = true) {edits : List Edit}
    {e left : Element} (becomes : Element.Becomes edits e left) (named : e.name = .bare tag)
    {d : Document} (rooted : d.root = some e) {writes : List Write}
    (spells : Spells [.element tag] edits writes) :
    d.graftAll writes = ({ d with root := some left }, .ok ()) := by
  have head : (Part.element tag).IsElementStep := isName
  induction becomes generalizing d writes with
  | refl e =>
    obtain rfl := List.map_eq_nil_iff.mp spells
    rw [graftAll, ← rooted]
  | @edit steps value edits e next left address tail placed _ ih =>
    obtain ⟨⟨path, text⟩, others, rfl, first, rest⟩ := List.map_eq_cons_iff.mp spells
    obtain ⟨parsed, rfl⟩ := Prod.mk.inj first
    have accepts : (Part.element tag).accepts e = true := Part.accepts_of_name named
    have reached : d.reach (.element tag) = ({ d with root := some e }, .ok e) :=
      (reach_eq_ok_iff head).mpr ⟨rfl, rfl, accepts, Or.inl rooted⟩
    have renamed := Element.name_of_place tail placed
    rw [graftAll, graft_edit reached placed parsed]
    exact ih (renamed.trans named) rfl rest

/-- Writes that spell the edits of a blank root make it in an empty document. -/
theorem graftAll_empty {tag : String} (isName : isNCName tag = true) {edits : List Edit}
    {root : Element} (becomes : Element.Becomes edits (.blank tag) root) (some : edits ≠ [])
    {writes : List Write} (spells : Spells [.element tag] edits writes) :
    Document.empty.graftAll writes = (.ofRoot root, .ok ()) := by
  have head : (Part.element tag).IsElementStep := isName
  cases becomes with
  | refl => exact absurd rfl some
  | @edit steps value edits _ next _ address tail placed becomes =>
    obtain ⟨⟨path, text⟩, others, rfl, first, rest⟩ := List.map_eq_cons_iff.mp spells
    obtain ⟨parsed, rfl⟩ := Prod.mk.inj first
    have made : Document.empty.reach (.element tag) = (.ofRoot (.blank tag), .ok (.blank tag)) :=
      (reach_eq_ok_iff head).mpr
        ⟨rfl, rfl, Part.accepts_of_name rfl, Or.inr ⟨rfl, rfl, rfl⟩⟩
    have renamed := Element.name_of_place tail placed
    rw [graftAll, graft_edit made placed parsed]
    exact graftAll_becomes isName becomes renamed rfl rest

/-- The writes of a value, grafted in order onto the empty document, all succeed and leave the
document that the value denotes. Each part of the value must have a path of its own: the names of
elements and attributes are names without a colon, no mapping has an element key twice, and no
sequence is so long that a position in it has more digits than are ever written, which takes more
items than any memory holds. -/
theorem graftAll_writes {value wrapped : Value} (wraps : value.wrap = .ok wrapped)
    (addressable : wrapped.Addressable) {d : Document} (built : Document.ofValue value = .ok d) :
    ∃ writes, value.writes = .ok writes ∧ Document.empty.graftAll writes = (d, .ok ()) := by
  rw [ofValue, wraps, ok_bind] at built
  rw [Value.writes, wraps, ok_bind]
  obtain ⟨entry, found, rest⟩ := bind_eq_ok.mp built
  rw [found, ok_bind]
  cases entry with
  | none =>
    cases rest
    exact ⟨[], rfl, rfl⟩
  | some entry =>
    obtain ⟨tag, node⟩ := entry
    obtain ⟨root, builtRoot, same⟩ := bind_eq_ok.mp rest
    cases same
    obtain ⟨rfl, shape⟩ := documentEntry?_eq_ok found
    obtain ⟨⟨isName, addressableNode, _⟩, _⟩ := addressable
    rw [entryName, if_neg (shape (tag, node) rfl).1] at isName
    obtain ⟨becomes, some, _⟩ := Element.ofValue_becomes node addressableNode isName builtRoot
    have leads : LeadsToElement [.element tag] := by
      refine ⟨List.cons_ne_nil _ _, ?_⟩
      intro step member
      rw [List.mem_singleton.mp member]
      exact isName
    have spellable := addressableNode.spellable
    obtain ⟨isNode, _⟩ := (Element.ofValue_isOk_iff node spellable isName).mp ⟨root, builtRoot⟩
    obtain ⟨writes, wrote, spells⟩ := writesOf_spells node spellable isNode leads
    exact ⟨writes, wrote, graftAll_empty isName becomes some spells⟩

/-- An element with an attribute, a sequence and an empty mapping is built by its writes. -/
theorem graftAll_writes_log :
    ∃ d writes, Document.ofValue (.dict [(.text "log", .dict [(.text "@id", .text "7"),
        (.text "entry", .list [.text "a", .dict []]), (.text "note", .text "")])]) = .ok d ∧
      Value.writes (.dict [(.text "log", .dict [(.text "@id", .text "7"),
        (.text "entry", .list [.text "a", .dict []]), (.text "note", .text "")])]) = .ok writes ∧
      Document.empty.graftAll writes = (d, .ok ()) := by
  have few : 2 < Decimal.integerLimit := length_decimalDigits_le_iff.mp (by decide)
  have wraps : Value.wrap (.dict [(.text "log", .dict [(.text "@id", .text "7"),
      (.text "entry", .list [.text "a", .dict []]), (.text "note", .text "")])]) =
    .ok (.mapping [("log", .mapping [("@id", .scalar "7"),
      ("entry", .sequence [.scalar "a", .mapping []]), ("note", .scalar "")])]) := rfl
  have entries : AddressableEntries [("@id", .scalar "7"),
      ("entry", .sequence [.scalar "a", .mapping []]), ("note", .scalar "")] :=
    ⟨rfl, trivial, rfl, ⟨⟨trivial, ⟨trivial, List.nodup_nil⟩, trivial⟩, few⟩, rfl, trivial,
      trivial⟩
  have addressable : Value.Addressable (.mapping [("log", .mapping [("@id", .scalar "7"),
      ("entry", .sequence [.scalar "a", .mapping []]), ("note", .scalar "")])]) :=
    ⟨⟨rfl, ⟨entries, by decide⟩, trivial⟩, by decide⟩
  obtain ⟨writes, wrote, replayed⟩ := graftAll_writes wraps addressable rfl
  exact ⟨_, writes, rfl, wrote, replayed⟩

end Document

end XmlGraft
