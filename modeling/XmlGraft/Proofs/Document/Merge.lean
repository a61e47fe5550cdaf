import XmlGraft.Proofs.Document.Independence
import XmlGraft.Proofs.Document.Listing
import XmlGraft.Proofs.Document.Outcomes

/-!
# Merging — the writes of a value in a document that has content

Each part of a value has a path of its own, and no two of these paths lead to the same place in any
document: the edits of a value are pairwise apart (`edits_independent`). So when its writes are
grafted onto a document that has content already, no write undoes what an earlier one did, and
grafting all of them again changes nothing (`graftAll_merge`).

That the writes could be listed at all implies that no sequence is too long for its positions to be
written (`addressable_of_writesOf`).
-/

namespace XmlGraft

open Xml Data XmlGraft.Path

/-! ## The edits of a value -/

/-- An edit goes on in a child, by a step that asks nothing of it but its name. -/
def Edit.Enters (p : Part → Prop) (edit : Edit) : Prop :=
  ∃ step rest, edit.1 = step :: rest ∧ step.IsElementStep ∧ (∀ e, step.asks e = true) ∧ p step

/-- Edits of a child go on in it. -/
theorem enters_atChild {step : Part} (head : step.IsElementStep) (byName : ∀ e, step.asks e = true)
    {p : Part → Prop} (holds : p step) (edits : List Edit) :
    ∀ edit ∈ atChild step edits, Edit.Enters p edit := by
  intro edit member
  obtain ⟨inner, _, rfl⟩ := List.mem_map.mp member
  exact ⟨step, inner.1, rfl, head, byName, holds⟩

/-- Edits that go on in children with different names or at different places are apart. -/
theorem Edit.Enters.apart {p q : Part → Prop} {edit other : Edit} (enters : edit.Enters p)
    (otherEnters : other.Enters q)
    (differs : ∀ step other, p step → q other →
      step.childName ≠ other.childName ∨ step.passesOver ≠ other.passesOver) :
    Apart edit.1 other.1 := by
  obtain ⟨step, rest, same, head, byName, holds⟩ := enters
  obtain ⟨otherStep, more, otherSame, otherHead, otherByName, otherHolds⟩ := otherEnters
  rw [same, otherSame]
  exact .elsewhere head otherHead byName otherByName (differs step otherStep holds otherHolds)

namespace Path.Independent

theorem nil : Independent [] :=
  ⟨fun _ member => absurd member List.not_mem_nil, .nil⟩

/-- A single edit of the text of an element is independent. -/
theorem text (value : Option String) : Independent [([], value)] := by
  refine ⟨?_, List.pairwise_singleton _ _⟩
  intro edit member step inside
  rw [List.mem_singleton.mp member] at inside
  cases inside

/-- Edits of a child are as independent as they are in it. -/
theorem atChild {step : Part} (head : step.IsElementStep) (byName : ∀ e, step.asks e = true)
    {edits : List Edit} (independent : Independent edits) : Independent (atChild step edits) := by
  constructor
  · intro edit member
    obtain ⟨inner, inEdits, rfl⟩ := List.mem_map.mp member
    exact List.forall_mem_cons.mpr ⟨byName, independent.byName inner inEdits⟩
  · exact independent.apart.map _ fun _ _ apart => .inside head byName apart

/-- Independent edits stay so with others that are apart from all of them. -/
theorem append {edits others : List Edit} (independent : Independent edits)
    (othersIndependent : Independent others)
    (apart : ∀ edit ∈ edits, ∀ other ∈ others, Apart edit.1 other.1) :
    Independent (edits ++ others) := by
  refine ⟨?_, List.pairwise_append.mpr ⟨independent.apart, othersIndependent.apart, apart⟩⟩
  intro edit member
  rcases List.mem_append.mp member with member | member
  · exact independent.byName edit member
  · exact othersIndependent.byName edit member

/-- Edits of different attributes are independent. -/
theorem attributes {attributes : List (String × Value)}
    (once : (attributes.map (·.1)).Nodup) : Independent (attributeEdits attributes) := by
  constructor
  · intro edit member step inside e
    obtain ⟨entry, _, rfl⟩ := List.mem_map.mp member
    rw [List.mem_singleton.mp inside]
    rfl
  · refine (List.pairwise_map.mp once).map _ ?_
    intro first second differs
    refine .last fun same => differs ?_
    exact (Part.attribute.inj (List.singleton_inj.mp same)).symm

end Path.Independent

mutual

/-- The edits of a value are independent. -/
theorem edits_independent (value : Value) (addressable : value.Addressable)
    (once : value.Throughout KeysOnce) : Independent (edits value) := by
  cases value with
  | scalar text => exact .text (someText text)
  | mapping entries =>
    obtain ⟨others, enters⟩ :=
      entryEdits_independent entries addressable.1 addressable.2 once.2
    have body : Independent
        (attributeEdits (Value.attributesOf entries) ++ entryEdits entries) := by
      refine (Independent.attributes once.1.attributesOf).append others ?_
      intro edit member other otherMember
      obtain ⟨entry, _, rfl⟩ := List.mem_map.mp member
      obtain ⟨step, rest, same, head, _⟩ := enters other otherMember
      refine .last fun ends => ?_
      rw [same] at ends
      cases ends
      exact head.elim
    rw [edits]
    by_cases empty :
        (attributeEdits (Value.attributesOf entries) ++ entryEdits entries).isEmpty = true
    · simp only [if_pos empty]
      exact .text none
    · simp only [if_neg empty]
      exact body
  | _ => exact .nil

/-- The edits of entries with different keys are independent, and each goes on in a child with one
of these keys for its name. -/
theorem entryEdits_independent (entries : List (String × Value))
    (addressable : AddressableEntries entries)
    (different : ((Value.elementsOf entries).map (·.1)).Nodup)
    (once : EntriesThroughout KeysOnce entries) :
    Independent (entryEdits entries) ∧
      ∀ edit ∈ entryEdits entries,
        edit.Enters fun step => step.childName ∈ (Value.elementsOf entries).map (·.1) := by
  cases entries with
  | nil => exact ⟨.nil, fun _ member => absurd member List.not_mem_nil⟩
  | cons entry rest =>
    obtain ⟨key, value⟩ := entry
    obtain ⟨isName, addressableValue, addressableRest⟩ := addressable
    by_cases marked : marksAttribute key = true
    · rw [Value.elementsOf_marked marked] at different ⊢
      rw [(entryEdits_marked value rest marked []).2]
      exact entryEdits_independent rest addressableRest different once.2
    · rw [entryName, if_neg marked] at isName
      rw [Value.elementsOf_unmarked marked, List.map_cons] at different ⊢
      obtain ⟨notAgain, differentRest⟩ := List.nodup_cons.mp different
      obtain ⟨others, othersEnter⟩ :=
        entryEdits_independent rest addressableRest differentRest once.2
      have joined : ∀ {first : List Edit}, Independent first →
          (∀ edit ∈ first, edit.Enters fun step => step.childName = key) →
          Independent (first ++ entryEdits rest) ∧
            ∀ edit ∈ first ++ entryEdits rest, edit.Enters fun step =>
              step.childName ∈ key :: (Value.elementsOf rest).map (·.1) := by
        intro first here enters
        constructor
        · refine here.append others fun edit member other otherMember => ?_
          refine (enters edit member).apart (othersEnter other otherMember) ?_
          rintro step otherStep rfl inRest
          exact .inl fun same => notAgain (same ▸ inRest)
        · intro edit member
          rcases List.mem_append.mp member with member | member
          · obtain ⟨step, more, same, head, byName, named⟩ := enters edit member
            exact ⟨step, more, same, head, byName, named ▸ List.mem_cons_self⟩
          · obtain ⟨step, more, same, head, byName, named⟩ := othersEnter edit member
            exact ⟨step, more, same, head, byName, List.mem_cons_of_mem key named⟩
      have one : ¬value.isSequence = true →
          Independent (entryEdits ((key, value) :: rest)) ∧
            ∀ edit ∈ entryEdits ((key, value) :: rest), edit.Enters fun step =>
              step.childName ∈ key :: (Value.elementsOf rest).map (·.1) := by
        intro single
        have head : (Part.element key).IsElementStep := isName
        rw [(entryEdits_single value rest marked single []).2]
        refine joined
          ((edits_independent value addressableValue once.1).atChild head fun _ => rfl) ?_
        exact enters_atChild (p := fun step => step.childName = key) head (fun _ => rfl) rfl _
      cases value with
      | sequence items =>
        obtain ⟨addressableItems, written⟩ := addressableValue
        obtain ⟨here, enters⟩ := itemEdits_independent items addressableItems once.1 isName
          (Nat.le_refl 1) (Nat.add_comm _ _ ▸ written)
        rw [entryEdits, if_neg marked]
        refine joined here fun edit member => ?_
        obtain ⟨step, more, same, head, byName, named, _⟩ := enters edit member
        exact ⟨step, more, same, head, byName, named⟩
      | _ => exact one Bool.false_ne_true

/-- The edits of items are independent, and each goes on in a child with their name, at the position
of its item. -/
theorem itemEdits_independent (items : List Value) (addressable : AddressableItems items)
    (once : ItemsThroughout KeysOnce items) {key : String} (isName : isNCName key = true)
    {position : Nat} (positive : 1 ≤ position)
    (written : position + items.length ≤ Decimal.integerLimit) :
    Independent (itemEdits key position items) ∧
      ∀ edit ∈ itemEdits key position items,
        edit.Enters fun step => step.childName = key ∧ position ≤ step.passesOver + 1 := by
  cases items with
  | nil => exact ⟨.nil, fun _ member => absurd member List.not_mem_nil⟩
  | cons item rest =>
    rw [List.length_cons, ← Nat.add_assoc, Nat.add_right_comm] at written
    have head := isElementStep_position isName positive
      (Nat.lt_of_succ_le (Nat.le_trans (Nat.le_add_right _ _) written))
    have place : (Part.filtered key (.position position)).passesOver + 1 = position := by
      show (position : Int).toNat - 1 + 1 = position
      rw [Int.toNat_natCast]
      omega
    obtain ⟨others, othersEnter⟩ := itemEdits_independent rest addressable.2 once.2 isName
      (Nat.le_succ_of_le positive) written
    have here := (edits_independent item addressable.1 once.1).atChild head fun _ => rfl
    have enters : ∀ edit ∈ atChild (.filtered key (.position position)) (edits item),
        edit.Enters fun step => step.childName = key ∧ step.passesOver + 1 = position :=
      enters_atChild head (fun _ => rfl) ⟨rfl, place⟩ (edits item)
    rw [itemEdits]
    constructor
    · refine here.append others fun edit member other otherMember => ?_
      refine (enters edit member).apart (othersEnter other otherMember) ?_
      rintro step otherStep ⟨_, first⟩ ⟨_, later⟩
      exact .inr (by omega)
    · intro edit member
      rcases List.mem_append.mp member with member | member
      · obtain ⟨step, more, same, head, byName, named, first⟩ := enters edit member
        exact ⟨step, more, same, head, byName, named, Nat.le_of_eq first.symm⟩
      · obtain ⟨step, more, same, head, byName, named, later⟩ := othersEnter edit member
        exact ⟨step, more, same, head, byName, named, Nat.le_of_succ_le later⟩

end

/-! ## Reading at the end of a path -/

/-- What a path reads at the element that it leads to: an attribute if it ends in one, and else the
text. -/
def Path.reads : List Part → Element → Option String
  | [], e => some e.ownText
  | [.attribute key], e => e.attribute? (.bare key)
  | _ :: rest, e => reads rest e

/-- Above its end a path reads what the rest of it reads. -/
theorem Path.reads_step {step : Part} (head : step.IsElementStep) (rest : List Part)
    (e : Element) : reads (step :: rest) e = reads rest e := by
  cases step with
  | «attribute» key => exact head.elim
  | _ => rfl

/-- Where an edit is held, the path leads to an element without making anything, and reads there
what was written. -/
theorem Xml.Element.Holds.reads {steps : List Part} (tail : IsTail steps) {value : Option String}
    {e : Element} (holds : e.Holds (steps, value)) :
    ∃ address found, e.place none steps = (e, .ok address) ∧
      (e.nodeAt? address).bind Node.element? = some found ∧
      ∀ text ∈ value, Path.reads steps found = some text := by
  induction tail generalizing e with
  | nil =>
    obtain ⟨address, placed⟩ := holds
    refine ⟨[], e, rfl, rfl, ?_⟩
    rintro text rfl
    exact congrArg some (Element.ownText_place_nil placed)
  | last isName =>
    obtain ⟨x, had, same⟩ := (Element.holds_last_iff isName).mp holds
    refine ⟨[], e, Element.place_last_eq_ok.mpr ⟨?_, rfl⟩, rfl, ?_⟩
    · rw [Element.writeAttribute_plain isName, had]
      rfl
    · intro text given
      obtain ⟨rfl, _⟩ := same text given
      exact had
  | @step step rest head tail ih =>
    obtain ⟨f, rfl, finds, inside⟩ := (Element.holds_step_iff head).mp holds
    obtain ⟨address, found, placed, there, reads⟩ := ih inside
    refine ⟨f.index :: address, found, ?_, ?_, ?_⟩
    · refine (Element.place_step_eq_ok head).mpr ⟨f, f.target, address, ?_, placed, rfl, rfl⟩
      exact Element.designated_of_finds finds
    · exact (Element.elementAt_whole f address).trans there
    · intro text given
      rw [Path.reads_step head]
      exact reads text given

namespace Document

/-! ## Documents -/

/-- Writes that are all made are edits of the root, be it there or be it made by the first. -/
theorem becomes_of_graftAll {tag : String} {edits : List Edit} (some : edits ≠ [])
    {writes : List Write} (spells : Spells [.element tag] edits writes) {d left : Document}
    (replayed : d.graftAll writes = (left, .ok ())) :
    ∃ e root, d.reach (.element tag) = ({ d with root := .some e }, .ok e) ∧
      Element.Becomes edits e root ∧ root.name = .bare tag ∧
      left = { d with root := .some root } := by
  induction edits generalizing d writes with
  | nil => exact absurd rfl some
  | cons edit rest ih =>
    obtain ⟨steps, value⟩ := edit
    obtain ⟨⟨path, text⟩, others, rfl, first, spellsRest⟩ := List.map_eq_cons_iff.mp spells
    obtain ⟨parsed, rfl⟩ := Prod.mk.inj first
    obtain ⟨head, tail⟩ := wellFormed_of_parse parsed
    rw [graftAll] at replayed
    split at replayed
    · next between address grafted =>
      obtain ⟨e, next, reached, placed, rfl⟩ := (graft_eq_ok_iff parsed).mp grafted
      have named := Part.name_of_accepts ((reach_eq_ok_iff head).mp reached).2.2.1
      have renamed := Element.name_place tail text e
      rw [placed] at renamed
      cases rest with
      | nil =>
        obtain rfl := List.map_eq_nil_iff.mp spellsRest
        cases replayed
        exact ⟨e, next, reached, .edit tail placed (.refl next), renamed.trans named, rfl⟩
      | cons edit more =>
        obtain ⟨again, root, found, becomes, rootNamed, same⟩ :=
          ih (List.cons_ne_nil edit more) spellsRest replayed
        rcases ((reach_eq_ok_iff head).mp found).2.2.2 with present | ⟨none, _⟩
        · cases present
          exact ⟨e, root, reached, .edit tail placed becomes, rootNamed, same⟩
        · cases none
    · cases replayed

/-- A document whose root holds some edits is left alone by the writes that spell them. -/
theorem graftAll_of_holds {tag : String} {edits : List Edit} {writes : List Write}
    (spells : Spells [.element tag] edits writes) {d : Document} {root : Element}
    (rooted : d.root = some root) (named : root.name = .bare tag)
    (holds : ∀ edit ∈ edits, root.Holds edit) : d.graftAll writes = (d, .ok ()) := by
  induction edits generalizing writes with
  | nil =>
    obtain rfl := List.map_eq_nil_iff.mp spells
    rfl
  | cons edit rest ih =>
    obtain ⟨⟨path, text⟩, others, rfl, first, spellsRest⟩ := List.map_eq_cons_iff.mp spells
    obtain ⟨parsed, rfl⟩ := Prod.mk.inj first
    obtain ⟨⟨address, placed⟩, holdsRest⟩ := List.forall_mem_cons.mp holds
    have same : d = { d with root := some root } := by rw [← rooted]
    have head := (wellFormed_of_parse parsed).1
    have reached : d.reach (.element tag) = ({ d with root := some root }, .ok root) :=
      (reach_eq_ok_iff head).mpr ⟨rfl, rfl, Part.accepts_of_name named, .inl rooted⟩
    have grafted := graft_edit reached placed parsed
    rw [← same] at grafted
    rw [graftAll, grafted]
    exact ih spellsRest holdsRest

/-- A path that leads from the root to an element, without making anything, leads to it in the
document. -/
theorem graft_none_of_place {tag path : String} {steps : List Part}
    (parsed : parse path = .ok ([.element tag] ++ steps)) {d : Document} {root : Element}
    (rooted : d.root = some root) (named : root.name = .bare tag) {address : Address}
    (placed : root.place none steps = (root, .ok address)) {found : Element}
    (there : (root.nodeAt? address).bind Node.element? = some found) :
    d.graft path none = (d, .ok address) ∧ d.elementAt? address = some found ∧
      reads ([.element tag] ++ steps) found = reads steps found := by
  have head := (wellFormed_of_parse parsed).1
  have same : d = { d with root := some root } := by rw [← rooted]
  have reached : d.reach (.element tag) = ({ d with root := some root }, .ok root) :=
    (reach_eq_ok_iff head).mpr ⟨rfl, rfl, Part.accepts_of_name named, .inl rooted⟩
  have grafted := graft_edit reached placed parsed
  rw [← same] at grafted
  refine ⟨grafted, ?_, reads_step head steps found⟩
  rw [elementAt?, nodeAt?, rooted]
  exact there

/-- Where the root holds an edit, the path of its write leads to an element without making anything,
and reads there what was written. -/
theorem reads_of_holds {tag path : String} {steps : List Part}
    (parsed : parse path = .ok ([.element tag] ++ steps)) {d : Document} {root : Element}
    (rooted : d.root = some root) (named : root.name = .bare tag) {value : Option String}
    (holds : root.Holds (steps, value)) :
    ∃ address found, d.graft path none = (d, .ok address) ∧ d.elementAt? address = some found ∧
      ∀ text ∈ value, reads ([.element tag] ++ steps) found = some text := by
  obtain ⟨_, tail⟩ := wellFormed_of_parse parsed
  obtain ⟨address, found, placed, there, reads⟩ := holds.reads tail
  obtain ⟨grafted, located, same⟩ := graft_none_of_place parsed rooted named placed there
  exact ⟨address, found, grafted, located, fun text given => same.trans (reads text given)⟩

/-- Grafting the writes of a value onto a document loses none of them. If all of them are made, then
afterwards the path of each leads to an element without making anything, and reads there the text
that was written, if one was; and grafting them all again leaves the document as it is. So does
grafting them onto the document that the value denotes. The names in the value are names without a
colon, and no mapping has a key twice; that attribute entries hold scalars is so for every mapping
that the program makes. -/
theorem graftAll_merge {value wrapped : Value} (wraps : value.wrap = .ok wrapped)
    (named : wrapped.Throughout Named) (once : wrapped.Throughout KeysOnce)
    (scalars : wrapped.Throughout AttributesScalar) {built : Document}
    (builds : ofValue value = .ok built) {writes : List Write} (listed : value.writes = .ok writes)
    {d left : Document} (replayed : d.graftAll writes = (left, .ok ())) :
    (∀ path text, (path, text) ∈ writes → ∃ steps address found, parse path = .ok steps ∧
      left.graft path none = (left, .ok address) ∧ left.elementAt? address = some found ∧
      ∀ given ∈ text, reads steps found = some given) ∧
    left.graftAll writes = (left, .ok ()) ∧ built.graftAll writes = (built, .ok ()) := by
  rw [ofValue, wraps, ok_bind] at builds
  rw [Value.writes, wraps, ok_bind] at listed
  obtain ⟨entry, found, rest⟩ := bind_eq_ok.mp builds
  rw [found, ok_bind] at listed
  cases entry with
  | none =>
    cases rest
    cases listed
    cases replayed
    exact ⟨fun _ _ member => absurd member List.not_mem_nil, rfl, rfl⟩
  | some entry =>
    obtain ⟨tag, node⟩ := entry
    obtain ⟨builtRoot, builtNode, same⟩ := bind_eq_ok.mp rest
    cases same
    obtain ⟨rfl, shape⟩ := documentEntry?_eq_ok found
    obtain ⟨names, namedNode, _⟩ := named
    have isName := names (tag, node) List.mem_cons_self
    rw [entryName, if_neg (shape (tag, node) rfl).1] at isName
    have addressable := addressable_of_writesOf node namedNode once.2.1 scalars.2.1 listed
    have independent := edits_independent node addressable once.2.1
    obtain ⟨becomesBuilt, some, _, builtNamed⟩ :=
      Element.ofValue_becomes node addressable isName builtNode
    have leads : LeadsToElement [.element tag] :=
      ⟨List.cons_ne_nil _ _, List.forall_mem_singleton.mpr isName⟩
    have spellable := addressable.spellable
    obtain ⟨isNode, _⟩ := (Element.ofValue_isOk_iff node spellable isName).mp ⟨_, builtNode⟩
    obtain ⟨_, wrote, spells⟩ := writesOf_spells node spellable isNode leads
    obtain rfl := Except.ok.inj (Eq.trans listed.symm wrote)
    obtain ⟨e, root, _, becomes, rootNamed, rfl⟩ := becomes_of_graftAll some spells replayed
    have holds := becomes.holds independent
    refine ⟨?_, graftAll_of_holds spells rfl rootNamed holds,
      graftAll_of_holds spells rfl builtNamed (becomesBuilt.holds independent)⟩
    intro path text member
    have spelled : (parse path, text) ∈ (edits node).map fun edit =>
        (Except.ok ([.element tag] ++ edit.1), edit.2) := by
      rw [← spells]
      exact List.mem_map.mpr ⟨(path, text), member, rfl⟩
    obtain ⟨⟨steps, value⟩, inEdits, same⟩ := List.mem_map.mp spelled
    obtain ⟨parsed, rfl⟩ := Prod.mk.inj same
    obtain ⟨address, there, grafted, located, reads⟩ :=
      reads_of_holds (d := { d with root := .some root }) parsed.symm rfl rootNamed
        (holds (steps, value) inEdits)
    exact ⟨_, address, there, parsed.symm, grafted, located, reads⟩

/-- An attribute and two items merged into a document with a comment and one item. -/
theorem graftAll_merge_log :
    ∃ writes built left, Value.writes (.dict [(.text "log", .dict [(.text "@id", .text "7"),
        (.text "entry", .list [.text "a", .text "b"])])]) = .ok writes ∧
      ofValue (.dict [(.text "log", .dict [(.text "@id", .text "7"),
        (.text "entry", .list [.text "a", .text "b"])])]) = .ok built ∧
      Document.graftAll ⟨some ⟨⟨.bare "log", "", [], [], none⟩,
        [.comment "kept" none, ((Element.blank "entry").withText "x").node]⟩, 0⟩ writes =
          (left, .ok ()) ∧
      (∀ path text, (path, text) ∈ writes → ∃ steps address found, parse path = .ok steps ∧
        left.graft path none = (left, .ok address) ∧ left.elementAt? address = some found ∧
        ∀ given ∈ text, reads steps found = some given) ∧
      left.graftAll writes = (left, .ok ()) ∧ built.graftAll writes = (built, .ok ()) := by
  have throughout : ∀ p : List (String × Value) → Prop,
      p [("log", .mapping [("@id", .scalar "7"),
        ("entry", .sequence [.scalar "a", .scalar "b"])])] →
      p [("@id", .scalar "7"), ("entry", .sequence [.scalar "a", .scalar "b"])] →
      Value.Throughout p (.mapping [("log", .mapping [("@id", .scalar "7"),
        ("entry", .sequence [.scalar "a", .scalar "b"])])]) :=
    fun p outer inner => ⟨outer, ⟨inner, trivial, ⟨trivial, trivial, trivial⟩, trivial⟩, trivial⟩
  have listed : Value.writes (.dict [(.text "log", .dict [(.text "@id", .text "7"),
      (.text "entry", .list [.text "a", .text "b"])])]) =
    .ok [("/log/@id", some "7"), ("/log/entry[1]", some "a"), ("/log/entry[2]", some "b")] := by
    decide +kernel
  have replayed : ∃ left, Document.graftAll ⟨some ⟨⟨.bare "log", "", [], [], none⟩,
      [.comment "kept" none, ((Element.blank "entry").withText "x").node]⟩, 0⟩
      [("/log/@id", some "7"), ("/log/entry[1]", some "a"), ("/log/entry[2]", some "b")] =
        (left, .ok ()) := ⟨_, Prod.ext rfl rfl⟩
  have builds : ∃ built, ofValue (.dict [(.text "log", .dict [(.text "@id", .text "7"),
      (.text "entry", .list [.text "a", .text "b"])])]) = .ok built := ⟨_, rfl⟩
  obtain ⟨left, replayed⟩ := replayed
  obtain ⟨built, builds⟩ := builds
  have merged := graftAll_merge rfl (throughout Named (by decide) (by decide))
    (throughout KeysOnce (by decide) (by decide))
    (throughout AttributesScalar (by decide) (by decide)) builds listed replayed
  exact ⟨_, built, left, listed, builds, replayed, merged⟩

end Document

end XmlGraft
