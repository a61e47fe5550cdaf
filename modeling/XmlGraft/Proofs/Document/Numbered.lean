import XmlGraft.Proofs.Document.Buildable
import XmlGraft.Proofs.Document.Listing
import XmlGraft.Proofs.Document.Rebuilding
import XmlGraft.Proofs.Document.Retrieval
import XmlGraft.Proofs.Xml.Hollow

/-!
# Numbered children — listing the writes of a tree's own data

What a simple element is wrapped as has an entry for each attribute, and one for the child elements
of each name: a single one, or a sequence (`Obeys.wrapped_entry`). The names can stand in paths, and
so can the positions, unless somewhere so many child elements have one name that the position of one
is too long a number to be written. The writes are listed exactly if that is not so
(`Obeys.writesOf_isOk_iff`).
-/

namespace XmlGraft

open Xml Data XmlGraft.Path

namespace Xml.Element

variable {e : Element} {above : List Declaration}

/-! ## Numbers of children -/

/-- The position of each child element among those of its name can be written, in the whole tree. -/
def Numbered (e : Element) : Prop :=
  ∀ inner ∈ e.elements, ∀ key, (inner.childrenNamed key).length < Decimal.integerLimit

/-- A tree is numbered if its root is and the trees of its child elements are. -/
theorem numbered_iff : e.Numbered ↔
    (∀ key, (e.childrenNamed key).length < Decimal.integerLimit) ∧
      ∀ child ∈ e.childElements, child.Numbered := by
  constructor
  · intro numbered
    refine ⟨numbered e List.mem_cons_self, fun child member inner within => ?_⟩
    exact numbered inner (List.mem_cons_of_mem _ (mem_elementsAmong.mpr ⟨child, member, within⟩))
  · rintro ⟨own, inside⟩ inner within
    rcases List.mem_cons.mp within with rfl | within
    · exact own
    · obtain ⟨child, member, within⟩ := mem_elementsAmong.mp within
      exact inside child member inner within

/-- One is not too many. -/
theorem one_lt_integerLimit : 1 < Decimal.integerLimit :=
  length_decimalDigits_le_iff.mp (by decide)

/-! ## What the data of an element is wrapped as -/

/-- An element is wrapped as its text if it has nothing else, and else as a mapping. -/
theorem wrap_cases {wrapped : Value} (wraps : e.value.wrap = .ok wrapped) :
    e.Alone ∧ wrapped = .scalar e.ownText ∨ ¬e.Alone ∧ ∃ entries, wrapped = .mapping entries := by
  by_cases alone : e.Alone
  · rw [value_of_alone alone] at wraps
    exact .inl ⟨alone, (Except.ok.inj wraps).symm⟩
  · rw [value_of_not_alone alone] at wraps
    obtain ⟨entries, _, rfl⟩ := map_eq_ok.mp wraps
    exact .inr ⟨alone, entries, rfl⟩

/-- What an element is wrapped as is no sequence. -/
theorem single_of_wrap {wrapped : Value} (wraps : e.value.wrap = .ok wrapped) :
    ¬wrapped.isSequence = true := by
  obtain ⟨_, rfl⟩ | ⟨_, entries, rfl⟩ := wrap_cases wraps
  · exact Bool.false_ne_true
  · exact Bool.false_ne_true

/-- What is wrapped as a mapping has attributes or child elements. -/
theorem not_alone_of_wrap {entries : List (String × Value)}
    (wraps : e.value.wrap = .ok (.mapping entries)) : ¬e.Alone := by
  obtain ⟨_, ⟨⟩⟩ | ⟨other, _⟩ := wrap_cases wraps
  exact other

/-- A group of elements is wrapped as its only member, or as a sequence. -/
theorem wrap_groupValue {members : List Element} (some : members ≠ []) {wrapped : Value}
    (wraps : (groupValue (members.map value)).wrap = .ok wrapped) :
    (∃ child, members = [child] ∧ child.value.wrap = .ok wrapped) ∨
      ∃ items, wrapped = .sequence items ∧ wrapItems (members.map value) = .ok items := by
  match members, some with
  | [child], _ => exact .inl ⟨child, rfl, wraps⟩
  | child :: next :: more, _ =>
    obtain ⟨items, wrapsItems, rfl⟩ := map_eq_ok.mp wraps
    exact .inr ⟨items, rfl, wrapsItems⟩

section Items

variable {members : List Element} {items : List Value}
  (wraps : wrapItems (members.map value) = .ok items) {index : Nat}

include wraps

/-- The items of a group are wrapped in their places. -/
theorem wrapped_item {item : Value} (found : items[index]? = some item) :
    ∃ child, members[index]? = some child ∧ child.value.wrap = .ok item := by
  obtain ⟨_, atValue, wrapsItem⟩ := getElem?_of_wrapItems wraps found
  rw [List.getElem?_map] at atValue
  obtain ⟨child, atChild, rfl⟩ := Option.map_eq_some_iff.mp atValue
  exact ⟨child, atChild, wrapsItem⟩

/-- Every member of a group is wrapped in its place. -/
theorem wrapped_member {child : Element} (found : members[index]? = some child) :
    ∃ item, items[index]? = some item ∧ child.value.wrap = .ok item := by
  refine getElem?_wrapItems wraps ?_
  rw [List.getElem?_map, found]
  rfl

end Items

/-- An entry of what a simple element is wrapped as is one of its attributes, or it is the child
elements of one name. -/
theorem Obeys.wrapped_entry (obeys : e.Obeys simpleLaw above) {entries : List (String × Value)}
    (wraps : e.value.wrap = .ok (.mapping entries)) {key : String} {value : Value}
    (member : (key, value) ∈ entries) :
    (∃ a ∈ e.head.attributes, key = a.key ∧ value = .scalar a.value) ∨
      isNCName key = true ∧ e.childrenNamed key ≠ [] ∧
        (groupValue ((e.childrenNamed key).map Element.value)).wrap = .ok value := by
  have notAlone := not_alone_of_wrap wraps
  rw [obeys.value_dict notAlone] at wraps
  obtain ⟨_, wrapsEntries, ⟨⟩⟩ := map_eq_ok.mp wraps
  obtain ⟨item, inDict, wrapsItem⟩ := mem_of_wrapEntries wrapsEntries member
  rcases List.mem_append.mp inDict with isAttribute | isGroup
  · obtain ⟨a, inAttributes, same⟩ := List.mem_map.mp isAttribute
    cases same
    cases wrapsItem
    exact .inl ⟨a, inAttributes, rfl, rfl⟩
  · obtain ⟨group, inGroups, same⟩ := List.mem_map.mp isGroup
    cases same
    have named : group.2 = e.childrenNamed group.1 :=
      (mem_grouped.mp inGroups).2.trans (valuesOf_keyed group.1 e)
    have some := (grouped_nodup (keyed e.childElements)).2 group inGroups
    obtain ⟨child, inGroup⟩ := List.exists_mem_of_ne_nil group.2 some
    obtain ⟨inChildren, label⟩ := (obeys.mem_group inGroups).1 child inGroup
    rw [named] at some wrapsItem
    exact .inr ⟨label ▸ (obeys.child child inChildren).1.name.2, some, wrapsItem⟩

/-- The child elements of one name have an entry in what a simple element is wrapped as. -/
theorem Obeys.entry_of_childrenNamed (obeys : e.Obeys simpleLaw above)
    {entries : List (String × Value)} (wraps : e.value.wrap = .ok (.mapping entries))
    {key : String} (some : e.childrenNamed key ≠ []) :
    ∃ value, (key, value) ∈ entries ∧ ¬marksAttribute key = true ∧
      (groupValue ((e.childrenNamed key).map Element.value)).wrap = .ok value := by
  have notAlone := not_alone_of_wrap wraps
  rw [obeys.value_dict notAlone] at wraps
  obtain ⟨_, wrapsEntries, ⟨⟩⟩ := map_eq_ok.mp wraps
  obtain ⟨child, listed⟩ := List.exists_mem_of_ne_nil _ some
  obtain ⟨member, named⟩ := List.mem_filter.mp listed
  have isGroup : (key, e.childrenNamed key) ∈ grouped (keyed e.childElements) := by
    refine mem_grouped.mpr ⟨?_, (valuesOf_keyed key e).symm⟩
    exact beq_iff_eq.mp named ▸ List.mem_map_of_mem (List.mem_map_of_mem member)
  obtain ⟨value, inEntries, wrapsGroup⟩ := mem_wrapEntries wrapsEntries
    (List.mem_append_right _ (List.mem_map_of_mem isGroup))
  exact ⟨value, inEntries, (obeys.mem_group isGroup).2, wrapsGroup⟩

/-! ## Listing the writes -/

/-- What a numbered simple element is wrapped as has paths to all its parts. -/
theorem Obeys.spellable (obeys : e.Obeys simpleLaw above) (numbered : e.Numbered)
    {wrapped : Value} (wraps : e.value.wrap = .ok wrapped) : wrapped.Spellable := by
  induction e using childInduction generalizing above wrapped with
  | step e ih =>
    obtain ⟨own, inside⟩ := numbered_iff.mp numbered
    have spelled : ∀ key, ∀ child ∈ e.childrenNamed key, ∀ {wrapped},
        child.value.wrap = .ok wrapped → wrapped.Spellable := by
      intro key child listed wrapped wraps
      have member := List.mem_of_mem_filter listed
      exact ih child member (obeys.child child member) (inside child member) wraps
    cases wrapped with
    | mapping entries =>
      refine entriesSpellable_iff.mpr ?_
      rintro ⟨key, value⟩ member
      rcases obeys.wrapped_entry wraps member with ⟨a, isAttribute, rfl, rfl⟩ |
        ⟨isName, some, wrapsGroup⟩
      · have marked : marksAttribute a.key = true := marksAttribute_mark a.name.text
        simp only [if_pos marked]
        obtain ⟨⟨bare, isName⟩, _⟩ := obeys.1.plain a isAttribute
        have text : Data.attributeName a.key = a.name.label :=
          (attributeName_mark a.name.text).trans (if_pos bare)
        exact text ▸ isName
      · simp only [if_neg (unmarked_of_isNCName isName)]
        refine .inr ⟨isName, ?_⟩
        rcases wrap_groupValue some wrapsGroup with ⟨child, only, wrapsChild⟩ |
          ⟨items, rfl, wrapsItems⟩
        · exact spelled key child (only ▸ List.mem_cons_self) wrapsChild
        · refine ⟨itemsSpellable_iff.mpr fun item listed => ?_, ?_⟩
          · obtain ⟨index, atIndex⟩ := List.mem_iff_getElem?.mp listed
            obtain ⟨child, atChild, wrapsChild⟩ := wrapped_item wrapsItems atIndex
            exact spelled key child (List.mem_of_getElem? atChild) wrapsChild
          · rw [length_of_wrapItems wrapsItems, List.length_map]
            exact own key
    | sequence items => exact absurd rfl (single_of_wrap wraps)
    | _ => trivial

/-- The writes of what a numbered simple element is wrapped as are its edits, spelled. -/
theorem Obeys.spells (obeys : e.Obeys simpleLaw above) (numbered : e.Numbered) {wrapped : Value}
    (wraps : e.value.wrap = .ok wrapped) {steps : List Part} (leads : LeadsToElement steps) :
    ∃ writes, writesOf steps wrapped = .ok writes ∧ Spells steps (edits wrapped) writes := by
  obtain ⟨wrappedToo, wrapsToo, _, builds⟩ := e.denotes_value obeys
  obtain rfl := Except.ok.inj (wraps.symm.trans wrapsToo)
  have spellable := obeys.spellable numbered wraps
  obtain ⟨isNode, _⟩ := (ofValue_isOk_iff wrapped spellable obeys.1.name.2).mp ⟨_, builds⟩
  exact writesOf_spells wrapped spellable isNode leads

/-- Where a group of elements is written under a key, the positions in it can be written, and each
member is written. -/
theorem written_group {members : List Element} (some : members ≠ []) {value : Value}
    (wraps : (groupValue (members.map Element.value)).wrap = .ok value) {steps : List Part}
    {key : String} {writes : List Write}
    (wrote : writesOf (steps ++ [.element key]) value = .ok writes ∨
      ∃ items, value = .sequence items ∧ writesOfItems steps key 1 items = .ok writes) :
    members.length < Decimal.integerLimit ∧ ∀ child ∈ members, ∃ wrapped steps writes,
      child.value.wrap = .ok wrapped ∧ writesOf steps wrapped = .ok writes := by
  rcases wrap_groupValue some wraps with ⟨child, rfl, wrapsChild⟩ | ⟨items, rfl, wrapsItems⟩
  · refine ⟨one_lt_integerLimit, List.forall_mem_singleton.mpr ?_⟩
    rcases wrote with wrote | ⟨_, rfl, _⟩
    · exact ⟨_, _, _, wrapsChild, wrote⟩
    · exact absurd rfl (single_of_wrap wrapsChild)
  · obtain ⟨_, ⟨⟩, wrote⟩ := wrote.resolve_left nofun
    have each : ∀ {index child}, members[index]? = .some child →
        ∃ item steps writes, child.value.wrap = .ok item ∧
          writesOf (steps ++ [.filtered key (.position (1 + index : Nat))]) item = .ok writes := by
      intro index child listed
      obtain ⟨item, found, wrapsChild⟩ := wrapped_member wrapsItems listed
      obtain ⟨first, wroteItem⟩ := writesOfItems_getElem? wrote found
      exact ⟨item, steps, first, wrapsChild, wroteItem⟩
    constructor
    · have last : members.length - 1 < members.length :=
        Nat.sub_one_lt (mt List.length_eq_zero_iff.mp some)
      obtain ⟨_, _, _, _, wroteItem⟩ := each (List.getElem?_eq_getElem last)
      have written := position_lt_of_writesOf wroteItem
      omega
    · intro child listed
      obtain ⟨index, found⟩ := List.mem_iff_getElem?.mp listed
      obtain ⟨item, _, _, wrapsChild, wroteItem⟩ := each found
      exact ⟨item, _, _, wrapsChild, wroteItem⟩

/-- Where the writes of what a simple element is wrapped as are listed, it is numbered. -/
theorem Obeys.numbered_of_writesOf (obeys : e.Obeys simpleLaw above) {wrapped : Value}
    (wraps : e.value.wrap = .ok wrapped) {steps : List Part} {writes : List Write}
    (wrote : writesOf steps wrapped = .ok writes) : e.Numbered := by
  induction e using childInduction generalizing above wrapped steps writes with
  | step e ih =>
    obtain ⟨alone, rfl⟩ | ⟨_, entries, rfl⟩ := wrap_cases wraps
    · refine numbered_iff.mpr ⟨fun key => ?_, fun child member => ?_⟩
      · rw [childrenNamed, alone.2]
        exact Nat.zero_lt_of_lt one_lt_integerLimit
      · rw [alone.2] at member
        exact absurd member List.not_mem_nil
    obtain ⟨_, _, _, wroteEntries, _⟩ := writesOf_mapping_eq_ok wrote
    have groups : ∀ key, (e.childrenNamed key).length < Decimal.integerLimit ∧
        ∀ child ∈ e.childrenNamed key, child.Numbered := by
      intro key
      by_cases some : e.childrenNamed key = []
      · rw [some]
        exact ⟨Nat.zero_lt_of_lt one_lt_integerLimit, List.forall_mem_nil _⟩
      obtain ⟨value, inEntries, unmarked, wrapsGroup⟩ := obeys.entry_of_childrenNamed wraps some
      obtain ⟨_, wroteValue⟩ := writesOfEntries_mem wroteEntries inEntries unmarked
      obtain ⟨few, each⟩ := written_group some wrapsGroup wroteValue
      refine ⟨few, fun child listed => ?_⟩
      obtain ⟨_, _, _, wrapsChild, wroteChild⟩ := each child listed
      have member := List.mem_of_mem_filter listed
      exact ih child member (obeys.child child member) wrapsChild wroteChild
    refine numbered_iff.mpr ⟨fun key => (groups key).1, fun child member => ?_⟩
    exact (groups child.name.text).2 child (List.mem_filter.mpr ⟨member, beq_self_eq_true _⟩)

/-- The writes of what a simple element is wrapped as are listed exactly if it is numbered. They are
then its edits, spelled. -/
theorem Obeys.writesOf_isOk_iff (obeys : e.Obeys simpleLaw above) {wrapped : Value}
    (wraps : e.value.wrap = .ok wrapped) {steps : List Part} (leads : LeadsToElement steps) :
    (∃ writes, writesOf steps wrapped = .ok writes) ↔ e.Numbered := by
  refine ⟨fun ⟨_, wrote⟩ => obeys.numbered_of_writesOf wraps wrote, fun numbered => ?_⟩
  obtain ⟨writes, wrote, _⟩ := obeys.spells numbered wraps leads
  exact ⟨writes, wrote⟩

end Xml.Element

end XmlGraft
