import XmlGraft.Proofs.Data.Mappings
import XmlGraft.Proofs.Document.Edits

/-!
# Listing writes — what it takes to list the writes of a value

Listing the writes of a value succeeds only if the value stands for an element
(`isNode_of_writesOf`), and only if the positions in its sequences can be written
(`position_lt_of_writesOf`): every path that is listed begins with the steps that lead to the value,
and at least one path is listed (`through_of_writesOf`).
-/

namespace XmlGraft

open Xml Data XmlGraft.Path

/-! ## Paths that are written -/

namespace Path

/-- A path is written if its parts are. -/
theorem print_append_eq_ok {steps more : List Part} {path : String}
    (printed : print (steps ++ more) = .ok path) :
    ∃ front others, print steps = .ok front ∧ print more = .ok others ∧ path = front ++ others := by
  induction steps generalizing path with
  | nil => exact ⟨"", path, rfl, printed, String.empty_append.symm⟩
  | cons step rest ih =>
    obtain ⟨first, printedFirst, printedRest⟩ := bind_eq_ok.mp printed
    obtain ⟨behind, printedBehind, same⟩ := bind_eq_ok.mp printedRest
    obtain ⟨front, others, printedFront, printedOthers, rfl⟩ := ih printedBehind
    cases same
    refine ⟨"/" ++ first ++ front, others, ?_, printedOthers, String.append_assoc.symm⟩
    rw [print, printedFirst, ok_bind, printedFront]
    rfl

/-- A position that is written has no more digits than are ever written. -/
theorem position_lt_of_print {key : String} {position : Nat} {path : String}
    (printed : print [.filtered key (.position position)] = .ok path) :
    position < Decimal.integerLimit := by
  obtain ⟨first, printedFirst, _⟩ := bind_eq_ok.mp printed
  obtain ⟨inner, printedInner, _⟩ := map_eq_ok.mp printedFirst
  apply Decidable.byContradiction
  intro long
  rw [Part.print, positionText, Decimal.integer?, Int.natAbs_natCast, if_neg long] at printedInner
  cases printedInner

end Path

/-- The path of a write begins with some steps. -/
def Through (steps : List Part) (write : Write) : Prop :=
  ∃ front more, print steps = .ok front ∧ write.1 = front ++ more

/-- What begins with some steps begins with the first of them. -/
theorem Through.front {steps more : List Part} {write : Write}
    (through : Through (steps ++ more) write) : Through steps write := by
  obtain ⟨path, behind, printed, same⟩ := through
  obtain ⟨front, others, printedFront, _, rfl⟩ := print_append_eq_ok printed
  exact ⟨front, others ++ behind, printedFront, by rw [same, String.append_assoc]⟩

/-! ## Lists of writes -/

section Listed

variable {key : String} {value : Value} {items : List Value} {rest : List (String × Value)}
  {steps : List Part} {writes : List Write}

/-- A sequence is written item by item. -/
theorem writesOfEntries_sequence (unmarked : ¬marksAttribute key = true) :
    writesOfEntries steps ((key, .sequence items) :: rest) = .ok writes ↔
      ∃ first others, writesOfItems steps key 1 items = .ok first ∧
        writesOfEntries steps rest = .ok others ∧ writes = first ++ others := by
  rw [writesOfEntries, if_neg unmarked]
  exact both_eq_ok

/-- Any other value is written below one step. -/
theorem writesOfEntries_single (unmarked : ¬marksAttribute key = true)
    (single : ¬value.isSequence = true) :
    writesOfEntries steps ((key, value) :: rest) = .ok writes ↔
      ∃ first others, writesOf (steps ++ [.element key]) value = .ok first ∧
        writesOfEntries steps rest = .ok others ∧ writes = first ++ others := by
  rw [(entryEdits_single value rest unmarked single steps).1]
  exact both_eq_ok

/-- Items are written below one step each. -/
theorem writesOfItems_cons {position : Nat} {item : Value} {rest : List Value} :
    writesOfItems steps key position (item :: rest) = .ok writes ↔
      ∃ first others, writesOf (steps ++ [.filtered key (.position position)]) item = .ok first ∧
        writesOfItems steps key (position + 1) rest = .ok others ∧ writes = first ++ others := by
  rw [writesOfItems]
  exact both_eq_ok

/-- Where entries are written, each element entry is: below one step, or as items. -/
theorem writesOfEntries_mem {entries : List (String × Value)}
    (wrote : writesOfEntries steps entries = .ok writes) (member : (key, value) ∈ entries)
    (unmarked : ¬marksAttribute key = true) :
    ∃ first, writesOf (steps ++ [.element key]) value = .ok first ∨
      ∃ items, value = .sequence items ∧ writesOfItems steps key 1 items = .ok first := by
  induction entries generalizing writes with
  | nil => exact absurd member List.not_mem_nil
  | cons entry rest ih =>
    obtain ⟨other, found⟩ := entry
    by_cases marked : marksAttribute other = true
    · rw [(entryEdits_marked found rest marked steps).1] at wrote
      rcases List.mem_cons.mp member with same | member
      · cases same
        exact absurd marked unmarked
      · exact ih wrote member
    · have here : ∃ first others, (writesOf (steps ++ [.element other]) found = .ok first ∨
          ∃ items, found = .sequence items ∧ writesOfItems steps other 1 items = .ok first) ∧
          writesOfEntries steps rest = .ok others := by
        by_cases nested : found.isSequence = true
        · cases found with
          | sequence items =>
            obtain ⟨first, others, wroteFirst, wroteOthers, _⟩ :=
              (writesOfEntries_sequence marked).mp wrote
            exact ⟨first, others, .inr ⟨items, rfl, wroteFirst⟩, wroteOthers⟩
          | _ => cases nested
        · obtain ⟨first, others, wroteFirst, wroteOthers, _⟩ :=
            (writesOfEntries_single marked nested).mp wrote
          exact ⟨first, others, .inl wroteFirst, wroteOthers⟩
      obtain ⟨first, others, wroteFirst, wroteOthers⟩ := here
      rcases List.mem_cons.mp member with same | member
      · cases same
        exact ⟨first, wroteFirst⟩
      · exact ih wroteOthers member

/-- Where items are written, each is at its position. -/
theorem writesOfItems_getElem? {position : Nat}
    (wrote : writesOfItems steps key position items = .ok writes) {index : Nat} {item : Value}
    (found : items[index]? = some item) :
    ∃ first, writesOf (steps ++ [.filtered key (.position (position + index : Nat))]) item =
      .ok first := by
  induction items generalizing position index writes with
  | nil => cases found
  | cons other rest ih =>
    obtain ⟨first, others, wroteFirst, wroteOthers, _⟩ := writesOfItems_cons.mp wrote
    cases index with
    | zero =>
      cases found
      exact ⟨first, wroteFirst⟩
    | succ index =>
      rw [← Nat.succ_add_eq_add_succ]
      exact ih wroteOthers found

end Listed

/-- A write that is listed has a path of its steps. -/
theorem through_of_writeAt {steps : List Part} {text : Option String} {writes : List Write}
    (wrote : writeAt steps text = .ok writes) :
    writes ≠ [] ∧ ∀ write ∈ writes, Through steps write := by
  obtain ⟨path, printed, rfl⟩ := map_eq_ok.mp wrote
  refine ⟨List.cons_ne_nil _ _, List.forall_mem_singleton.mpr ⟨path, "", printed, ?_⟩⟩
  exact String.append_empty.symm

/-- Attributes are written through the element that has them. -/
theorem through_of_writesOfAttributes {steps : List Part} {attributes : List (String × Value)}
    {writes : List Write} (wrote : writesOfAttributes steps attributes = .ok writes) :
    ∀ write ∈ writes, Through steps write := by
  induction attributes generalizing writes with
  | nil =>
    cases wrote
    exact List.forall_mem_nil _
  | cons entry rest ih =>
    obtain ⟨first, others, wroteFirst, wroteOthers, rfl⟩ := both_eq_ok.mp wrote
    intro write member
    rcases List.mem_append.mp member with member | member
    · exact ((through_of_writeAt wroteFirst).2 write member).front
    · exact ih wroteOthers write member

/-- A mapping writes its attributes and its element entries, and where neither write anything, the
element alone. -/
theorem writesOf_mapping_eq_ok {steps : List Part} {entries : List (String × Value)}
    {writes : List Write} (wrote : writesOf steps (.mapping entries) = .ok writes) :
    ∃ attributes children, writesOfAttributes steps (Value.attributesOf entries) = .ok attributes ∧
      writesOfEntries steps entries = .ok children ∧
      (attributes ++ children = [] ∧ writeAt steps none = .ok writes ∨
        attributes ++ children ≠ [] ∧ writes = attributes ++ children) := by
  cases entries with
  | nil => exact ⟨[], [], rfl, rfl, .inl ⟨rfl, wrote⟩⟩
  | cons entry rest =>
    obtain ⟨attributes, wroteAttributes, wrote⟩ := bind_eq_ok.mp wrote
    obtain ⟨children, wroteChildren, wrote⟩ := bind_eq_ok.mp wrote
    refine ⟨attributes, children, wroteAttributes, wroteChildren, ?_⟩
    cases attributes with
    | nil =>
      cases children with
      | nil => exact .inl ⟨rfl, wrote⟩
      | cons first others =>
        cases wrote
        exact .inr ⟨List.cons_ne_nil first others, rfl⟩
    | cons first others =>
      cases wrote
      exact .inr ⟨List.cons_ne_nil first _, rfl⟩

mutual

/-- A value is written through the steps that lead to it, at least once. -/
theorem through_of_writesOf (value : Value) {steps : List Part} {writes : List Write}
    (wrote : writesOf steps value = .ok writes) :
    writes ≠ [] ∧ ∀ write ∈ writes, Through steps write := by
  cases value with
  | scalar text => exact through_of_writeAt wrote
  | mapping entries =>
    obtain ⟨attributes, children, wroteAttributes, wroteChildren, ⟨_, wrote⟩ | ⟨some, rfl⟩⟩ :=
      writesOf_mapping_eq_ok wrote
    · exact through_of_writeAt wrote
    · refine ⟨some, fun write member => ?_⟩
      rcases List.mem_append.mp member with member | member
      · exact through_of_writesOfAttributes wroteAttributes write member
      · exact through_of_writesOfEntries entries wroteChildren write member
  | _ => cases wrote

/-- So it is with entries, except that they may write nothing. -/
theorem through_of_writesOfEntries (entries : List (String × Value)) {steps : List Part}
    {writes : List Write} (wrote : writesOfEntries steps entries = .ok writes) :
    ∀ write ∈ writes, Through steps write := by
  cases entries with
  | nil =>
    cases wrote
    exact List.forall_mem_nil _
  | cons entry rest =>
    obtain ⟨key, value⟩ := entry
    by_cases marked : marksAttribute key = true
    · rw [(entryEdits_marked value rest marked steps).1] at wrote
      exact through_of_writesOfEntries rest wrote
    · have one : ¬value.isSequence = true → ∀ write ∈ writes, Through steps write := by
        intro single write member
        obtain ⟨first, others, wroteFirst, wroteOthers, rfl⟩ :=
          (writesOfEntries_single marked single).mp wrote
        rcases List.mem_append.mp member with member | member
        · exact ((through_of_writesOf value wroteFirst).2 write member).front
        · exact through_of_writesOfEntries rest wroteOthers write member
      cases value with
      | sequence items =>
        obtain ⟨first, others, wroteFirst, wroteOthers, rfl⟩ :=
          (writesOfEntries_sequence marked).mp wrote
        intro write member
        rcases List.mem_append.mp member with member | member
        · exact through_of_writesOfItems items wroteFirst write member
        · exact through_of_writesOfEntries rest wroteOthers write member
      | _ => exact one Bool.false_ne_true

/-- So it is with items. -/
theorem through_of_writesOfItems (items : List Value) {steps : List Part} {key : String}
    {position : Nat} {writes : List Write}
    (wrote : writesOfItems steps key position items = .ok writes) :
    ∀ write ∈ writes, Through steps write := by
  cases items with
  | nil =>
    cases wrote
    exact List.forall_mem_nil _
  | cons item rest =>
    obtain ⟨first, others, wroteFirst, wroteOthers, rfl⟩ := writesOfItems_cons.mp wrote
    intro write member
    rcases List.mem_append.mp member with member | member
    · exact ((through_of_writesOf item wroteFirst).2 write member).front
    · exact through_of_writesOfItems rest wroteOthers write member

end

/-- The steps that lead to a value that is written can be written. -/
theorem print_of_writesOf {value : Value} {steps : List Part} {writes : List Write}
    (wrote : writesOf steps value = .ok writes) : ∃ path, print steps = .ok path := by
  obtain ⟨some, through⟩ := through_of_writesOf value wrote
  obtain ⟨write, member⟩ := List.exists_mem_of_ne_nil writes some
  obtain ⟨front, _, printed, _⟩ := through write member
  exact ⟨front, printed⟩

/-- The position of an item that is written has no more digits than are ever written. -/
theorem position_lt_of_writesOf {item : Value} {steps : List Part} {key : String} {position : Nat}
    {writes : List Write}
    (wrote : writesOf (steps ++ [.filtered key (.position position)]) item = .ok writes) :
    position < Decimal.integerLimit := by
  obtain ⟨path, printed⟩ := print_of_writesOf wrote
  obtain ⟨_, _, _, printedLast, _⟩ := print_append_eq_ok printed
  exact position_lt_of_print printedLast

/-! ## Values that are written -/

mutual

/-- A value that is written stands for an element. -/
theorem isNode_of_writesOf (value : Value) {steps : List Part} {writes : List Write}
    (wrote : writesOf steps value = .ok writes) : value.IsNode := by
  cases value with
  | scalar text => trivial
  | mapping entries =>
    obtain ⟨_, _, _, wroteChildren, _⟩ := writesOf_mapping_eq_ok wrote
    exact areNodes_of_writesOfEntries entries wroteChildren
  | _ => cases wrote

/-- Entries that are written stand for elements. -/
theorem areNodes_of_writesOfEntries (entries : List (String × Value)) {steps : List Part}
    {writes : List Write} (wrote : writesOfEntries steps entries = .ok writes) :
    EntriesAreNodes entries := by
  cases entries with
  | nil => trivial
  | cons entry rest =>
    obtain ⟨key, value⟩ := entry
    by_cases marked : marksAttribute key = true
    · rw [(entryEdits_marked value rest marked steps).1] at wrote
      exact (entriesAreNodes_marked marked).mpr (areNodes_of_writesOfEntries rest wrote)
    · have one : ¬value.isSequence = true → EntriesAreNodes ((key, value) :: rest) := by
        intro single
        obtain ⟨_, _, wroteFirst, wroteOthers, _⟩ := (writesOfEntries_single marked single).mp wrote
        exact (entriesAreNodes_single single).mpr
          ⟨.inr (isNode_of_writesOf value wroteFirst), areNodes_of_writesOfEntries rest wroteOthers⟩
      cases value with
      | sequence items =>
        obtain ⟨_, _, wroteFirst, wroteOthers, _⟩ := (writesOfEntries_sequence marked).mp wrote
        exact ⟨.inr (areNodes_of_writesOfItems items wroteFirst),
          areNodes_of_writesOfEntries rest wroteOthers⟩
      | _ => exact one Bool.false_ne_true

/-- Items that are written stand for elements. -/
theorem areNodes_of_writesOfItems (items : List Value) {steps : List Part} {key : String}
    {position : Nat} {writes : List Write}
    (wrote : writesOfItems steps key position items = .ok writes) : ItemsAreNodes items := by
  cases items with
  | nil => trivial
  | cons item rest =>
    obtain ⟨_, _, wroteFirst, wroteOthers, _⟩ := writesOfItems_cons.mp wrote
    exact ⟨isNode_of_writesOf item wroteFirst, areNodes_of_writesOfItems rest wroteOthers⟩

end

mutual

/-- In a value that is written each part has a path of its own, if its names are names without a
colon and its keys are different. -/
theorem addressable_of_writesOf (value : Value) (named : value.Throughout Named)
    (once : value.Throughout KeysOnce) (scalars : value.Throughout AttributesScalar)
    {steps : List Part} {writes : List Write} (wrote : writesOf steps value = .ok writes) :
    value.Addressable := by
  cases value with
  | mapping entries =>
    refine ⟨?_, once.1.elementsOf⟩
    rw [writesOf] at wrote
    split at wrote
    · next none =>
      obtain rfl := List.isEmpty_iff.mp none
      trivial
    · obtain ⟨_, _, wrote⟩ := bind_eq_ok.mp wrote
      obtain ⟨children, wroteChildren, _⟩ := bind_eq_ok.mp wrote
      exact addressable_of_writesOfEntries entries named.1 named.2 once.2 scalars.1 scalars.2
        wroteChildren
  | sequence items => cases wrote
  | _ => trivial

/-- So it is with entries that are written. -/
theorem addressable_of_writesOfEntries (entries : List (String × Value)) (names : Named entries)
    (named : EntriesThroughout Named entries) (once : EntriesThroughout KeysOnce entries)
    (scalar : AttributesScalar entries) (scalars : EntriesThroughout AttributesScalar entries)
    {steps : List Part} {writes : List Write}
    (wrote : writesOfEntries steps entries = .ok writes) : AddressableEntries entries := by
  cases entries with
  | nil => trivial
  | cons entry rest =>
    obtain ⟨key, value⟩ := entry
    obtain ⟨isName, othersNames⟩ := List.forall_mem_cons.mp names
    obtain ⟨isScalar, othersScalar⟩ := List.forall_mem_cons.mp scalar
    have others : ∀ {writes}, writesOfEntries steps rest = .ok writes → AddressableEntries rest :=
      addressable_of_writesOfEntries rest othersNames named.2 once.2 othersScalar scalars.2
    by_cases marked : marksAttribute key = true
    · rw [(entryEdits_marked value rest marked steps).1] at wrote
      have isScalar := isScalar marked
      cases value with
      | scalar text => exact ⟨isName, trivial, others wrote⟩
      | _ => cases isScalar
    · have one : ¬value.isSequence = true → AddressableEntries ((key, value) :: rest) := by
        intro single
        obtain ⟨_, _, wroteFirst, wroteOthers, _⟩ := (writesOfEntries_single marked single).mp wrote
        have first := addressable_of_writesOf value named.1 once.1 scalars.1 wroteFirst
        exact ⟨isName, first, others wroteOthers⟩
      cases value with
      | sequence items =>
        obtain ⟨_, _, wroteFirst, wroteOthers, _⟩ := (writesOfEntries_sequence marked).mp wrote
        obtain ⟨first, written⟩ :=
          addressable_of_writesOfItems items named.1 once.1 scalars.1 wroteFirst
        have short : items.length < Decimal.integerLimit := by
          cases items with
          | nil => exact length_decimalDigits_le_iff.mp (by decide)
          | cons item more =>
            exact Nat.lt_of_lt_of_le (by omega) (written (List.cons_ne_nil item more))
        exact ⟨isName, ⟨first, short⟩, others wroteOthers⟩
      | _ => exact one Bool.false_ne_true

/-- So it is with items that are written, and their positions have no more digits than are ever
written. -/
theorem addressable_of_writesOfItems (items : List Value) (named : ItemsThroughout Named items)
    (once : ItemsThroughout KeysOnce items) (scalars : ItemsThroughout AttributesScalar items)
    {steps : List Part} {key : String} {position : Nat} {writes : List Write}
    (wrote : writesOfItems steps key position items = .ok writes) :
    AddressableItems items ∧ (items ≠ [] → position + items.length ≤ Decimal.integerLimit) := by
  cases items with
  | nil => exact ⟨trivial, fun some => absurd rfl some⟩
  | cons item rest =>
    obtain ⟨_, _, wroteItem, wroteOthers, _⟩ := writesOfItems_cons.mp wrote
    have first := addressable_of_writesOf item named.1 once.1 scalars.1 wroteItem
    have here := position_lt_of_writesOf wroteItem
    obtain ⟨others, written⟩ :=
      addressable_of_writesOfItems rest named.2 once.2 scalars.2 wroteOthers
    refine ⟨⟨first, others⟩, fun _ => ?_⟩
    cases rest with
    | nil => exact here
    | cons next more =>
      have last := written (List.cons_ne_nil next more)
      simp only [List.length_cons] at last ⊢
      omega

end

end XmlGraft
