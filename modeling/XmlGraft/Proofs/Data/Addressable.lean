import XmlGraft.Proofs.Data.Entries
import XmlGraft.Proofs.Path.Spelling
import XmlGraft.Xml.Name

/-!
# Addressable values — values whose parts have paths

The path to a part of a structured value can be spelled if the keys on the way are names without a
colon and the positions have no more digits than are ever written (`Value.Spellable`). What holds
nothing needs no path: the key of a sequence without items may be anything. If moreover no two parts
have the same path, the value is *addressable*.

Neither says that the value stands for anything. A structured value may hold plain data that was
never wrapped; where it holds none, it stands for an element (`Value.IsNode`).
-/

namespace XmlGraft.Data

open Xml XmlGraft.Path

/-! ## Spellable values -/

/-- Whether a value stands for no element at all: a sequence without items. -/
def Value.isNothing : Value → Bool
  | .sequence [] => true
  | _ => false

mutual

/-- The path to each part of a structured value can be spelled. -/
def Value.Spellable : Value → Prop
  | .mapping entries => EntriesSpellable entries
  | .sequence items => ItemsSpellable items ∧ items.length < Decimal.integerLimit
  | _ => True

/-- The attributes have names without a colon, and so have the elements that entries stand for, and
whatever these hold. -/
def EntriesSpellable : List (String × Value) → Prop
  | [] => True
  | (key, value) :: rest =>
    (if marksAttribute key then isNCName (attributeName key) = true
      else value.isNothing = true ∨ isNCName key = true ∧ value.Spellable) ∧
      EntriesSpellable rest

/-- The path to each part of each item can be spelled. -/
def ItemsSpellable : List Value → Prop
  | [] => True
  | item :: rest => item.Spellable ∧ ItemsSpellable rest

end

/-- The paths to the parts of entries can be spelled if those to the parts of each can. -/
theorem entriesSpellable_iff {entries : List (String × Value)} :
    EntriesSpellable entries ↔ ∀ entry ∈ entries,
      if marksAttribute entry.1 then isNCName (attributeName entry.1) = true
      else entry.2.isNothing = true ∨ isNCName entry.1 = true ∧ entry.2.Spellable := by
  induction entries with
  | nil => exact iff_of_true trivial fun _ member => absurd member List.not_mem_nil
  | cons entry rest ih => rw [EntriesSpellable, ih, List.forall_mem_cons]

/-- So it is with items. -/
theorem itemsSpellable_iff {items : List Value} :
    ItemsSpellable items ↔ ∀ item ∈ items, item.Spellable := by
  induction items with
  | nil => exact iff_of_true trivial fun _ member => absurd member List.not_mem_nil
  | cons item rest ih => rw [ItemsSpellable, ih, List.forall_mem_cons]

/-- The paths to the parts of each entry can be spelled. -/
theorem EntriesSpellable.of_mem {entries : List (String × Value)}
    (spellable : EntriesSpellable entries) {entry : String × Value} (member : entry ∈ entries) :
    EntriesSpellable [entry] :=
  entriesSpellable_iff.mpr
    (List.forall_mem_singleton.mpr (entriesSpellable_iff.mp spellable entry member))

/-- The names of attribute entries are names without a colon. -/
theorem EntriesSpellable.attributesOf {entries : List (String × Value)}
    (spellable : EntriesSpellable entries) :
    ∀ a ∈ Value.attributesOf entries, isNCName a.1 = true := by
  rintro ⟨_, value⟩ member
  obtain ⟨key, inEntries, marked, rfl⟩ := Value.mem_attributesOf.mp member
  have here := entriesSpellable_iff.mp spellable _ inEntries
  rw [if_pos marked] at here
  exact here

/-- An entry for a sequence has a name if there are items, and the paths to these can be spelled. -/
theorem EntriesSpellable.sequence {key : String} {items : List Value}
    {rest : List (String × Value)} (spellable : EntriesSpellable ((key, .sequence items) :: rest))
    (unmarked : ¬marksAttribute key = true) :
    (items ≠ [] → isNCName key = true) ∧ ItemsSpellable items ∧
      items.length < Decimal.integerLimit := by
  obtain ⟨here, _⟩ := spellable
  rw [if_neg unmarked] at here
  cases items with
  | nil =>
    exact ⟨fun some => absurd rfl some, trivial, length_decimalDigits_le_iff.mp (by decide)⟩
  | cons item rest =>
    rcases here with nothing | ⟨isName, inside⟩
    · cases nothing
    · exact ⟨fun _ => isName, inside⟩

/-- An entry that is no sequence has a name, and the paths to its parts can be spelled. -/
theorem EntriesSpellable.single {key : String} {value : Value} {rest : List (String × Value)}
    (spellable : EntriesSpellable ((key, value) :: rest)) (unmarked : ¬marksAttribute key = true)
    (single : ¬value.isSequence = true) : isNCName key = true ∧ value.Spellable := by
  obtain ⟨here, _⟩ := spellable
  rw [if_neg unmarked] at here
  rcases here with nothing | here
  · cases value with
    | sequence items => exact absurd rfl single
    | _ => cases nothing
  · exact here

/-! ## Addressable values -/

mutual

/-- Each part of a structured value has a path of its own. -/
def Value.Addressable : Value → Prop
  | .mapping entries =>
    AddressableEntries entries ∧ ((Value.elementsOf entries).map (·.1)).Nodup
  | .sequence items => AddressableItems items ∧ items.length < Decimal.integerLimit
  | _ => True

/-- The entries have names without a colon, and so has whatever they hold. -/
def AddressableEntries : List (String × Value) → Prop
  | [] => True
  | (key, value) :: rest =>
    isNCName (entryName key) = true ∧ value.Addressable ∧ AddressableEntries rest

/-- Each part of each item has a path of its own. -/
def AddressableItems : List Value → Prop
  | [] => True
  | item :: rest => item.Addressable ∧ AddressableItems rest

end

mutual

/-- What has a path of its own has a path that can be spelled. -/
theorem Value.Addressable.spellable (value : Value) (addressable : value.Addressable) :
    value.Spellable := by
  cases value with
  | mapping entries => exact AddressableEntries.spellable entries addressable.1
  | sequence items => exact ⟨AddressableItems.spellable items addressable.1, addressable.2⟩
  | _ => trivial

/-- So it is with entries. -/
theorem AddressableEntries.spellable (entries : List (String × Value))
    (addressable : AddressableEntries entries) : EntriesSpellable entries := by
  cases entries with
  | nil => trivial
  | cons entry rest =>
    obtain ⟨key, value⟩ := entry
    obtain ⟨isName, inside, others⟩ := addressable
    refine ⟨?_, AddressableEntries.spellable rest others⟩
    by_cases marked : marksAttribute key = true
    · rw [entryName, if_pos marked] at isName
      rw [if_pos marked]
      exact isName
    · rw [entryName, if_neg marked] at isName
      rw [if_neg marked]
      exact .inr ⟨isName, Value.Addressable.spellable value inside⟩

/-- So it is with items. -/
theorem AddressableItems.spellable (items : List Value) (addressable : AddressableItems items) :
    ItemsSpellable items := by
  cases items with
  | nil => trivial
  | cons item rest =>
    exact ⟨Value.Addressable.spellable item addressable.1,
      AddressableItems.spellable rest addressable.2⟩

end

/-- The names of attribute entries are names without a colon. -/
theorem AddressableEntries.attributesOf {entries : List (String × Value)}
    (addressable : AddressableEntries entries) :
    ∀ a ∈ Value.attributesOf entries, isNCName a.1 = true :=
  (addressable.spellable entries).attributesOf

/-! ## Values that stand for elements -/

mutual

/-- A value stands for one element: a scalar does, and a mapping if its entries stand for elements.
-/
def Value.IsNode : Value → Prop
  | .scalar _ => True
  | .mapping entries => EntriesAreNodes entries
  | _ => False

/-- Each element entry stands for one element, or for as many as it has items. -/
def EntriesAreNodes : List (String × Value) → Prop
  | [] => True
  | (key, .sequence items) :: rest =>
    (marksAttribute key = true ∨ ItemsAreNodes items) ∧ EntriesAreNodes rest
  | (key, value) :: rest => (marksAttribute key = true ∨ value.IsNode) ∧ EntriesAreNodes rest

/-- Each item stands for one element. -/
def ItemsAreNodes : List Value → Prop
  | [] => True
  | item :: rest => item.IsNode ∧ ItemsAreNodes rest

end

/-- An entry that is no sequence stands for one element, if it is no attribute. -/
theorem entriesAreNodes_single {key : String} {value : Value} {rest : List (String × Value)}
    (single : ¬value.isSequence = true) :
    EntriesAreNodes ((key, value) :: rest) ↔
      (marksAttribute key = true ∨ value.IsNode) ∧ EntriesAreNodes rest := by
  cases value with
  | sequence items => exact absurd rfl single
  | _ => exact Iff.rfl

/-- An attribute entry may hold anything. -/
theorem entriesAreNodes_marked {key : String} {value : Value} {rest : List (String × Value)}
    (marked : marksAttribute key = true) :
    EntriesAreNodes ((key, value) :: rest) ↔ EntriesAreNodes rest := by
  cases value with
  | _ => exact ⟨And.right, fun others => ⟨.inl marked, others⟩⟩

end XmlGraft.Data
