import XmlGraft.Data.Show
import XmlGraft.Proofs.Outcome

/-!
# Showing values — what it takes to show a value

A value is shown unless it holds an integer with more digits than are ever written, and that is the
only fault of showing one (`Value.fault_of_display`). Plain data whose integers can be written is
always shown (`Value.Plain.display`), and so it is with the text that a scalar takes from it.
-/

namespace XmlGraft.Data

mutual

/-- Plain data all through, keys included, with integers that can be written. -/
def Value.Plain : Value → Prop
  | .int i => i.natAbs < Decimal.integerLimit
  | .list items | .tuple items => PlainItems items
  | .dict entries => PlainEntries entries
  | .scalar _ | .mapping _ | .sequence _ => False
  | _ => True

/-- Items that are plain data. -/
def PlainItems : List Value → Prop
  | [] => True
  | item :: rest => item.Plain ∧ PlainItems rest

/-- Keys and values that are plain data. -/
def PlainEntries : List (Value × Value) → Prop
  | [] => True
  | (key, value) :: rest => (key.Plain ∧ value.Plain) ∧ PlainEntries rest

end

/-- An integer is shown unless it has too many digits. -/
theorem showInteger_of_lt {i : Int} (short : i.natAbs < Decimal.integerLimit) :
    ∃ text, showInteger i = .ok text := by
  obtain ⟨digits, written⟩ : ∃ digits, Decimal.integer? i = some digits := by
    rw [Decimal.integer?, if_pos short]
    exact ⟨_, rfl⟩
  refine ⟨digits, ?_⟩
  unfold showInteger
  rw [written]

/-- Showing an integer fails for nothing but its digits. -/
theorem fault_of_showInteger {i : Int} {fault : Fault} (refused : showInteger i = .error fault) :
    fault = .longInteger := by
  unfold showInteger at refused
  split at refused
  · cases refused
  · exact (Except.error.inj refused).symm

mutual

/-- Showing a value fails for nothing but an integer with too many digits. -/
theorem Value.fault_of_display (value : Value) {fault : Fault}
    (refused : value.display = .error fault) : fault = .longInteger := by
  cases value with
  | int i =>
    rw [Value.display] at refused
    exact fault_of_showInteger refused
  | list items => exact fault_of_showItems items (map_eq_error.mp refused)
  | tuple items => exact fault_of_showItems items (map_eq_error.mp refused)
  | dict entries => exact fault_of_showEntries entries (map_eq_error.mp refused)
  | _ => cases refused

/-- So it is with items. -/
theorem fault_of_showItems (items : List Value) {fault : Fault}
    (refused : showItems items = .error fault) : fault = .longInteger := by
  cases items with
  | nil => cases refused
  | cons item rest =>
    rcases bind_eq_error.mp refused with first | ⟨_, _, refused⟩
    · exact Value.fault_of_display item first
    · rcases bind_eq_error.mp refused with others | ⟨_, _, none⟩
      · exact fault_of_showItems rest others
      · cases none

/-- So it is with entries. -/
theorem fault_of_showEntries (entries : List (Value × Value)) {fault : Fault}
    (refused : showEntries entries = .error fault) : fault = .longInteger := by
  cases entries with
  | nil => cases refused
  | cons entry rest =>
    obtain ⟨key, item⟩ := entry
    rcases bind_eq_error.mp refused with first | ⟨_, _, refused⟩
    · exact Value.fault_of_display key first
    · rcases bind_eq_error.mp refused with second | ⟨_, _, refused⟩
      · exact Value.fault_of_display item second
      · rcases bind_eq_error.mp refused with others | ⟨_, _, none⟩
        · exact fault_of_showEntries rest others
        · cases none

end

mutual

/-- Plain data is shown. -/
theorem Value.Plain.display (value : Value) (plain : value.Plain) :
    ∃ text, value.display = .ok text := by
  cases value with
  | int i =>
    rw [Value.display]
    exact showInteger_of_lt plain
  | list items =>
    obtain ⟨texts, shown⟩ := PlainItems.showItems items plain
    exact ⟨_, map_eq_ok.mpr ⟨texts, shown, rfl⟩⟩
  | tuple items =>
    obtain ⟨texts, shown⟩ := PlainItems.showItems items plain
    exact ⟨_, map_eq_ok.mpr ⟨texts, shown, rfl⟩⟩
  | dict entries =>
    obtain ⟨texts, shown⟩ := PlainEntries.showEntries entries plain
    exact ⟨_, map_eq_ok.mpr ⟨texts, shown, rfl⟩⟩
  | scalar text => exact plain.elim
  | mapping entries => exact plain.elim
  | sequence items => exact plain.elim
  | _ => exact ⟨_, rfl⟩

/-- So are items. -/
theorem PlainItems.showItems (items : List Value) (plain : PlainItems items) :
    ∃ texts, showItems items = .ok texts := by
  cases items with
  | nil => exact ⟨[], rfl⟩
  | cons item rest =>
    obtain ⟨first, shown⟩ := Value.Plain.display item plain.1
    obtain ⟨others, shownOthers⟩ := PlainItems.showItems rest plain.2
    refine ⟨first :: others, ?_⟩
    rw [XmlGraft.Data.showItems, shown, ok_bind, shownOthers]
    rfl

/-- So are entries. -/
theorem PlainEntries.showEntries (entries : List (Value × Value)) (plain : PlainEntries entries) :
    ∃ texts, showEntries entries = .ok texts := by
  cases entries with
  | nil => exact ⟨[], rfl⟩
  | cons entry rest =>
    obtain ⟨key, item⟩ := entry
    obtain ⟨⟨plainKey, plainItem⟩, plainRest⟩ := plain
    obtain ⟨shownKey, showsKey⟩ := Value.Plain.display key plainKey
    obtain ⟨shownItem, showsItem⟩ := Value.Plain.display item plainItem
    obtain ⟨others, shownOthers⟩ := PlainEntries.showEntries rest plainRest
    refine ⟨(shownKey ++ ": " ++ shownItem) :: others, ?_⟩
    rw [XmlGraft.Data.showEntries, showsKey, ok_bind, showsItem, ok_bind, shownOthers]
    rfl

end

/-- Spelling a value as a text fails for nothing but an integer with too many digits. -/
theorem Value.fault_of_spell {value : Value} {fault : Fault}
    (refused : value.spell = .error fault) : fault = .longInteger := by
  cases value with
  | text s => cases refused
  | _ => exact Value.fault_of_display _ refused

/-- A scalar takes a text from plain data. -/
theorem Value.Plain.scalarText {value : Value} (plain : value.Plain) :
    ∃ text, value.scalarText = .ok text := by
  cases value with
  | null => exact ⟨"", rfl⟩
  | text s => exact ⟨s, rfl⟩
  | _ => exact Value.Plain.display _ plain

end XmlGraft.Data
