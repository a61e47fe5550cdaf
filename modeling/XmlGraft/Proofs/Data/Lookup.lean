import XmlGraft.Proofs.Data.Grouping

/-!
# Look-up — data read entry by entry

A dictionary is looked up by a text (`Value.entryAt?`), and what stands there is one item or a list
of items (`Value.items`). Entries are looked up one after the other (`get?_append`), and values that
were grouped are found under their keys, all of them and in order (`get?_grouped`).
-/

namespace XmlGraft.Data

/-- The value under a text in a dictionary. -/
def Value.entryAt? (key : String) : Value → Option Value
  | .dict entries => Entries.get? (.text key) entries
  | _ => none

/-- The dictionary of values under texts. -/
def Value.record (pairs : List (String × Value)) : Value :=
  .dict (pairs.map fun pair => (.text pair.1, pair.2))

/-- The items of a value: those of a list, and else the value alone. -/
def Value.items : Value → List Value
  | .list items => items
  | other => [other]

section

variable {α β : Type _}

/-- A key that the first entries do not have is looked up among the others. -/
theorem get?_append [BEq α] (key : α) (first second : List (α × β)) :
    Entries.get? key (first ++ second) =
      (Entries.get? key first).or (Entries.get? key second) := by
  induction first with
  | nil => rfl
  | cons entry rest ih =>
    rw [List.cons_append, Entries.get?, Entries.get?, ih]
    split <;> rfl

/-- A key is looked up among values that are made from others. -/
theorem get?_map_values {γ : Type _} [BEq α] (f : β → γ) (key : α) (pairs : List (α × β)) :
    Entries.get? key (pairs.map fun pair => (pair.1, f pair.2)) =
      (Entries.get? key pairs).map f := by
  induction pairs with
  | nil => rfl
  | cons pair rest ih =>
    rw [List.map_cons, Entries.get?, Entries.get?, ih]
    split <;> rfl

/-- A key finds the first value that it stands with. -/
theorem get?_eq_find? (key : String) (pairs : List (String × α)) :
    Entries.get? key pairs = (pairs.find? fun pair => pair.1 == key).map (·.2) := by
  induction pairs with
  | nil => rfl
  | cons pair rest ih =>
    rw [Entries.get?, ih, List.find?_cons]
    cases pair.1 == key <;> rfl

/-- Values that were grouped are found under their key. -/
theorem get?_grouped (key : String) (pairs : List (String × α)) :
    Entries.get? key (grouped pairs) =
      if valuesOf key pairs = [] then none else some (valuesOf key pairs) := by
  have occurs : key ∈ (pairs.map (·.1)).eraseDups ↔ valuesOf key pairs ≠ [] := by
    rw [List.mem_eraseDups]
    refine ⟨fun member none => ?_, fun found => Decidable.not_not.mp (mt valuesOf_of_not_mem found)⟩
    obtain ⟨pair, inPairs, rfl⟩ := List.mem_map.mp member
    have value := mem_valuesOf.mpr inPairs
    rw [none] at value
    cases value
  rw [grouped_eq_gather, gather, get?_map]
  split
  · next member => rw [if_neg (occurs.mp member)]
  · next absent => rw [if_pos (Decidable.not_not.mp (mt occurs.mpr absent))]

end

/-- A text is looked up in a dictionary under texts as the key that it is. -/
theorem entryAt?_record (key : String) (pairs : List (String × Value)) :
    (Value.record pairs).entryAt? key = Entries.get? key pairs := by
  rw [Value.record, Value.entryAt?]
  induction pairs with
  | nil => rfl
  | cons pair rest ih =>
    obtain ⟨other, value⟩ := pair
    rw [List.map_cons, Entries.get?, Entries.get?, ih]
    show (if (other == key) = true then _ else _) = _
    split <;> rfl

/-- The items of a group are its values, none of which is a list. -/
theorem items_groupValue {values : List Value} (single : ∀ value ∈ values, value.items = [value])
    (some : values ≠ []) : (groupValue values).items = values := by
  unfold groupValue
  split
  · next only => exact single only List.mem_cons_self
  · rfl

end XmlGraft.Data
