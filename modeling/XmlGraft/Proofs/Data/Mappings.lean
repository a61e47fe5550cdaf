import Mathlib.Data.List.Nodup
import XmlGraft.Proofs.Data.Entries
import XmlGraft.Xml.Name

/-!
# Mappings — what holds of every mapping in a value

Conditions on the names in structured data are conditions on the entries of each mapping in it, at
whatever depth (`Value.Throughout`). The program itself sees to one of them: an attribute entry
holds a scalar.
-/

namespace XmlGraft.Data

open Xml

mutual

/-- The entries of every mapping in a structured value satisfy a condition. -/
def Value.Throughout (p : List (String × Value) → Prop) : Value → Prop
  | .mapping entries => p entries ∧ EntriesThroughout p entries
  | .sequence items => ItemsThroughout p items
  | _ => True

/-- So do those of every mapping in the values of some entries. -/
def EntriesThroughout (p : List (String × Value) → Prop) : List (String × Value) → Prop
  | [] => True
  | (_, value) :: rest => value.Throughout p ∧ EntriesThroughout p rest

/-- So do those of every mapping in some items. -/
def ItemsThroughout (p : List (String × Value) → Prop) : List Value → Prop
  | [] => True
  | item :: rest => item.Throughout p ∧ ItemsThroughout p rest

end

mutual

/-- What the entries of every mapping satisfy implies what they satisfy besides. -/
theorem Value.Throughout.imp {p q : List (String × Value) → Prop} (implies : ∀ entries, p entries →
    q entries) (value : Value) (throughout : value.Throughout p) : value.Throughout q := by
  cases value with
  | mapping entries =>
    exact ⟨implies entries throughout.1, EntriesThroughout.imp implies entries throughout.2⟩
  | sequence items => exact ItemsThroughout.imp implies items throughout
  | _ => trivial

/-- So it is with the values of some entries. -/
theorem EntriesThroughout.imp {p q : List (String × Value) → Prop} (implies : ∀ entries,
    p entries → q entries) (entries : List (String × Value))
    (throughout : EntriesThroughout p entries) : EntriesThroughout q entries := by
  cases entries with
  | nil => trivial
  | cons entry rest =>
    exact ⟨Value.Throughout.imp implies entry.2 throughout.1,
      EntriesThroughout.imp implies rest throughout.2⟩

/-- So it is with some items. -/
theorem ItemsThroughout.imp {p q : List (String × Value) → Prop} (implies : ∀ entries,
    p entries → q entries) (items : List Value) (throughout : ItemsThroughout p items) :
    ItemsThroughout q items := by
  cases items with
  | nil => trivial
  | cons item rest =>
    exact ⟨Value.Throughout.imp implies item throughout.1,
      ItemsThroughout.imp implies rest throughout.2⟩

end

mutual

/-- What all entries satisfy those of every mapping satisfy. -/
theorem Value.throughout_of_forall {p : List (String × Value) → Prop} (all : ∀ entries, p entries)
    (value : Value) : value.Throughout p := by
  cases value with
  | mapping entries => exact ⟨all entries, entriesThroughout_of_forall all entries⟩
  | sequence items => exact itemsThroughout_of_forall all items
  | _ => trivial

/-- So it is with the values of some entries. -/
theorem entriesThroughout_of_forall {p : List (String × Value) → Prop}
    (all : ∀ entries, p entries) (entries : List (String × Value)) :
    EntriesThroughout p entries := by
  cases entries with
  | nil => trivial
  | cons entry rest =>
    exact ⟨Value.throughout_of_forall all entry.2, entriesThroughout_of_forall all rest⟩

/-- So it is with some items. -/
theorem itemsThroughout_of_forall {p : List (String × Value) → Prop} (all : ∀ entries, p entries)
    (items : List Value) : ItemsThroughout p items := by
  cases items with
  | nil => trivial
  | cons item rest =>
    exact ⟨Value.throughout_of_forall all item, itemsThroughout_of_forall all rest⟩

end

/-- The names of attributes and elements are names without a colon. -/
def Named (entries : List (String × Value)) : Prop :=
  ∀ entry ∈ entries, isNCName (entryName entry.1) = true

/-- No key is there twice. -/
def KeysOnce (entries : List (String × Value)) : Prop := (entries.map (·.1)).Nodup

/-- Attribute entries hold scalars. -/
def AttributesScalar (entries : List (String × Value)) : Prop :=
  ∀ entry ∈ entries, marksAttribute entry.1 = true → entry.2.isScalar = true

instance (entries : List (String × Value)) : Decidable (Named entries) :=
  inferInstanceAs (Decidable (∀ entry ∈ entries, isNCName (entryName entry.1) = true))

instance (entries : List (String × Value)) : Decidable (KeysOnce entries) :=
  inferInstanceAs (Decidable (entries.map (·.1)).Nodup)

instance (entries : List (String × Value)) : Decidable (AttributesScalar entries) :=
  inferInstanceAs
    (Decidable (∀ entry ∈ entries, marksAttribute entry.1 = true → entry.2.isScalar = true))

/-- Different keys of attribute entries name different attributes. -/
theorem KeysOnce.attributesOf {entries : List (String × Value)} (once : KeysOnce entries) :
    ((Value.attributesOf entries).map (·.1)).Nodup := by
  have marked : ((entries.filter fun entry => marksAttribute entry.1).map (·.1)).Nodup :=
    once.sublist (List.filter_sublist.map _)
  have names : (Value.attributesOf entries).map (·.1) =
      ((entries.filter fun entry => marksAttribute entry.1).map (·.1)).map attributeName := by
    rw [Value.attributesOf, List.map_map, List.map_map]
    rfl
  have isMarked : ∀ key ∈ (entries.filter fun entry => marksAttribute entry.1).map (·.1),
      marksAttribute key = true := by
    intro key member
    obtain ⟨entry, kept, rfl⟩ := List.mem_map.mp member
    exact (List.mem_filter.mp kept).2
  rw [names]
  refine marked.map_on ?_
  intro key member other otherMember same
  rw [← mark_attributeName (isMarked key member), same,
    mark_attributeName (isMarked other otherMember)]

/-- The keys of element entries are different. -/
theorem KeysOnce.elementsOf {entries : List (String × Value)} (once : KeysOnce entries) :
    ((Value.elementsOf entries).map (·.1)).Nodup :=
  once.sublist (List.filter_sublist.map _)

end XmlGraft.Data
