import XmlGraft.Data.Value

/-!
# Entries of a mapping — attributes and elements apart

The attribute entries and the element entries of a mapping are taken apart entry by entry, each kind
in order. A key that names an attribute is the name behind a mark.
-/

namespace XmlGraft.Data

/-- The name that an entry gives to an attribute or to elements. -/
def entryName (key : String) : String := if marksAttribute key then attributeName key else key

/-- An attribute key is its mark and the name of the attribute. -/
theorem mark_attributeName {key : String} (marked : marksAttribute key = true) :
    "@" ++ attributeName key = key := by
  rw [marksAttribute, beq_iff_eq] at marked
  cases spelled : key.toList with
  | nil =>
    rw [spelled] at marked
    cases marked
  | cons c rest =>
    rw [spelled] at marked
    cases marked
    rw [← String.toList_inj, String.toList_append, attributeName, spelled, String.toList_ofList,
      String.toList_ofList]
    rfl

/-- The mark and a name are an attribute key. -/
theorem marksAttribute_mark (name : String) : marksAttribute ("@" ++ name) = true := by
  rw [marksAttribute, String.toList_append]
  rfl

/-- The mark and a name are the key of the attribute with the name. -/
theorem attributeName_mark (name : String) : attributeName ("@" ++ name) = name := by
  rw [attributeName, String.toList_append]
  exact String.ofList_toList

namespace Value

variable {key : String} {value : Value} {rest : List (String × Value)}

theorem attributesOf_marked (marked : marksAttribute key = true) :
    attributesOf ((key, value) :: rest) = (attributeName key, value) :: attributesOf rest := by
  have kept : ((key, value) :: rest).filter (fun entry => marksAttribute entry.1) =
      (key, value) :: rest.filter fun entry => marksAttribute entry.1 :=
    List.filter_cons_of_pos marked
  rw [attributesOf, kept]
  rfl

theorem attributesOf_unmarked (unmarked : ¬marksAttribute key = true) :
    attributesOf ((key, value) :: rest) = attributesOf rest := by
  have dropped : ((key, value) :: rest).filter (fun entry => marksAttribute entry.1) =
      rest.filter fun entry => marksAttribute entry.1 :=
    List.filter_cons_of_neg unmarked
  rw [attributesOf, dropped]
  rfl

/-- An attribute of a mapping is an entry under its key. -/
theorem mem_attributesOf {entries : List (String × Value)} {name : String} {value : Value} :
    (name, value) ∈ attributesOf entries ↔
      ∃ key, (key, value) ∈ entries ∧ marksAttribute key = true ∧ attributeName key = name := by
  rw [attributesOf, List.mem_map]
  constructor
  · rintro ⟨⟨key, value⟩, kept, same⟩
    cases same
    obtain ⟨member, marked⟩ := List.mem_filter.mp kept
    exact ⟨key, member, marked, rfl⟩
  · rintro ⟨key, member, marked, rfl⟩
    exact ⟨(key, value), List.mem_filter.mpr ⟨member, marked⟩, rfl⟩

theorem elementsOf_marked (marked : marksAttribute key = true) :
    elementsOf ((key, value) :: rest) = elementsOf rest := by
  refine List.filter_cons_of_neg ?_
  rw [marked]
  exact Bool.false_ne_true

theorem elementsOf_unmarked (unmarked : ¬marksAttribute key = true) :
    elementsOf ((key, value) :: rest) = (key, value) :: elementsOf rest := by
  refine List.filter_cons_of_pos ?_
  rw [Bool.not_eq_true] at unmarked
  rw [unmarked]
  rfl

end Value

end XmlGraft.Data
