import XmlGraft.Data.Equality

/-!
# Mentions — what keys a value has at any depth

A value mentions a key that one of the dictionaries in it has. Equal values mention the same keys
(`Value.Mentions.same`), whatever the order of their entries, so two values are not equal if one of
them mentions a key and the other does not.
-/

namespace XmlGraft.Data

/-- Some dictionary in a value has a key. -/
inductive Value.Mentions (key : String) : Value → Prop
  | here {entries : List (Value × Value)} {value : Value} :
      (.text key, value) ∈ entries → Mentions key (.dict entries)
  | entry {entries : List (Value × Value)} {other value : Value} :
      (other, value) ∈ entries → Mentions key value → Mentions key (.dict entries)
  | item {items : List Value} {value : Value} :
      value ∈ items → Mentions key value → Mentions key (.list items)

/-- A dictionary mentions its keys and what its values mention. -/
theorem mentions_dict {key : String} {entries : List (Value × Value)} :
    (Value.dict entries).Mentions key ↔
      ∃ entry ∈ entries, entry.1 = .text key ∨ entry.2.Mentions key := by
  constructor
  · intro mentions
    cases mentions with
    | here member => exact ⟨_, member, .inl rfl⟩
    | entry member inside => exact ⟨_, member, .inr inside⟩
  · rintro ⟨⟨other, value⟩, member, rfl | inside⟩
    · exact .here member
    · exact .entry member inside

/-- A text mentions nothing. -/
theorem not_mentions_text {key s : String} : ¬(Value.text s).Mentions key := by
  intro mentions
  cases mentions

/-- Only a text equals a text. -/
theorem eq_of_same_text {s : String} {v : Value} (same : (Value.text s).same v = true) :
    v = .text s := by
  cases v with
  | text t => exact congrArg Value.text (beq_iff_eq.mp same).symm
  | _ => cases same

/-- Only a list equals a list, and it does item by item. -/
theorem items_of_same_list {xs : List Value} {v : Value} (same : (Value.list xs).same v = true) :
    ∃ ys, v = .list ys ∧ ∀ x ∈ xs, ∃ y ∈ ys, x.same y = true := by
  cases v with
  | list ys =>
    refine ⟨ys, rfl, ?_⟩
    replace same : sameItems xs ys = true := same
    induction xs generalizing ys with
    | nil => exact fun _ member => absurd member List.not_mem_nil
    | cons x xs ih =>
      cases ys with
      | nil => cases same
      | cons y ys =>
        obtain ⟨first, others⟩ := Bool.and_eq_true_iff.mp same
        refine List.forall_mem_cons.mpr ⟨⟨y, List.mem_cons_self, first⟩, fun z member => ?_⟩
        obtain ⟨w, inside, equal⟩ := ih ys others z member
        exact ⟨w, List.mem_cons_of_mem y inside, equal⟩
  | _ => cases same

/-- Only a dictionary equals a dictionary, and it has an equal entry for each. -/
theorem entries_of_same_dict {xs : List (Value × Value)} {v : Value}
    (same : (Value.dict xs).same v = true) :
    ∃ ys, v = .dict ys ∧ ∀ x ∈ xs, ∃ y ∈ ys, x.1.same y.1 = true ∧ x.2.same y.2 = true := by
  cases v with
  | dict ys =>
    refine ⟨ys, rfl, ?_⟩
    replace same : sameEntries xs ys = true := (Bool.and_eq_true_iff.mp same).2
    induction xs with
    | nil => exact fun _ member => absurd member List.not_mem_nil
    | cons x xs ih =>
      obtain ⟨first, others⟩ := Bool.and_eq_true_iff.mp same
      refine List.forall_mem_cons.mpr ⟨?_, ih others⟩
      cases found : ys.find? fun y => x.1.same y.1 with
      | none =>
        rw [found] at first
        cases first
      | some y =>
        rw [found] at first
        have sameKey : x.1.same y.1 = true :=
          List.find?_some (p := fun y : Value × Value => x.1.same y.1) found
        exact ⟨y, List.mem_of_find?_eq_some found, sameKey, first⟩
  | _ => cases same

/-- Equal values mention the same keys. -/
theorem Value.Mentions.same {key : String} {v w : Value} (mentions : v.Mentions key)
    (equal : v.same w = true) : w.Mentions key := by
  induction mentions generalizing w with
  | here member =>
    obtain ⟨ys, rfl, found⟩ := entries_of_same_dict equal
    obtain ⟨⟨k, value⟩, inside, sameKey, _⟩ := found _ member
    obtain rfl := eq_of_same_text sameKey
    exact .here inside
  | entry member _ ih =>
    obtain ⟨ys, rfl, found⟩ := entries_of_same_dict equal
    obtain ⟨⟨k, value⟩, inside, _, sameValue⟩ := found _ member
    exact .entry inside (ih sameValue)
  | item member _ ih =>
    obtain ⟨ys, rfl, found⟩ := items_of_same_list equal
    obtain ⟨y, inside, sameItem⟩ := found _ member
    exact .item inside (ih sameItem)

end XmlGraft.Data
