import Mathlib.Data.List.Forall2
import Mathlib.Data.List.Perm.Subperm
import XmlGraft.Proofs.Data.Lookup
import XmlGraft.Proofs.Data.Mentions
import XmlGraft.Proofs.Data.Tidy

/-!
# Comparison — when lists and dictionaries are the same data

Lists are the same item by item (`sameItems_iff`), and so are groups of values, whether or not a
value is alone in its group (`same_groupValue_iff`): a lone value is no list, and therefore never
taken for one. Dictionaries under different texts are the same if every text finds the same data in
both, or nothing in both (`same_record_iff`). The order of their entries does not matter, since a
look-up does not depend on it.
-/

namespace XmlGraft.Data

/-- Two values are the same data. -/
def Value.Agrees (v w : Value) : Prop := v.same w = true

/-! ## Lists -/

/-- Lists hold the same data item by item. -/
theorem sameItems_iff {xs ys : List Value} :
    sameItems xs ys = true ↔ List.Forall₂ Value.Agrees xs ys := by
  induction xs generalizing ys with
  | nil =>
    cases ys with
    | nil => exact iff_of_true rfl .nil
    | cons y ys => exact iff_of_false Bool.false_ne_true nofun
  | cons x xs ih =>
    cases ys with
    | nil => exact iff_of_false Bool.false_ne_true nofun
    | cons y ys => rw [sameItems, Bool.and_eq_true, ih, List.forall₂_cons, Value.Agrees]

/-- Lists are related alike, item by item, by relations that agree on their items. -/
theorem forall₂_congr_of_mem {α β : Type _} {r s : α → β → Prop} {xs : List α} {ys : List β}
    (same : ∀ x ∈ xs, ∀ y ∈ ys, (r x y ↔ s x y)) : List.Forall₂ r xs ys ↔ List.Forall₂ s xs ys := by
  rw [List.forall₂_iff_get, List.forall₂_iff_get]
  refine and_congr_right fun _ => forall₃_congr fun i inFirst inSecond => ?_
  exact same _ (List.get_mem xs _) _ (List.get_mem ys _)

/-- A value that is one item is no list. -/
theorem ne_list_of_items {v : Value} (single : v.items = [v]) (items : List Value) :
    v ≠ .list items := by
  rintro rfl
  have same : items = [.list items] := single
  have size := congrArg sizeOf same
  simp at size
  omega

/-- A lone value that is one item is not the same as a list. -/
theorem not_agrees_list {v : Value} (single : v.items = [v]) (items : List Value) :
    ¬v.Agrees (.list items) ∧ ¬Value.Agrees (.list items) v := by
  have isNone := ne_list_of_items single
  constructor
  · intro same
    cases v with
    | list others => exact isNone others rfl
    | float x => exact absurd same Bool.false_ne_true
    | _ => cases same
  · intro same
    obtain ⟨others, isList, _⟩ := items_of_same_list same
    exact isNone others isList

/-- Groups of values that are no lists are the same if their values are, one by one. -/
theorem same_groupValue_iff {xs ys : List Value} (single₁ : ∀ v ∈ xs, v.items = [v])
    (single₂ : ∀ v ∈ ys, v.items = [v]) (some₁ : xs ≠ []) (some₂ : ys ≠ []) :
    (groupValue xs).Agrees (groupValue ys) ↔ List.Forall₂ Value.Agrees xs ys := by
  match xs, ys, some₁, some₂ with
  | [x], [y], _, _ =>
    rw [List.forall₂_cons, and_iff_left .nil]
    rfl
  | [x], y :: next :: ys, _, _ =>
    refine iff_of_false (not_agrees_list (single₁ x List.mem_cons_self) _).1 ?_
    exact fun both => nomatch both.length_eq
  | x :: next :: xs, [y], _, _ =>
    refine iff_of_false (not_agrees_list (single₂ y List.mem_cons_self) _).2 ?_
    exact fun both => nomatch both.length_eq
  | x :: next :: xs, y :: other :: ys, _, _ => exact sameItems_iff

/-! ## Dictionaries -/

section

variable {α : Type _} {pairs : List (String × α)}

/-- Among different keys, a key finds the value that it stands with. -/
theorem get?_eq_some_iff (once : (pairs.map (·.1)).Nodup) {key : String} {value : α} :
    Entries.get? key pairs = some value ↔ (key, value) ∈ pairs := by
  induction pairs with
  | nil => exact iff_of_false nofun List.not_mem_nil
  | cons pair rest ih =>
    obtain ⟨notAgain, onceRest⟩ := List.nodup_cons.mp once
    obtain ⟨other, first⟩ := pair
    rw [Entries.get?, List.mem_cons, ← ih onceRest]
    by_cases same : other = key
    · subst same
      have absent : Entries.get? other rest ≠ some value := fun found =>
        notAgain (List.mem_map_of_mem (f := (·.1)) ((ih onceRest).mp found))
      rw [if_pos (beq_self_eq_true other), or_iff_left absent, Option.some_inj, Prod.mk.injEq]
      exact ⟨fun same => ⟨rfl, same.symm⟩, fun same => same.2.symm⟩
    · rw [if_neg (mt beq_iff_eq.mp same), or_iff_right]
      exact fun equal => same (congrArg Prod.fst equal).symm

/-- A key finds nothing where it does not stand. -/
theorem get?_eq_none_iff {key : String} :
    Entries.get? key pairs = none ↔ key ∉ pairs.map (·.1) := by
  rw [get?_eq_find?, Option.map_eq_none_iff, List.find?_eq_none, List.mem_map, not_exists]
  exact forall_congr' fun pair => by rw [beq_iff_eq, not_and]

/-- What is related to an optional value is missing exactly if it is. -/
theorem eq_none_iff_of_rel {r : α → α → Prop} {a b : Option α} (related : Option.Rel r a b) :
    a = none ↔ b = none := by
  cases related with
  | some => exact iff_of_false nofun nofun
  | none => exact Iff.rfl

/-- What is related to a value is a value that it is related to. -/
theorem exists_of_rel_some {β : Type _} {r : α → β → Prop} {a : α} {b : Option β}
    (related : Option.Rel r (some a) b) : ∃ c, b = some c ∧ r a c := by
  cases related with
  | some related => exact ⟨_, rfl, related⟩

end

variable {xs ys : List (String × Value)}

/-- Entries under texts are the same as others if each text finds the same data there. -/
theorem sameEntries_texts_iff :
    sameEntries (xs.map fun pair => (.text pair.1, pair.2))
        (ys.map fun pair => (.text pair.1, pair.2)) = true ↔
      ∀ pair ∈ xs, ∃ value, Entries.get? pair.1 ys = some value ∧ pair.2.Agrees value := by
  rw [sameEntries_iff, List.forall_mem_map]
  refine forall₂_congr fun pair _ => ?_
  have sameTest : (fun other : String × Value => (Value.text pair.1).same (.text other.1)) =
      fun other => other.1 == pair.1 := by
    funext other
    exact Bool.beq_comm
  rw [List.find?_map, get?_eq_find?, ← sameTest]
  simp only [Option.map_eq_some_iff, Function.comp_def]
  constructor
  · rintro ⟨_, ⟨other, found, rfl⟩, same⟩
    exact ⟨other.2, ⟨other, found, rfl⟩, same⟩
  · rintro ⟨_, ⟨other, found, rfl⟩, same⟩
    exact ⟨_, ⟨other, found, rfl⟩, same⟩

/-- Dictionaries under different texts are the same if every text finds the same data in both, or
nothing in both. -/
theorem same_record_iff (once₁ : (xs.map (·.1)).Nodup) (once₂ : (ys.map (·.1)).Nodup) :
    (Value.record xs).Agrees (.record ys) ↔
      ∀ key, Option.Rel Value.Agrees ((Value.record xs).entryAt? key)
        ((Value.record ys).entryAt? key) := by
  simp only [entryAt?_record]
  rw [Value.Agrees, Value.record, Value.record, Value.same, Bool.and_eq_true, beq_iff_eq,
    List.length_map, List.length_map, sameEntries_texts_iff]
  constructor
  · rintro ⟨length, same⟩ key
    cases found : Entries.get? key xs with
    | some value =>
      obtain ⟨other, foundToo, agrees⟩ := same _ ((get?_eq_some_iff once₁).mp found)
      rw [foundToo]
      exact .some agrees
    | none =>
      -- all keys of the first are keys of the second, which has no more of them
      have subset : xs.map (·.1) ⊆ ys.map (·.1) := by
        intro key member
        obtain ⟨pair, inside, rfl⟩ := List.mem_map.mp member
        obtain ⟨other, found, _⟩ := same pair inside
        exact List.mem_map_of_mem (f := (·.1)) ((get?_eq_some_iff once₂).mp found)
      have keys : (xs.map (·.1)).Perm (ys.map (·.1)) := by
        refine (once₁.subperm subset).perm_of_length_le ?_
        rw [List.length_map, List.length_map]
        exact Nat.le_of_eq length.symm
      have absent := get?_eq_none_iff.mp found
      rw [keys.mem_iff] at absent
      rw [get?_eq_none_iff.mpr absent]
      exact .none
  · intro agree
    have keys : (xs.map (·.1)).Perm (ys.map (·.1)) := by
      refine (List.perm_ext_iff_of_nodup once₁ once₂).mpr fun key => not_iff_not.mp ?_
      rw [← get?_eq_none_iff, ← get?_eq_none_iff]
      exact eq_none_iff_of_rel (agree key)
    refine ⟨by simpa using keys.length_eq, fun pair member => ?_⟩
    have agrees := agree pair.1
    rw [(get?_eq_some_iff once₁).mpr member] at agrees
    exact exists_of_rel_some agrees

/-- Dictionaries with one entry each are the same if they have the same key and the same data. -/
theorem same_record_singleton_iff {key other : String} {v w : Value} :
    (Value.record [(key, v)]).Agrees (.record [(other, w)]) ↔ key = other ∧ v.Agrees w := by
  rw [Value.Agrees, Value.record, Value.record, Value.same, Bool.and_eq_true,
    sameEntries_texts_iff, and_iff_right (by rfl), List.forall_mem_singleton, Entries.get?]
  by_cases same : other = key
  · simp [same]
  · simp [same, Ne.symm same, Entries.get?]

/-- Texts that may be missing are the same data if they are equal. -/
theorem rel_text_iff {a b : Option String} :
    Option.Rel Value.Agrees (a.map Value.text) (b.map Value.text) ↔ a = b := by
  cases a with
  | none =>
    cases b with
    | none => exact iff_of_true .none rfl
    | some t => exact iff_of_false nofun nofun
  | some s =>
    cases b with
    | none => exact iff_of_false nofun nofun
    | some t =>
      constructor
      · rintro (same | _)
        exact congrArg some (beq_iff_eq.mp same)
      · rintro ⟨⟩
        exact .some (beq_self_eq_true s)

/-- Groups that may be missing for want of values are the same data if their values are, one by one.
-/
theorem rel_group_iff {vs ws : List Value} (single₁ : ∀ v ∈ vs, v.items = [v])
    (single₂ : ∀ w ∈ ws, w.items = [w]) :
    Option.Rel Value.Agrees (if vs = [] then none else some (groupValue vs))
        (if ws = [] then none else some (groupValue ws)) ↔ List.Forall₂ Value.Agrees vs ws := by
  by_cases none₁ : vs = []
  · by_cases none₂ : ws = []
    · rw [if_pos none₁, if_pos none₂, none₁, none₂]
      exact iff_of_true .none .nil
    · rw [if_pos none₁, if_neg none₂, none₁, List.forall₂_nil_left_iff]
      exact iff_of_false nofun none₂
  · by_cases none₂ : ws = []
    · rw [if_neg none₁, if_pos none₂, none₂, List.forall₂_nil_right_iff]
      exact iff_of_false nofun none₁
    · rw [if_neg none₁, if_neg none₂, ← same_groupValue_iff single₁ single₂ none₁ none₂]
      exact ⟨fun | .some same => same, .some⟩

end XmlGraft.Data
