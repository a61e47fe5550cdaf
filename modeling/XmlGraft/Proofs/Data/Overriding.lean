import XmlGraft.Proofs.Data.Adjacency
import XmlGraft.Proofs.Data.Comparison

/-!
# Overriding — of the values that a key is given, the last counts

A key that is given again keeps its place and takes the new value, so the entries that pairs leave
are looked up like the pairs, from the last to the first (`get?_ofPairs`), and no key is among them
twice (`nodup_ofPairs`).

Mappings are compared in the same way, although no entry of theirs is dropped: two mappings are the
same if every key was last given the same data in both, or is given in neither
(`same_mapping_iff`).
-/

namespace XmlGraft.Data

/-! ## The last value of a key -/

section

variable {α : Type _} {key : String} {pairs : List (String × α)}

/-- A key is given if it stands in a pair. -/
theorem has_iff : Entries.has key pairs = true ↔ key ∈ pairs.map (·.1) := by
  simp [Entries.has]

/-- A key that is given has a last value, and no other has. -/
theorem last?_eq_none_iff : Entries.last? key pairs = none ↔ key ∉ pairs.map (·.1) := by
  induction pairs with
  | nil => exact iff_of_true rfl List.not_mem_nil
  | cons pair rest ih =>
    rw [Entries.last?, Option.or_eq_none_iff, ih, List.map_cons, List.mem_cons, not_or, and_comm]
    refine and_congr_left fun _ => ?_
    by_cases same : pair.1 = key
    · simp [same]
    · simp [same, Ne.symm same]

/-- The last value of a key stands with it. -/
theorem mem_of_last? {value : α} (given : Entries.last? key pairs = some value) :
    (key, value) ∈ pairs := by
  induction pairs with
  | nil => cases given
  | cons pair rest ih =>
    rcases Option.or_eq_some_iff.mp given with later | ⟨-, here⟩
    · exact List.mem_cons_of_mem pair (ih later)
    · by_cases same : pair.1 = key
      · subst same
        rw [if_pos (beq_self_eq_true pair.1)] at here
        cases here
        exact List.mem_cons_self
      · rw [if_neg (mt beq_iff_eq.mp same)] at here
        cases here

/-- Among different keys, the last value of a key is its only one. -/
theorem last?_eq_get? (once : (pairs.map (·.1)).Nodup) :
    Entries.last? key pairs = Entries.get? key pairs := by
  cases found : Entries.get? key pairs with
  | none => rw [last?_eq_none_iff, ← get?_eq_none_iff, found]
  | some value =>
    cases given : Entries.last? key pairs with
    | none =>
      rw [last?_eq_none_iff, ← get?_eq_none_iff, found] at given
      cases given
    | some last => rw [← found, ← (get?_eq_some_iff once).mpr (mem_of_last? given)]

/-- Where pairs are related one by one and have the same keys, so are the last values of a key. -/
theorem rel_last? {β : Type _} {r : α → β → Prop} {others : List (String × β)}
    (related : List.Forall₂ (fun a b => a.1 = b.1 ∧ r a.2 b.2) pairs others) (key : String) :
    Option.Rel r (Entries.last? key pairs) (Entries.last? key others) := by
  induction related with
  | nil => exact .none
  | @cons a b pairs others both _ ih =>
    rw [Entries.last?, Entries.last?, ← both.1]
    revert ih
    generalize Entries.last? key pairs = later
    generalize Entries.last? key others = laterToo
    rintro (later | _)
    · exact .some later
    · cases a.1 == key with
      | true => exact .some both.2
      | false => exact .none

end

/-! ## Entries that pairs leave -/

section

variable {α : Type _}

/-- The key that is given a value has it, and the others have what they had. -/
theorem get?_put (key other : String) (value : α) (entries : List (String × α)) :
    Entries.get? other (Entries.put key value entries) =
      if key = other then some value else Entries.get? other entries := by
  induction entries with
  | nil => simp [Entries.put, Entries.get?]
  | cons entry rest ih =>
    obtain ⟨first, old⟩ := entry
    rw [Entries.put]
    by_cases here : first = key
    · subst here
      simp only [beq_self_eq_true, if_true, Entries.get?, beq_iff_eq]
      split <;> rfl
    · rw [if_neg (mt beq_iff_eq.mp here), Entries.get?, Entries.get?, ih]
      by_cases same : key = other
      · subst same
        simp [here]
      · simp [same]

/-- The keys are those that were there, and the one that is given a value. -/
theorem mem_keys_put {key other : String} {value : α} {entries : List (String × α)} :
    other ∈ (Entries.put key value entries).map (·.1) ↔
      other = key ∨ other ∈ entries.map (·.1) := by
  rw [← not_iff_not, ← get?_eq_none_iff, get?_put, not_or, ← get?_eq_none_iff]
  by_cases same : key = other
  · simp [same]
  · simp [same, Ne.symm same]

/-- No key is there twice after one is given a value. -/
theorem nodup_put (key : String) (value : α) {entries : List (String × α)}
    (once : (entries.map (·.1)).Nodup) : ((Entries.put key value entries).map (·.1)).Nodup := by
  induction entries with
  | nil => exact List.nodup_singleton key
  | cons entry rest ih =>
    obtain ⟨notAgain, onceRest⟩ := List.nodup_cons.mp once
    rw [Entries.put]
    by_cases here : entry.1 = key
    · rw [if_pos (beq_iff_eq.mpr here)]
      exact once
    · rw [if_neg (mt beq_iff_eq.mp here)]
      exact List.nodup_cons.mpr ⟨fun again => (mem_keys_put.mp again).elim here notAgain,
        ih onceRest⟩

/-- Pairs that are put into entries are looked up before these. -/
theorem get?_foldl_put (key : String) (pairs entries : List (String × α)) :
    Entries.get? key (pairs.foldl (fun entries pair => Entries.put pair.1 pair.2 entries) entries) =
      (Entries.last? key pairs).or (Entries.get? key entries) := by
  induction pairs generalizing entries with
  | nil => rfl
  | cons pair rest ih =>
    rw [List.foldl_cons, ih, get?_put, Entries.last?, Option.or_assoc]
    simp only [beq_iff_eq]
    split <;> rfl

/-- A key finds the last value that the pairs give it. -/
theorem get?_ofPairs (key : String) (pairs : List (String × α)) :
    Entries.get? key (Entries.ofPairs pairs) = Entries.last? key pairs := by
  rw [Entries.ofPairs, get?_foldl_put, Entries.get?, Option.or_none]

/-- No key is left twice. -/
theorem nodup_ofPairs (pairs : List (String × α)) :
    ((Entries.ofPairs pairs).map (·.1)).Nodup := by
  have put : ∀ entries : List (String × α), (entries.map (·.1)).Nodup →
      ((pairs.foldl (fun entries pair => Entries.put pair.1 pair.2 entries) entries).map
        (·.1)).Nodup := by
    induction pairs with
    | nil => exact fun _ once => once
    | cons pair rest ih => exact fun entries once => ih _ (nodup_put pair.1 pair.2 once)
  exact put [] List.nodup_nil

end

/-! ## Mappings -/

section

variable {xs ys : List (String × Value)}

/-- An entry that is not overridden is judged by the last value of its key in others. -/
theorem sameMembers_cons {key : String} {value : Value} :
    sameMembers ((key, value) :: xs) ys = true ↔
      (key ∉ xs.map (·.1) → ∃ other, Entries.last? key ys = some other ∧ value.Agrees other) ∧
        sameMembers xs ys = true := by
  rw [sameMembers, Bool.and_eq_true, Bool.or_eq_true, has_iff, or_iff_not_imp_left]
  refine and_congr_left fun _ => forall_congr' fun _ => ?_
  cases Entries.last? key ys with
  | none => exact iff_of_false Bool.false_ne_true nofun
  | some other =>
    constructor
    · exact fun same => ⟨other, rfl, same⟩
    · rintro ⟨_, found, same⟩
      cases found
      exact same

/-- Entries are the same as others if every key that they give was last given the same data there.
-/
theorem sameMembers_iff :
    sameMembers xs ys = true ↔ ∀ key value, Entries.last? key xs = some value →
      ∃ other, Entries.last? key ys = some other ∧ value.Agrees other := by
  induction xs with
  | nil => exact iff_of_true rfl nofun
  | cons entry rest ih =>
    obtain ⟨key, value⟩ := entry
    rw [sameMembers_cons, ih]
    constructor
    · rintro ⟨first, others⟩ other last given
      rcases Option.or_eq_some_iff.mp given with later | ⟨notLater, same⟩
      · exact others other last later
      · split at same
        · next isKey =>
          cases same
          rw [beq_iff_eq] at isKey
          subst isKey
          exact first (last?_eq_none_iff.mp notLater)
        · cases same
    · intro all
      refine ⟨fun notAgain => all key value ?_, fun other last given => all other last ?_⟩
      · rw [Entries.last?, last?_eq_none_iff.mpr notAgain, Option.none_or]
        exact if_pos (beq_self_eq_true key)
      · rw [Entries.last?, given, Option.some_or]

/-- Mappings are the same if every key was last given the same data in both, or is given in neither.
-/
theorem same_mapping_iff :
    (Value.mapping xs).Agrees (.mapping ys) ↔
      ∀ key, Option.Rel Value.Agrees (Entries.last? key xs) (Entries.last? key ys) := by
  rw [Value.Agrees, Value.same, Bool.and_eq_true, beq_iff_eq, sameMembers_iff, keyCount, keyCount]
  constructor
  · rintro ⟨count, same⟩ key
    cases given : Entries.last? key xs with
    | some value =>
      obtain ⟨other, givenToo, agrees⟩ := same key value given
      rw [givenToo]
      exact .some agrees
    | none =>
      -- all keys of the first are keys of the second, which has no more of them
      have subset : (xs.map (·.1)).eraseDups ⊆ (ys.map (·.1)).eraseDups := by
        intro other member
        rw [List.mem_eraseDups] at member ⊢
        obtain ⟨value, given⟩ := Option.ne_none_iff_exists'.mp
          (mt last?_eq_none_iff.mp (not_not.mpr member))
        obtain ⟨_, givenToo, _⟩ := same other value given
        exact List.mem_map_of_mem (f := (·.1)) (mem_of_last? givenToo)
      have keys := ((nodup_eraseDups _).subperm subset).perm_of_length_le (Nat.le_of_eq count.symm)
      have absent := last?_eq_none_iff.mp given
      rw [← List.mem_eraseDups, keys.mem_iff, List.mem_eraseDups] at absent
      rw [last?_eq_none_iff.mpr absent]
      exact .none
  · intro agree
    have keys : (xs.map (·.1)).eraseDups.Perm (ys.map (·.1)).eraseDups := by
      refine (List.perm_ext_iff_of_nodup (nodup_eraseDups _) (nodup_eraseDups _)).mpr fun key => ?_
      rw [List.mem_eraseDups, List.mem_eraseDups, ← not_iff_not, ← last?_eq_none_iff,
        ← last?_eq_none_iff]
      exact eq_none_iff_of_rel (agree key)
    refine ⟨keys.length_eq, fun key value given => ?_⟩
    have agrees := agree key
    rw [given] at agrees
    exact exists_of_rel_some agrees

end

end XmlGraft.Data
