import Mathlib.Data.List.Nodup
import XmlGraft.Proofs.Data.Grouping

/-!
# Adjacency — pairs that stand together with those of their key

Grouping pairs and listing the groups brings the pairs of each key together, where the first of them
stood (`together`). They then stand together (`adjacent_together`), and are grouped as before
(`grouped_together`). If they stood together from the start, nothing moves (`together_eq_self`).
-/

namespace XmlGraft.Data

variable {α : Type _}

/-- Equal members stand together: one that comes again comes next. -/
def Adjacent : List String → Prop
  | [] => True
  | key :: rest => (key ∈ rest → rest.head? = some key) ∧ Adjacent rest

/-- Pairs with those of each key together, where the first of them stands. -/
def together (pairs : List (String × α)) : List (String × α) :=
  (grouped pairs).flatMap fun group => group.2.map fun value => (group.1, value)

/-- The groups have different keys, and none is empty. -/
theorem grouped_nodup (pairs : List (String × α)) :
    ((grouped pairs).map (·.1)).Nodup ∧ ∀ group ∈ grouped pairs, group.2 ≠ [] := by
  induction pairs with
  | nil => exact ⟨List.nodup_nil, fun _ member => absurd member List.not_mem_nil⟩
  | cons pair rest ih =>
    obtain ⟨once, some⟩ := ih
    have others : ∀ group ∈ (grouped rest).filter fun group => group.1 ≠ pair.1,
        group ∈ grouped rest ∧ group.1 ≠ pair.1 := by
      intro group member
      obtain ⟨inRest, differs⟩ := List.mem_filter.mp member
      exact ⟨inRest, of_decide_eq_true differs⟩
    constructor
    · refine List.nodup_cons.mpr ⟨fun again => ?_, once.sublist (List.filter_sublist.map _)⟩
      obtain ⟨group, member, same⟩ := List.mem_map.mp again
      exact (others group member).2 same
    · exact List.forall_mem_cons.mpr ⟨List.cons_ne_nil _ _, fun group member =>
        some group (others group member).1⟩

/-- A key is left once where duplicates are erased. -/
theorem nodup_eraseDups (keys : List String) : keys.eraseDups.Nodup := by
  have once := (grouped_nodup (keys.map fun key => (key, ()))).1
  rw [grouped_eq_gather, gather, List.map_map, List.map_map] at once
  simpa only [Function.comp_def, List.map_id'] using once

/-- Members that are taken by key, for each of different keys, are all members, each taken once. -/
theorem flatMap_filter_perm {keys : List String} (once : keys.Nodup) (key : α → String)
    {members : List α} (covered : ∀ member ∈ members, key member ∈ keys) :
    (keys.flatMap fun k => members.filter fun member => key member == k).Perm members := by
  induction keys generalizing members with
  | nil =>
    have none : members = [] :=
      List.eq_nil_iff_forall_not_mem.mpr fun member inside =>
        List.not_mem_nil (covered member inside)
    rw [none]
    exact .nil
  | cons first rest ih =>
    obtain ⟨notAgain, onceRest⟩ := List.nodup_cons.mp once
    -- the members of the other keys are all among those that are not of the first
    have others : ∀ k ∈ rest, (members.filter fun member => key member == k) =
        (members.filter fun member => !(key member == first)).filter fun member =>
          key member == k := by
      intro k inRest
      rw [List.filter_filter]
      refine List.filter_congr fun member _ => ?_
      by_cases same : key member = k
      · have differs : key member ≠ first := fun isFirst => notAgain (isFirst ▸ same ▸ inRest)
        simp [same, same ▸ differs]
      · simp [same]
    rw [List.flatMap_cons, List.flatMap_congr others]
    refine ((ih onceRest ?_).append_left _).trans (List.filter_append_perm _ members)
    intro member inside
    obtain ⟨inMembers, differs⟩ := List.mem_filter.mp inside
    refine (List.mem_cons.mp (covered member inMembers)).resolve_left fun same => ?_
    rw [same, beq_self_eq_true] at differs
    cases differs

/-- Pairs are grouped as before when those of each key were brought together. -/
theorem grouped_together (pairs : List (String × α)) :
    grouped (together pairs) = grouped pairs := by
  obtain ⟨once, some⟩ := grouped_nodup pairs
  exact grouped_blocks some once

/-- The same pairs are there when those of each key were brought together. -/
theorem mem_together {pair : String × α} {pairs : List (String × α)} :
    pair ∈ together pairs ↔ pair ∈ pairs := by
  simp only [together, List.mem_flatMap, List.mem_map]
  constructor
  · rintro ⟨group, member, value, inGroup, rfl⟩
    rw [(mem_grouped.mp member).2, mem_valuesOf] at inGroup
    exact inGroup
  · intro member
    exact ⟨(pair.1, valuesOf pair.1 pairs), mem_grouped.mpr ⟨List.mem_map_of_mem member, rfl⟩,
      pair.2, mem_valuesOf.mpr member, rfl⟩

/-- There are no pairs if none were there before. -/
theorem together_eq_nil_iff {pairs : List (String × α)} : together pairs = [] ↔ pairs = [] := by
  simp only [List.eq_nil_iff_forall_not_mem, mem_together]

/-- Pairs are brought together as what their values are made from. -/
theorem together_map {β : Type _} (f : α → β) (pairs : List (String × α)) :
    together (pairs.map fun pair => (pair.1, f pair.2)) =
      (together pairs).map fun pair => (pair.1, f pair.2) := by
  simp only [together, grouped_map, List.flatMap_map, List.map_flatMap, List.map_map,
    Function.comp_def]

/-- What is made from pairs that were brought together is made from the groups. -/
theorem map_together {β : Type _} (f : α → β) (pairs : List (String × α)) :
    (together pairs).map (fun pair => f pair.2) =
      (grouped pairs).flatMap fun group => group.2.map f := by
  simp only [together, List.map_flatMap, List.map_map, Function.comp_def]

/-- Members that are equal stand together before others. -/
theorem adjacent_block {key : String} (values : List α) {rest : List String} (absent : key ∉ rest)
    (adjacent : Adjacent rest) : Adjacent (values.map (fun _ => key) ++ rest) := by
  induction values with
  | nil => exact adjacent
  | cons value more ih =>
    refine ⟨?_, ih⟩
    cases more with
    | nil => exact fun again => absurd again absent
    | cons next more => exact fun _ => rfl

/-- Blocks of different keys stand together. -/
theorem adjacent_blocks {blocks : List (String × List α)} (once : (blocks.map (·.1)).Nodup) :
    Adjacent ((blocks.flatMap fun block => block.2.map fun value => (block.1, value)).map
      (·.1)) := by
  induction blocks with
  | nil => trivial
  | cons block rest ih =>
    obtain ⟨notAgain, onceRest⟩ := List.nodup_cons.mp once
    have absent := fun occurs => notAgain (keys_blocks_subset rest occurs)
    rw [List.flatMap_cons, List.map_append, List.map_map]
    exact adjacent_block block.2 absent (ih onceRest)

/-- Pairs stand together with those of their key when they were brought together. -/
theorem adjacent_together (pairs : List (String × α)) :
    Adjacent ((together pairs).map (·.1)) :=
  adjacent_blocks (grouped_nodup pairs).1

/-- A pair before one of its key goes into the same group, which stays the first. -/
theorem grouped_cons_again (key : String) (value next : α) (rest : List (String × α)) :
    ∃ values others, grouped ((key, next) :: rest) = (key, values) :: others ∧
      grouped ((key, value) :: (key, next) :: rest) = (key, value :: values) :: others := by
  refine ⟨next :: (Entries.get? key (grouped rest)).getD [],
    (grouped rest).filter fun group => group.1 ≠ key, rfl, ?_⟩
  have first : grouped ((key, next) :: rest) =
      (key, next :: (Entries.get? key (grouped rest)).getD []) ::
        (grouped rest).filter fun group => group.1 ≠ key := rfl
  have dropped : ∀ values : List α, ((key, values) :: (grouped rest).filter
      fun group => group.1 ≠ key).filter (fun group => group.1 ≠ key) =
        (grouped rest).filter fun group => group.1 ≠ key := by
    intro values
    rw [List.filter_cons_of_neg (by simp), List.filter_filter]
    simp only [Bool.and_self]
  rw [grouped, first, putFirst, dropped, Entries.get?, if_pos (beq_self_eq_true key)]
  rfl

/-- Nothing moves where pairs stand together with those of their key. -/
theorem together_eq_self {pairs : List (String × α)} (adjacent : Adjacent (pairs.map (·.1))) :
    together pairs = pairs := by
  induction pairs with
  | nil => rfl
  | cons pair rest ih =>
    obtain ⟨key, value⟩ := pair
    obtain ⟨next, adjacentRest⟩ := adjacent
    have others := ih adjacentRest
    by_cases again : key ∈ rest.map (·.1)
    · cases rest with
      | nil => exact absurd again List.not_mem_nil
      | cons following rest =>
        obtain ⟨sameKey⟩ : following.1 = key := Option.some.inj (next again)
        obtain ⟨values, groups, grouped, groupedAgain⟩ :=
          grouped_cons_again following.1 value following.2 rest
        rw [together, groupedAgain]
        rw [together, grouped] at others
        exact congrArg ((following.1, value) :: ·) others
    · have first := grouped_block (List.cons_ne_nil value []) again
      rw [together]
      refine (congrArg _ first).trans ?_
      exact congrArg ((key, value) :: ·) others

end XmlGraft.Data
