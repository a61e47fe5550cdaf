import XmlGraft.Document.ToValue

/-!
# Grouping — pairs gathered by key

Pairs are grouped from the last to the first, each put before all that was grouped. What comes out
is told by key: the keys in the order in which they first occur, each with all its values in order
(`grouped_eq_gather`). Pairs that come in blocks, one for each key, are grouped back into their
blocks (`grouped_blocks`).
-/

namespace XmlGraft.Data

variable {α : Type _}

/-- All values of a key, in order. -/
def valuesOf (key : String) (pairs : List (String × α)) : List α :=
  (pairs.filter fun pair => pair.1 == key).map (·.2)

/-- The keys of some pairs in the order of their first occurrence, each with all its values. -/
def gather (pairs : List (String × α)) : List (String × List α) :=
  (pairs.map (·.1)).eraseDups.map fun key => (key, valuesOf key pairs)

/-- Duplicates are erased after some members are dropped as well as before. -/
theorem eraseDups_filter (p : String → Bool) (keys : List String) :
    (keys.filter p).eraseDups = keys.eraseDups.filter p := by
  -- erasing the duplicates of a member filters the rest, so the induction is on the length
  induction count : keys.length using Nat.strongRecOn generalizing keys with
  | ind n ih =>
    cases keys with
    | nil => rfl
    | cons key rest =>
      have shorter : (rest.filter fun other => !other == key).length < n := by
        have fewer := List.length_filter_le (fun other => !other == key) rest
        rw [List.length_cons] at count
        omega
      have others := ih _ shorter (rest.filter fun other => !other == key) rfl
      rw [List.eraseDups_cons]
      by_cases kept : p key = true
      · rw [List.filter_cons_of_pos kept, List.filter_cons_of_pos kept, List.eraseDups_cons,
          ← others, List.filter_filter, List.filter_filter]
        refine congrArg (fun l : List String => key :: l.eraseDups) ?_
        exact List.filter_congr fun other _ => Bool.and_comm _ _
      · rw [List.filter_cons_of_neg kept, List.filter_cons_of_neg kept, ← others,
          List.filter_filter]
        refine congrArg List.eraseDups (List.filter_congr ?_)
        intro other _
        by_cases same : other = key
        · subst same
          rw [Bool.not_eq_true] at kept
          rw [kept, Bool.false_and]
        · rw [beq_false_of_ne same, Bool.not_false, Bool.and_true]

/-- A key is looked up among keys with the values that they determine. -/
theorem get?_map (f : String → α) (key : String) (keys : List String) :
    Entries.get? key (keys.map fun k => (k, f k)) = if key ∈ keys then some (f key) else none := by
  induction keys with
  | nil => rfl
  | cons k rest ih =>
    rw [List.map_cons, Entries.get?, ih]
    by_cases same : k = key
    · subst same
      rw [if_pos (beq_self_eq_true k), if_pos List.mem_cons_self]
    · have differs : ¬(k == key) = true := by
        rw [beq_iff_eq]
        exact same
      have iff : key ∈ k :: rest ↔ key ∈ rest := by
        rw [List.mem_cons]
        exact ⟨fun member => member.resolve_left (Ne.symm same), Or.inr⟩
      rw [if_neg differs]
      by_cases member : key ∈ rest
      · rw [if_pos member, if_pos (iff.mpr member)]
      · rw [if_neg member, if_neg (fun both => member (iff.mp both))]

theorem valuesOf_cons_self (key : String) (value : α) (rest : List (String × α)) :
    valuesOf key ((key, value) :: rest) = value :: valuesOf key rest := by
  rw [valuesOf, List.filter_cons]
  exact congrArg _ (if_pos (beq_self_eq_true key))

theorem valuesOf_cons_of_ne {key other : String} (differs : key ≠ other) (value : α)
    (rest : List (String × α)) : valuesOf other ((key, value) :: rest) = valuesOf other rest := by
  rw [valuesOf, List.filter_cons]
  refine congrArg _ (if_neg ?_)
  rw [beq_iff_eq]
  exact differs

/-- A key that does not occur has no values. -/
theorem valuesOf_of_not_mem {key : String} {pairs : List (String × α)}
    (absent : key ∉ pairs.map (·.1)) : valuesOf key pairs = [] := by
  rw [valuesOf, List.map_eq_nil_iff, List.filter_eq_nil_iff]
  intro pair member same
  have equal : pair.1 = key := beq_iff_eq.mp same
  exact absent (equal ▸ List.mem_map_of_mem member)

/-- Grouping gathers the values of each key. -/
theorem grouped_eq_gather (pairs : List (String × α)) : grouped pairs = gather pairs := by
  induction pairs with
  | nil => rfl
  | cons pair rest ih =>
    obtain ⟨key, value⟩ := pair
    have here : (Entries.get? key (gather rest)).getD [] = valuesOf key rest := by
      rw [gather, get?_map]
      by_cases member : key ∈ (rest.map (·.1)).eraseDups
      · rw [if_pos member]
        rfl
      · rw [if_neg member]
        rw [List.mem_eraseDups] at member
        exact (valuesOf_of_not_mem member).symm
    have others : ∀ other ∈ ((rest.map (·.1)).filter fun other => !other == key).eraseDups,
        (other, valuesOf other ((key, value) :: rest)) = (other, valuesOf other rest) := by
      intro other member
      rw [List.mem_eraseDups, List.mem_filter, Bool.not_eq_true', beq_eq_false_iff_ne] at member
      rw [valuesOf_cons_of_ne (Ne.symm member.2)]
    rw [grouped, ih, putFirst, here, gather, gather, List.map_cons, List.eraseDups_cons,
      List.map_cons, valuesOf_cons_self, List.map_congr_left others]
    refine congrArg ((key, value :: valuesOf key rest) :: ·) ?_
    rw [List.filter_map, eraseDups_filter]
    refine congrArg (List.map _) (List.filter_congr ?_)
    intro other _
    show decide (other ≠ key) = !other == key
    by_cases same : other = key
    · subst same
      rw [beq_self_eq_true, Bool.not_true]
      exact decide_eq_false (fun differs => differs rfl)
    · rw [beq_false_of_ne same, Bool.not_false]
      exact decide_eq_true same

/-- The values of a key are those that it stands with. -/
theorem mem_valuesOf {key : String} {value : α} {pairs : List (String × α)} :
    value ∈ valuesOf key pairs ↔ (key, value) ∈ pairs := by
  simp only [valuesOf, List.mem_map, List.mem_filter, beq_iff_eq, Prod.exists]
  constructor
  · rintro ⟨_, _, ⟨member, rfl⟩, rfl⟩
    exact member
  · exact fun member => ⟨key, value, ⟨member, rfl⟩, rfl⟩

/-- A group holds all values of a key that occurs. -/
theorem mem_grouped {group : String × List α} {pairs : List (String × α)} :
    group ∈ grouped pairs ↔
      group.1 ∈ pairs.map (·.1) ∧ group.2 = valuesOf group.1 pairs := by
  rw [grouped_eq_gather, gather, List.mem_map]
  constructor
  · rintro ⟨key, occurs, rfl⟩
    exact ⟨List.mem_eraseDups.mp occurs, rfl⟩
  · rintro ⟨occurs, values⟩
    exact ⟨group.1, List.mem_eraseDups.mpr occurs, Prod.ext rfl values.symm⟩

/-- A block of values for a key that does not occur after it is a group. -/
theorem grouped_block {key : String} {values : List α} (some : values ≠ [])
    {rest : List (String × α)} (absent : key ∉ rest.map (·.1)) :
    grouped (values.map (fun value => (key, value)) ++ rest) = (key, values) :: grouped rest := by
  have others : (grouped rest).filter (fun group => group.1 ≠ key) = grouped rest := by
    rw [List.filter_eq_self]
    intro group member
    rw [grouped_eq_gather, gather] at member
    obtain ⟨other, occurs, rfl⟩ := List.mem_map.mp member
    rw [List.mem_eraseDups] at occurs
    refine decide_eq_true ?_
    rintro rfl
    exact absent occurs
  induction values with
  | nil => exact absurd rfl some
  | cons value more ih =>
    cases more with
    | nil =>
      have none : Entries.get? key (grouped rest) = none := by
        rw [grouped_eq_gather, gather, get?_map, if_neg]
        rw [List.mem_eraseDups]
        exact absent
      show putFirst key value (grouped rest) = _
      rw [putFirst, none, others]
      rfl
    | cons next more =>
      have inner := ih (List.cons_ne_nil next more)
      show putFirst key value
        (grouped ((next :: more).map (fun value => (key, value)) ++ rest)) = _
      have found : Entries.get? key ((key, next :: more) :: grouped rest) = .some (next :: more) :=
        if_pos (beq_self_eq_true key)
      have dropped : ((key, next :: more) :: grouped rest).filter (fun group => group.1 ≠ key) =
          grouped rest := by
        rw [List.filter_cons, if_neg, others]
        rw [decide_eq_true_iff]
        exact fun differs => differs rfl
      rw [inner, putFirst, found, dropped]
      rfl

/-- The pairs of blocks have keys of blocks. -/
theorem keys_blocks_subset (blocks : List (String × List α)) :
    (blocks.flatMap fun block => block.2.map fun value => (block.1, value)).map (·.1) ⊆
      blocks.map (·.1) := by
  intro key occurs
  obtain ⟨pair, member, same⟩ := List.mem_map.mp occurs
  obtain ⟨block, inBlocks, inBlock⟩ := List.mem_flatMap.mp member
  obtain ⟨value, _, rfl⟩ := List.mem_map.mp inBlock
  exact List.mem_map.mpr ⟨block, inBlocks, same⟩

/-- Blocks of values, one for each key, are the groups. -/
theorem grouped_blocks {blocks : List (String × List α)} (some : ∀ block ∈ blocks, block.2 ≠ [])
    (once : (blocks.map (·.1)).Nodup) :
    grouped (blocks.flatMap fun block => block.2.map fun value => (block.1, value)) = blocks := by
  induction blocks with
  | nil => rfl
  | cons block rest ih =>
    obtain ⟨notAgain, onceRest⟩ := List.nodup_cons.mp once
    have others := ih (fun other member => some other (List.mem_cons_of_mem block member)) onceRest
    have absent := fun occurs => notAgain (keys_blocks_subset rest occurs)
    rw [List.flatMap_cons, grouped_block (some block List.mem_cons_self) absent, others]

/-- The values of a key are made from those that it had. -/
theorem valuesOf_map {β : Type _} (f : α → β) (key : String) (pairs : List (String × α)) :
    valuesOf key (pairs.map fun pair => (pair.1, f pair.2)) = (valuesOf key pairs).map f := by
  rw [valuesOf, valuesOf, List.filter_map, List.map_map, List.map_map]
  rfl

/-- Values are grouped as what they are made from. -/
theorem grouped_map {β : Type _} (f : α → β) (pairs : List (String × α)) :
    grouped (pairs.map fun pair => (pair.1, f pair.2)) =
      (grouped pairs).map fun group => (group.1, group.2.map f) := by
  have keys : (pairs.map fun pair => (pair.1, f pair.2)).map (·.1) = pairs.map (·.1) := by
    rw [List.map_map]
    rfl
  rw [grouped_eq_gather, grouped_eq_gather, gather, gather, keys, List.map_map]
  exact List.map_congr_left fun key _ => congrArg (Prod.mk key) (valuesOf_map f key pairs)

end XmlGraft.Data
