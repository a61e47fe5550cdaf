import XmlGraft.Proofs.Data.Overriding
import XmlGraft.Proofs.Data.Wrapped

/-!
# Sameness — structured data is the same if its plain data is

Scalars, mappings and sequences that were made by hand of nothing but their like (`Value.Made`) have
plain data, in which nothing structured is left (`Value.Made.textual`). A mapping drops nothing when
a key is given again, and its plain data keeps the last value only; but nothing else of it counts
for being the same, so structured data is the same exactly if its plain data is
(`agrees_iff_unwrap`), at every depth.

Being the same is therefore an equivalence, which it is not for data at large: what is not a number
is not even the same as itself. And plain data that was unwrapped is always wrapped again, as the
same data (`Value.Made.rewraps`): what the checks on the way to it let pass, wrapping lets pass.
-/

namespace XmlGraft.Data

/-- Structured data that was made by hand of nothing but structured data. -/
inductive Value.Made : Value → Prop
  | scalar (text : String) : Made (.scalar text)
  | mapping {entries : List (String × Value)} (parts : ∀ entry ∈ entries, entry.2.Made)
    (accepted : Value.mappingOf (entries.map fun entry => (.text entry.1, entry.2)) =
      .ok (.mapping entries)) : Made (.mapping entries)
  | sequence {items : List Value} (parts : ∀ item ∈ items, item.Made)
    (accepted : Value.sequenceOf items = .ok (.sequence items)) : Made (.sequence items)

/-- Plain data of texts alone: a text, a list of such data, or such data under different keys. -/
inductive Value.Textual : Value → Prop
  | text (text : String) : Textual (.text text)
  | list {items : List Value} (parts : ∀ item ∈ items, item.Textual) : Textual (.list items)
  | record {entries : List (String × Value)} (parts : ∀ entry ∈ entries, entry.2.Textual)
    (once : (entries.map (·.1)).Nodup) : Textual (.record entries)

/-! ## What the checks let pass -/

/-- A mapping made by hand holds scalars under the keys of attributes. -/
theorem scalar_of_mappingOf {entries : List (String × Value)} {value : Value}
    (accepted : Value.mappingOf (entries.map fun entry => (.text entry.1, entry.2)) = .ok value) :
    ∀ entry ∈ entries, marksAttribute entry.1 = true → entry.2.isScalar = true := by
  obtain ⟨judged, judges, -⟩ := map_eq_ok.mp accepted
  clear accepted
  induction entries generalizing judged with
  | nil => exact fun _ member => absurd member List.not_mem_nil
  | cons entry rest ih =>
    obtain ⟨_, checked, judges⟩ := bind_eq_ok.mp judges
    obtain ⟨others, judgesRest, -⟩ := bind_eq_ok.mp judges
    refine List.forall_mem_cons.mpr ⟨fun marked => ?_, ih others judgesRest⟩
    obtain ⟨text, isScalar⟩ := checkEntry_eq_ok checked marked
    rw [isScalar]
    rfl

/-- A sequence made by hand holds no sequence. -/
theorem single_of_sequenceOf {items : List Value} {value : Value}
    (accepted : Value.sequenceOf items = .ok value) :
    ∀ item ∈ items, item.isSequence = false := by
  rw [Value.sequenceOf] at accepted
  split at accepted
  · cases accepted
  · next noneNested =>
    simpa only [List.any_eq_true, not_exists, not_and, Bool.not_eq_true] using noneNested

/-! ## Unwrapping -/

/-- Entries that can be unwrapped one by one are unwrapped. -/
theorem exists_unwrapEntries {entries : List (String × Value)}
    (parts : ∀ entry ∈ entries, ∃ p, entry.2.unwrap = .ok p) :
    ∃ plain, unwrapEntries entries = .ok plain := by
  induction entries with
  | nil => exact ⟨[], rfl⟩
  | cons entry rest ih =>
    obtain ⟨⟨first, unwraps⟩, others⟩ := List.forall_mem_cons.mp parts
    obtain ⟨plain, unwrapsRest⟩ := ih others
    exact ⟨(entry.1, first) :: plain, by rw [unwrapEntries, unwraps, unwrapsRest]; rfl⟩

/-- Items that can be unwrapped one by one are unwrapped. -/
theorem exists_unwrapItems {items : List Value}
    (parts : ∀ item ∈ items, ∃ p, item.unwrap = .ok p) :
    ∃ plain, unwrapItems items = .ok plain := by
  induction items with
  | nil => exact ⟨[], rfl⟩
  | cons item rest ih =>
    obtain ⟨⟨first, unwraps⟩, others⟩ := List.forall_mem_cons.mp parts
    obtain ⟨plain, unwrapsRest⟩ := ih others
    exact ⟨first :: plain, by rw [unwrapItems, unwraps, unwrapsRest]; rfl⟩

/-- Structured data has plain data. -/
theorem Value.Made.exists_unwrap {value : Value} (made : value.Made) :
    ∃ plain, value.unwrap = .ok plain := by
  induction made with
  | scalar text => exact ⟨.text text, rfl⟩
  | mapping _ _ ih =>
    obtain ⟨plain, unwraps⟩ := exists_unwrapEntries ih
    exact ⟨_, map_eq_ok.mpr ⟨plain, unwraps, rfl⟩⟩
  | sequence _ _ ih =>
    obtain ⟨plain, unwraps⟩ := exists_unwrapItems ih
    exact ⟨_, map_eq_ok.mpr ⟨plain, unwraps, rfl⟩⟩

/-- Entries are unwrapped one by one, under their keys. -/
theorem forall₂_of_unwrapEntries {entries plain : List (String × Value)}
    (unwraps : unwrapEntries entries = .ok plain) :
    List.Forall₂ (fun entry p => entry.1 = p.1 ∧ entry.2.unwrap = .ok p.2) entries plain := by
  induction entries generalizing plain with
  | nil =>
    cases unwraps
    exact .nil
  | cons entry rest ih =>
    obtain ⟨first, unwrapsFirst, unwraps⟩ := bind_eq_ok.mp unwraps
    obtain ⟨others, unwrapsRest, same⟩ := bind_eq_ok.mp unwraps
    cases same
    exact .cons ⟨rfl, unwrapsFirst⟩ (ih unwrapsRest)

/-- Items are unwrapped one by one. -/
theorem forall₂_of_unwrapItems {items plain : List Value} (unwraps : unwrapItems items = .ok plain) :
    List.Forall₂ (fun item p => item.unwrap = .ok p) items plain := by
  induction items generalizing plain with
  | nil =>
    cases unwraps
    exact .nil
  | cons item rest ih =>
    obtain ⟨first, unwrapsFirst, unwraps⟩ := bind_eq_ok.mp unwraps
    obtain ⟨others, unwrapsRest, same⟩ := bind_eq_ok.mp unwraps
    cases same
    exact .cons unwrapsFirst (ih unwrapsRest)

/-- A mapping is unwrapped as what its entries leave, each key with its last value. -/
theorem unwrap_mapping {entries : List (String × Value)} {p : Value}
    (unwraps : (Value.mapping entries).unwrap = .ok p) :
    ∃ plain, p = .record (Entries.ofPairs plain) ∧ ∀ key,
      Option.Rel (fun value p => value.unwrap = .ok p) (Entries.last? key entries)
        (Entries.last? key plain) := by
  obtain ⟨plain, unwrapsEntries, rfl⟩ := map_eq_ok.mp unwraps
  exact ⟨plain, rfl, rel_last? (forall₂_of_unwrapEntries unwrapsEntries)⟩

/-- A sequence is unwrapped as the list of its items. -/
theorem unwrap_sequence {items : List Value} {p : Value}
    (unwraps : (Value.sequence items).unwrap = .ok p) :
    ∃ plain, p = .list plain ∧ List.Forall₂ (fun item p => item.unwrap = .ok p) items plain := by
  obtain ⟨plain, unwrapsItems, rfl⟩ := map_eq_ok.mp unwraps
  exact ⟨plain, rfl, forall₂_of_unwrapItems unwrapsItems⟩

/-- What is left under a key is the plain data of the last value that the mapping has for it. -/
theorem exists_last?_of_mem {entries plain : List (String × Value)}
    (oneByOne : ∀ key, Option.Rel (fun value p => value.unwrap = .ok p) (Entries.last? key entries)
      (Entries.last? key plain)) {pair : String × Value} (member : pair ∈ Entries.ofPairs plain) :
    ∃ value, Entries.last? pair.1 entries = some value ∧ value.unwrap = .ok pair.2 := by
  have last := oneByOne pair.1
  rw [← get?_ofPairs pair.1 plain, (get?_eq_some_iff (nodup_ofPairs plain)).mpr member] at last
  generalize given : Entries.last? pair.1 entries = value? at last
  cases last with
  | @some value _ unwraps => exact ⟨value, rfl, unwraps⟩

/-- An item of a list that another is related to one by one has one there that is related to it. -/
theorem exists_of_forall₂ {α β : Type _} {r : α → β → Prop} {xs : List α} {ys : List β}
    (related : List.Forall₂ r xs ys) {y : β} (member : y ∈ ys) : ∃ x ∈ xs, r x y := by
  induction related with
  | nil => exact absurd member List.not_mem_nil
  | @cons x _ xs _ first _ ih =>
    obtain rfl | later := List.mem_cons.mp member
    · exact ⟨x, List.mem_cons_self, first⟩
    · obtain ⟨other, inXs, related⟩ := ih later
      exact ⟨other, List.mem_cons_of_mem x inXs, related⟩

/-- Structured data is unwrapped as plain data of texts alone. -/
theorem Value.Made.textual {v p : Value} (made : v.Made) (unwraps : v.unwrap = .ok p) :
    p.Textual := by
  induction made generalizing p with
  | scalar text =>
    cases unwraps
    exact .text text
  | mapping _ _ ih =>
    obtain ⟨plain, rfl, oneByOne⟩ := unwrap_mapping unwraps
    refine .record (fun pair member => ?_) (nodup_ofPairs plain)
    obtain ⟨value, given, unwraps⟩ := exists_last?_of_mem oneByOne member
    exact ih _ (mem_of_last? given) unwraps
  | sequence _ _ ih =>
    obtain ⟨plain, rfl, oneByOne⟩ := unwrap_sequence unwraps
    refine .list fun p member => ?_
    obtain ⟨item, inItems, unwraps⟩ := exists_of_forall₂ oneByOne member
    exact ih item inItems unwraps

/-! ## The same plain data -/

section

variable {α β : Type _} {r : α → β → Prop} {s : α → α → Prop} {t : β → β → Prop}

/-- Optional values are related as what they are turned into is, if values are. -/
theorem rel_iff_rel {a b : Option α} {p q : Option β} (first : Option.Rel r a p)
    (second : Option.Rel r b q)
    (same : ∀ v ∈ a, ∀ w ∈ b, ∀ p q, r v p → r w q → (s v w ↔ t p q)) :
    Option.Rel s a b ↔ Option.Rel t p q := by
  cases first with
  | none =>
    cases second with
    | none => exact iff_of_true .none .none
    | some => exact iff_of_false nofun nofun
  | @some v p turned =>
    cases second with
    | none => exact iff_of_false nofun nofun
    | @some w q turnedToo =>
      have iff := same v rfl w rfl p q turned turnedToo
      exact ⟨fun | .some related => .some (iff.mp related),
        fun | .some related => .some (iff.mpr related)⟩

/-- Lists are related one by one as what they are turned into is, if their items are. -/
theorem forall₂_iff_forall₂ {xs ys : List α} {ps qs : List β} (first : List.Forall₂ r xs ps)
    (second : List.Forall₂ r ys qs)
    (same : ∀ v ∈ xs, ∀ w ∈ ys, ∀ p q, r v p → r w q → (s v w ↔ t p q)) :
    List.Forall₂ s xs ys ↔ List.Forall₂ t ps qs := by
  induction first generalizing ys qs with
  | nil =>
    cases second with
    | nil => exact iff_of_true .nil .nil
    | cons => exact iff_of_false nofun nofun
  | @cons x p xs ps turned _ ih =>
    cases second with
    | nil => exact iff_of_false nofun nofun
    | @cons y q ys qs turnedToo others =>
      rw [List.forall₂_cons, List.forall₂_cons,
        same x List.mem_cons_self y List.mem_cons_self p q turned turnedToo]
      exact and_congr_right fun _ => ih others fun v inXs w inYs =>
        same v (List.mem_cons_of_mem x inXs) w (List.mem_cons_of_mem y inYs)

end

/-- Structured data is the same if its plain data is. -/
theorem agrees_iff_unwrap {v w p q : Value} (made₁ : v.Made) (made₂ : w.Made)
    (unwraps₁ : v.unwrap = .ok p) (unwraps₂ : w.unwrap = .ok q) : v.Agrees w ↔ p.Agrees q := by
  induction made₁ generalizing w p q with
  | scalar text =>
    cases unwraps₁
    cases made₂ with
    | scalar other =>
      cases unwraps₂
      exact Iff.rfl
    | mapping =>
      obtain ⟨_, rfl, _⟩ := unwrap_mapping unwraps₂
      exact iff_of_false Bool.false_ne_true Bool.false_ne_true
    | sequence =>
      obtain ⟨_, rfl, _⟩ := unwrap_sequence unwraps₂
      exact iff_of_false Bool.false_ne_true Bool.false_ne_true
  | mapping parts _ ih =>
    obtain ⟨plain₁, rfl, first⟩ := unwrap_mapping unwraps₁
    cases made₂ with
    | scalar other =>
      cases unwraps₂
      exact iff_of_false Bool.false_ne_true Bool.false_ne_true
    | mapping partsToo =>
      obtain ⟨plain₂, rfl, second⟩ := unwrap_mapping unwraps₂
      rw [same_mapping_iff, same_record_iff (nodup_ofPairs _) (nodup_ofPairs _)]
      simp only [entryAt?_record, get?_ofPairs]
      refine forall_congr' fun key => rel_iff_rel (first key) (second key) ?_
      intro value given other givenToo p q unwraps unwrapsToo
      exact ih _ (mem_of_last? given) (partsToo _ (mem_of_last? givenToo)) unwraps unwrapsToo
    | sequence =>
      obtain ⟨_, rfl, _⟩ := unwrap_sequence unwraps₂
      exact iff_of_false Bool.false_ne_true Bool.false_ne_true
  | sequence parts _ ih =>
    obtain ⟨plain₁, rfl, first⟩ := unwrap_sequence unwraps₁
    cases made₂ with
    | scalar other =>
      cases unwraps₂
      exact iff_of_false Bool.false_ne_true Bool.false_ne_true
    | mapping =>
      obtain ⟨_, rfl, _⟩ := unwrap_mapping unwraps₂
      exact iff_of_false Bool.false_ne_true Bool.false_ne_true
    | sequence partsToo =>
      obtain ⟨plain₂, rfl, second⟩ := unwrap_sequence unwraps₂
      refine sameItems_iff.trans ((forall₂_iff_forall₂ first second ?_).trans sameItems_iff.symm)
      intro item member other memberToo p q unwraps unwrapsToo
      exact ih item member (partsToo other memberToo) unwraps unwrapsToo

/-! ## An equivalence -/

section

variable {α β γ : Type _} {r : α → β → Prop} {s : β → γ → Prop} {t : α → γ → Prop}

/-- Optional values are related the other way round, if values are. -/
theorem rel_swap {u : β → α → Prop} {a : Option α} {b : Option β} (related : Option.Rel r a b)
    (swap : ∀ x ∈ a, ∀ y ∈ b, r x y → u y x) : Option.Rel u b a := by
  cases related with
  | none => exact .none
  | @some x y related => exact .some (swap x rfl y rfl related)

/-- Optional values are related over a third one, if values are. -/
theorem rel_comp {a : Option α} {b : Option β} {c : Option γ} (first : Option.Rel r a b)
    (second : Option.Rel s b c) (comp : ∀ x ∈ a, ∀ y ∈ b, ∀ z ∈ c, r x y → s y z → t x z) :
    Option.Rel t a c := by
  cases first with
  | none =>
    cases second with
    | none => exact .none
  | @some x y related =>
    cases second with
    | @some _ z relatedToo => exact .some (comp x rfl y rfl z rfl related relatedToo)

/-- Lists are related the other way round, if their items are. -/
theorem forall₂_swap_of_mem {u : β → α → Prop} {xs : List α} {ys : List β}
    (related : List.Forall₂ r xs ys) (swap : ∀ x ∈ xs, ∀ y ∈ ys, r x y → u y x) :
    List.Forall₂ u ys xs := by
  induction related with
  | nil => exact .nil
  | @cons x y xs ys related _ ih =>
    refine .cons (swap x List.mem_cons_self y List.mem_cons_self related) (ih ?_)
    exact fun v inXs w inYs => swap v (List.mem_cons_of_mem x inXs) w (List.mem_cons_of_mem y inYs)

/-- Lists are related over a third one, if their items are. -/
theorem forall₂_comp {xs : List α} {ys : List β} {zs : List γ} (first : List.Forall₂ r xs ys)
    (second : List.Forall₂ s ys zs)
    (comp : ∀ x ∈ xs, ∀ y ∈ ys, ∀ z ∈ zs, r x y → s y z → t x z) : List.Forall₂ t xs zs := by
  induction first generalizing zs with
  | nil =>
    cases second with
    | nil => exact .nil
  | @cons x y xs ys related _ ih =>
    cases second with
    | @cons _ z _ zs relatedToo others =>
      refine .cons (comp x List.mem_cons_self y List.mem_cons_self z List.mem_cons_self related
        relatedToo) (ih others ?_)
      exact fun u inXs v inYs w inZs => comp u (List.mem_cons_of_mem x inXs) v
        (List.mem_cons_of_mem y inYs) w (List.mem_cons_of_mem z inZs)

end

namespace Value.Made

/-- Structured data is the same as itself. -/
theorem agrees_refl {v : Value} (made : v.Made) : v.Agrees v := by
  induction made with
  | scalar text => exact beq_self_eq_true text
  | mapping _ _ ih =>
    refine same_mapping_iff.mpr fun key => ?_
    cases given : Entries.last? key _ with
    | none => exact .none
    | some value => exact .some (ih _ (mem_of_last? given))
  | sequence _ _ ih => exact sameItems_iff.mpr (List.forall₂_same.mpr ih)

/-- Structured data is the same as other that is the same as it. -/
theorem agrees_symm {v w : Value} (made₁ : v.Made) (made₂ : w.Made) (same : v.Agrees w) :
    w.Agrees v := by
  induction made₁ generalizing w with
  | scalar text =>
    cases made₂ with
    | scalar other => exact beq_iff_eq.mpr (beq_iff_eq.mp same).symm
    | _ => cases same
  | mapping _ _ ih =>
    cases made₂ with
    | mapping partsToo =>
      refine same_mapping_iff.mpr fun key => rel_swap (same_mapping_iff.mp same key) ?_
      intro value given other givenToo agrees
      exact ih _ (mem_of_last? given) (partsToo _ (mem_of_last? givenToo)) agrees
    | _ => cases same
  | sequence _ _ ih =>
    cases made₂ with
    | sequence partsToo =>
      refine sameItems_iff.mpr (forall₂_swap_of_mem (sameItems_iff.mp same) ?_)
      exact fun item member other memberToo => ih item member (partsToo other memberToo)
    | _ => cases same

/-- Structured data that is the same as a third is the same. -/
theorem agrees_trans {u v w : Value} (made₁ : u.Made) (made₂ : v.Made) (made₃ : w.Made)
    (same₁ : u.Agrees v) (same₂ : v.Agrees w) : u.Agrees w := by
  induction made₁ generalizing v w with
  | scalar text =>
    cases made₂ with
    | scalar other =>
      obtain rfl := beq_iff_eq.mp same₁
      exact same₂
    | _ => cases same₁
  | mapping _ _ ih =>
    cases made₂ with
    | mapping parts₂ =>
      cases made₃ with
      | mapping parts₃ =>
        refine same_mapping_iff.mpr fun key =>
          rel_comp (same_mapping_iff.mp same₁ key) (same_mapping_iff.mp same₂ key) ?_
        intro first given₁ second given₂ third given₃
        exact ih _ (mem_of_last? given₁) (parts₂ _ (mem_of_last? given₂))
          (parts₃ _ (mem_of_last? given₃))
      | _ => cases same₂
    | _ => cases same₁
  | sequence _ _ ih =>
    cases made₂ with
    | sequence parts₂ =>
      cases made₃ with
      | sequence parts₃ =>
        refine sameItems_iff.mpr
          (forall₂_comp (sameItems_iff.mp same₁) (sameItems_iff.mp same₂) ?_)
        exact fun first inFirst second inSecond third inThird =>
          ih first inFirst (parts₂ second inSecond) (parts₃ third inThird)
      | _ => cases same₂
    | _ => cases same₁

end Value.Made

/-! ## Wrapping again -/

/-- Entries under texts are wrapped one by one if each value is, and as a scalar under the key of an
attribute. -/
theorem exists_wrapEntries {pairs : List (String × Value)}
    (parts : ∀ pair ∈ pairs, ∃ value, pair.2.wrap = .ok value ∧
      (marksAttribute pair.1 = true → value.isScalar = true)) :
    ∃ wrapped, wrapEntries (pairs.map fun pair => (.text pair.1, pair.2)) = .ok wrapped ∧
      List.Forall₂ (fun entry pair => entry.1 = pair.1 ∧ pair.2.wrap = .ok entry.2) wrapped
        pairs := by
  induction pairs with
  | nil => exact ⟨[], rfl, .nil⟩
  | cons pair rest ih =>
    obtain ⟨⟨value, wraps, scalar⟩, others⟩ := List.forall_mem_cons.mp parts
    obtain ⟨wrapped, wrapsRest, oneByOne⟩ := ih others
    have checked : checkEntry pair.1 value = .ok () := by
      refine if_neg fun both => ?_
      obtain ⟨marked, noScalar⟩ := Bool.and_eq_true_iff.mp both
      rw [scalar marked] at noScalar
      cases noScalar
    refine ⟨(pair.1, value) :: wrapped, ?_, .cons ⟨rfl, wraps⟩ oneByOne⟩
    rw [List.map_cons, wrapEntries, entryKey, ok_bind, wraps, ok_bind, checked, ok_bind, wrapsRest]
    rfl

/-- Items are wrapped one by one if each is, and not as a sequence. -/
theorem exists_wrapItems {items : List Value}
    (parts : ∀ item ∈ items, ∃ value, item.wrap = .ok value ∧ value.isSequence = false) :
    ∃ wrapped, wrapItems items = .ok wrapped ∧
      List.Forall₂ (fun value item => item.wrap = .ok value) wrapped items := by
  induction items with
  | nil => exact ⟨[], rfl, .nil⟩
  | cons item rest ih =>
    obtain ⟨⟨value, wraps, single⟩, others⟩ := List.forall_mem_cons.mp parts
    obtain ⟨wrapped, wrapsRest, oneByOne⟩ := ih others
    refine ⟨value :: wrapped, ?_, .cons wraps oneByOne⟩
    rw [wrapItems, wraps, ok_bind, single, wrapsRest]
    rfl

/-- What structured data was unwrapped as is wrapped as the same data, of the same kind. -/
theorem Value.Made.rewraps {v p : Value} (made : v.Made) (unwraps : v.unwrap = .ok p) :
    ∃ w, p.wrap = .ok w ∧ w.Agrees v ∧ w.isScalar = v.isScalar ∧ w.isSequence = v.isSequence := by
  induction made generalizing p with
  | scalar text =>
    cases unwraps
    exact ⟨.scalar text, rfl, beq_self_eq_true text, rfl, rfl⟩
  | @mapping entries _ accepted ih =>
    obtain ⟨plain, rfl, oneByOne⟩ := unwrap_mapping unwraps
    have parts : ∀ pair ∈ Entries.ofPairs plain, ∃ value, pair.2.wrap = .ok value ∧
        (marksAttribute pair.1 = true → value.isScalar = true) := by
      intro pair member
      obtain ⟨original, given, unwraps⟩ := exists_last?_of_mem oneByOne member
      have inEntries := mem_of_last? given
      obtain ⟨value, wraps, -, sameKind, -⟩ := ih _ inEntries unwraps
      exact ⟨value, wraps, fun marked =>
        sameKind.trans (scalar_of_mappingOf accepted _ inEntries marked)⟩
    obtain ⟨wrapped, wraps, wrapsEach⟩ := exists_wrapEntries parts
    refine ⟨.mapping wrapped, map_eq_ok.mpr ⟨wrapped, wraps, rfl⟩, same_mapping_iff.mpr ?_, rfl,
      rfl⟩
    intro key
    have wrapsLast := rel_last? (r := fun w p : Value => p.wrap = .ok w) wrapsEach key
    rw [last?_eq_get? (nodup_ofPairs plain), get?_ofPairs] at wrapsLast
    have unwrapsLast := rel_swap (u := fun p v => v.unwrap = .ok p) (oneByOne key) fun _ _ _ _ => id
    refine rel_comp wrapsLast unwrapsLast fun w _ p _ v given wraps unwraps => ?_
    obtain ⟨_, wrapsToo, agrees, -⟩ := ih _ (mem_of_last? given) unwraps
    rw [wraps] at wrapsToo
    cases wrapsToo
    exact agrees
  | @sequence items _ accepted ih =>
    obtain ⟨plain, rfl, oneByOne⟩ := unwrap_sequence unwraps
    have parts : ∀ p ∈ plain, ∃ value, p.wrap = .ok value ∧ value.isSequence = false := by
      intro p member
      obtain ⟨original, inItems, unwraps⟩ := exists_of_forall₂ oneByOne member
      obtain ⟨value, wraps, -, -, sameKind⟩ := ih _ inItems unwraps
      exact ⟨value, wraps, sameKind.trans (single_of_sequenceOf accepted _ inItems)⟩
    obtain ⟨wrapped, wraps, wrapsEach⟩ := exists_wrapItems parts
    refine ⟨.sequence wrapped, map_eq_ok.mpr ⟨wrapped, wraps, rfl⟩, sameItems_iff.mpr ?_, rfl, rfl⟩
    have unwrapsEach := forall₂_swap_of_mem (u := fun p v => v.unwrap = .ok p) oneByOne
      fun _ _ _ _ => id
    refine forall₂_comp wrapsEach unwrapsEach fun w _ p _ v inItems wraps unwraps => ?_
    obtain ⟨_, wrapsToo, agrees, -⟩ := ih v inItems unwraps
    rw [wraps] at wrapsToo
    cases wrapsToo
    exact agrees

/-! ## Structured data and its plain data -/

/-- Structured data is the same as other exactly if its plain data, which it always has and which is
of texts alone, is the same; this is an equivalence; and the plain data is always wrapped again, as
the same data. -/
theorem same_iff_same_unwrap :
    (∀ a b : {v : Value // v.Made}, ∃ p q, a.1.unwrap = .ok p ∧ b.1.unwrap = .ok q ∧
      p.Textual ∧ q.Textual ∧ (a.1.same b.1 = true ↔ p.same q = true)) ∧
    Equivalence (fun a b : {v : Value // v.Made} => a.1.same b.1 = true) ∧
    ∀ a : {v : Value // v.Made}, ∃ p w, a.1.unwrap = .ok p ∧ p.wrap = .ok w ∧
      w.same a.1 = true := by
  refine ⟨fun a b => ?_, ⟨fun a => a.2.agrees_refl, fun {a b} => a.2.agrees_symm b.2,
    fun {a b c} => a.2.agrees_trans b.2 c.2⟩, fun a => ?_⟩
  · obtain ⟨p, unwraps₁⟩ := a.2.exists_unwrap
    obtain ⟨q, unwraps₂⟩ := b.2.exists_unwrap
    exact ⟨p, q, unwraps₁, unwraps₂, a.2.textual unwraps₁, b.2.textual unwraps₂,
      agrees_iff_unwrap a.2 b.2 unwraps₁ unwraps₂⟩
  · obtain ⟨p, unwraps⟩ := a.2.exists_unwrap
    obtain ⟨w, wraps, agrees, -⟩ := a.2.rewraps unwraps
    exact ⟨p, w, unwraps, wraps, agrees⟩

/-- A key that is given again, inside a sequence, and another order are no difference. -/
theorem same_unwrap_of_given_again : ∃ p q,
    (Value.mapping [("k", .scalar "0"), ("m", .sequence [.mapping [("x", .scalar "1"),
      ("@y", .scalar "2"), ("x", .scalar "3")]])]).unwrap = .ok p ∧
    (Value.mapping [("m", .sequence [.mapping [("x", .scalar "3"), ("@y", .scalar "2")]]),
      ("k", .scalar "0")]).unwrap = .ok q ∧ p.Textual ∧ q.Textual ∧ p.same q = true := by
  have first : (Value.mapping [("x", .scalar "1"), ("@y", .scalar "2"),
      ("x", .scalar "3")]).Made :=
    .mapping (by simp [Value.Made.scalar]) rfl
  have second : (Value.mapping [("x", .scalar "3"), ("@y", .scalar "2")]).Made :=
    .mapping (by simp [Value.Made.scalar]) rfl
  have many : (Value.sequence [.mapping [("x", .scalar "1"), ("@y", .scalar "2"),
      ("x", .scalar "3")]]).Made :=
    .sequence (List.forall_mem_singleton.mpr first) rfl
  have once : (Value.sequence [.mapping [("x", .scalar "3"), ("@y", .scalar "2")]]).Made :=
    .sequence (List.forall_mem_singleton.mpr second) rfl
  obtain ⟨p, q, unwraps₁, unwraps₂, textual₁, textual₂, same⟩ := same_iff_same_unwrap.1
    ⟨.mapping [("k", .scalar "0"), ("m", .sequence [.mapping [("x", .scalar "1"),
      ("@y", .scalar "2"), ("x", .scalar "3")]])], .mapping (by simp [Value.Made.scalar, many]) rfl⟩
    ⟨.mapping [("m", .sequence [.mapping [("x", .scalar "3"), ("@y", .scalar "2")]]),
      ("k", .scalar "0")], .mapping (by simp [Value.Made.scalar, once]) rfl⟩
  exact ⟨p, q, unwraps₁, unwraps₂, textual₁, textual₂, same.mp rfl⟩

end XmlGraft.Data
