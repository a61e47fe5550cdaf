import XmlGraft.Proofs.Data.Entries
import XmlGraft.Proofs.Data.NormalForm
import XmlGraft.Proofs.Data.Wrapped

/-!
# Tidy data — plain data that is its own normal form

Plain data is tidy if it is a text, a list of at least two items, or a dictionary that is not empty,
with different keys, and so on inside. Then nothing is lost or put together on the way to its normal
form, and the two are the same data (`same_forms`). Attributes come first in a normal form, but the
order of a dictionary does not matter for being the same.
-/

namespace XmlGraft.Data

open Xml

mutual

/-- Texts, lists of two items or more, and dictionaries with different keys that are not empty. -/
def Value.Tidy : Value → Prop
  | .text _ => True
  | .list items => 2 ≤ items.length ∧ TidyItems items
  | .dict entries =>
    entries ≠ [] ∧ (entries.Pairwise fun a b => ¬a.1.same b.1 = true) ∧ TidyEntries entries
  | _ => False

/-- The values of a dictionary are tidy. -/
def TidyEntries : List (Value × Value) → Prop
  | [] => True
  | (_, value) :: rest => value.Tidy ∧ TidyEntries rest

/-- The items of a list are tidy. -/
def TidyItems : List Value → Prop
  | [] => True
  | item :: rest => item.Tidy ∧ TidyItems rest

end

/-- The values of a dictionary are tidy if each of them is. -/
theorem tidyEntries_iff {entries : List (Value × Value)} :
    TidyEntries entries ↔ ∀ entry ∈ entries, entry.2.Tidy := by
  induction entries with
  | nil => exact iff_of_true trivial fun _ member => absurd member List.not_mem_nil
  | cons entry rest ih => rw [TidyEntries, ih, List.forall_mem_cons]

/-- The items of a list are tidy if each of them is. -/
theorem tidyItems_iff {items : List Value} : TidyItems items ↔ ∀ item ∈ items, item.Tidy := by
  induction items with
  | nil => exact iff_of_true trivial fun _ member => absurd member List.not_mem_nil
  | cons item rest ih => rw [TidyItems, ih, List.forall_mem_cons]

/-- A group of tidy values has a tidy value. -/
theorem tidy_groupValue {values : List Value} (some : values ≠ [])
    (tidy : ∀ value ∈ values, value.Tidy) : (groupValue values).Tidy := by
  match values, some with
  | [only], _ => exact tidy only List.mem_cons_self
  | first :: second :: rest, _ =>
    have several : 2 ≤ (first :: second :: rest).length := Nat.le_add_left 2 rest.length
    exact ⟨several, tidyItems_iff.mpr tidy⟩

/-- The forms of the elements that an entry with this value denotes. -/
def Value.forms : Value → List Value
  | .sequence items => itemForms items
  | value => [value.normalForm]

/-- What an entry is read as, if no other has its key. -/
def readForm (entry : String × Value) : Value × Value :=
  (.text entry.1, groupValue entry.2.forms)

/-! ## Mappings without repeated keys -/

/-- A key that is not given yet is put last. -/
theorem put_absent {key : String} (value : String) {entries : List (String × String)}
    (absent : key ∉ entries.map (·.1)) :
    Entries.put key value entries = entries ++ [(key, value)] := by
  induction entries with
  | nil => rfl
  | cons entry rest ih =>
    rw [List.map_cons, List.mem_cons, not_or] at absent
    have differs : ¬(entry.1 == key) = true := by
      rw [beq_iff_eq]
      exact Ne.symm absent.1
    rw [Entries.put, if_neg differs, ih absent.2]
    rfl

/-- Pairs with keys that are not given yet are put last. -/
theorem foldl_put_eq_append {pairs entries : List (String × String)}
    (once : ((entries ++ pairs).map (·.1)).Nodup) :
    pairs.foldl (fun entries pair => Entries.put pair.1 pair.2 entries) entries =
      entries ++ pairs := by
  induction pairs generalizing entries with
  | nil => exact (List.append_nil entries).symm
  | cons pair rest ih =>
    have absent : pair.1 ∉ entries.map (·.1) := by
      rw [List.map_append, List.nodup_append] at once
      intro member
      exact once.2.2 _ member _ List.mem_cons_self rfl
    have split : entries ++ pair :: rest = entries ++ [pair] ++ rest := List.append_cons _ _ _
    rw [split] at once ⊢
    rw [List.foldl_cons, put_absent _ absent]
    exact ih once

/-- Pairs with different keys are entries as they are. -/
theorem ofPairs_eq {pairs : List (String × String)} (once : (pairs.map (·.1)).Nodup) :
    Entries.ofPairs pairs = pairs :=
  foldl_put_eq_append once

/-- What entries denote comes in one block for each entry. -/
theorem elementForms_eq (entries : List (String × Value)) :
    elementForms entries = (Value.elementsOf entries).flatMap fun entry =>
      entry.2.forms.map fun form => (entry.1, form) := by
  induction entries with
  | nil => rfl
  | cons entry rest ih =>
    obtain ⟨key, value⟩ := entry
    by_cases marked : marksAttribute key = true
    · rw [elementForms_marked value rest marked, Value.elementsOf_marked marked, ih]
    · rw [Value.elementsOf_unmarked marked, List.flatMap_cons, ← ih]
      cases value with
      | sequence items => exact if_neg marked
      | _ => exact if_neg marked

/-- Entries that are read one by one: no key is given twice, attributes are scalars, and no other
value denotes nothing. -/
structure Separate (entries : List (String × Value)) : Prop where
  once : (entries.map (·.1)).Nodup
  shown : ∀ entry ∈ entries, entry.2.forms ≠ []
  scalars : ∀ entry ∈ entries, marksAttribute entry.1 = true → ∃ text, entry.2 = .scalar text

namespace Separate

variable {entries : List (String × Value)} (separate : Separate entries)
include separate

/-- Keys differ among some of the entries as well. -/
theorem once_filter (p : String × Value → Bool) : ((entries.filter p).map (·.1)).Nodup :=
  separate.once.sublist (List.filter_sublist.map fun entry : String × Value => entry.1)

/-- No attribute is given twice. -/
theorem ofPairs_attributePairs :
    Entries.ofPairs (attributePairs entries) = attributePairs entries := by
  refine ofPairs_eq ?_
  rw [attributePairs, List.map_map]
  exact separate.once_filter _

/-- The elements are gathered back into the entries that denote them. -/
theorem gather_elementForms :
    gather (elementForms entries) =
      (Value.elementsOf entries).map fun entry => (entry.1, entry.2.forms) := by
  have shown : ∀ block ∈ (Value.elementsOf entries).map fun entry => (entry.1, entry.2.forms),
      block.2 ≠ [] := by
    intro block member
    obtain ⟨entry, inElements, rfl⟩ := List.mem_map.mp member
    exact separate.shown entry (List.mem_filter.mp inElements).1
  have once : (((Value.elementsOf entries).map fun entry =>
      (entry.1, entry.2.forms)).map (·.1)).Nodup := by
    rw [List.map_map]
    exact separate.once_filter _
  have grouped := grouped_blocks shown once
  rw [List.flatMap_map] at grouped
  rw [← grouped_eq_gather, elementForms_eq]
  exact grouped

/-- Where there are entries, there are attributes or elements. -/
theorem not_both_empty (some : entries ≠ []) :
    ¬((attributePairs entries).isEmpty && (elementForms entries).isEmpty) = true := by
  intro both
  rw [Bool.and_eq_true, List.isEmpty_iff, List.isEmpty_iff, elementForms_eq,
    List.flatMap_eq_nil_iff, attributePairs, List.map_eq_nil_iff, List.filter_eq_nil_iff] at both
  obtain ⟨entry, rest, rfl⟩ := List.exists_cons_of_ne_nil some
  have unmarked := both.1 entry List.mem_cons_self
  have element : entry ∈ Value.elementsOf (entry :: rest) := by
    rw [Value.elementsOf_unmarked unmarked]
    exact List.mem_cons_self
  exact separate.shown entry List.mem_cons_self (List.map_eq_nil_iff.mp (both.2 entry element))

/-- A mapping with separate entries is read entry by entry, attributes first. -/
theorem normalForm_mapping (some : entries ≠ []) :
    (Value.mapping entries).normalForm =
      .dict ((entries.filter (fun entry => marksAttribute entry.1) ++
        Value.elementsOf entries).map readForm) := by
  rw [Value.normalForm, mappingForm, separate.ofPairs_attributePairs,
    if_neg (separate.not_both_empty some), separate.gather_elementForms, List.map_append,
    List.map_map]
  refine congrArg (fun first => Value.dict (first ++ _)) ?_
  rw [attributePairs, List.map_map]
  refine List.map_congr_left ?_
  intro entry member
  obtain ⟨inEntries, marked⟩ := List.mem_filter.mp member
  obtain ⟨text, scalar⟩ := separate.scalars entry inEntries marked
  show (Value.text entry.1, Value.text (Element.attributeText entry.2)) = readForm entry
  rw [readForm, scalar]
  rfl

end Separate

/-! ## The same data -/

/-- Entries are the same as others if each finds its key there with the same data. -/
theorem sameEntries_iff {entries others : List (Value × Value)} :
    sameEntries entries others = true ↔
      ∀ entry ∈ entries, ∃ other, others.find? (fun other => entry.1.same other.1) = some other ∧
        entry.2.same other.2 = true := by
  induction entries with
  | nil => exact ⟨fun _ _ member => absurd member List.not_mem_nil, fun _ => rfl⟩
  | cons entry rest ih =>
    obtain ⟨key, value⟩ := entry
    rw [sameEntries, Bool.and_eq_true, ih, List.forall_mem_cons]
    refine and_congr_left fun _ => ?_
    cases others.find? fun other => key.same other.1 with
    | none =>
      constructor
      · intro none
        cases none
      · rintro ⟨_, none, _⟩
        cases none
    | some other =>
      constructor
      · exact fun same => ⟨other, rfl, same⟩
      · rintro ⟨_, found, same⟩
        cases found
        exact same

/-- Wrapped entries that are read as the plain ones that they were, one by one. -/
inductive ReadAlike : List (String × Value) → List (Value × Value) → Prop
  | nil : ReadAlike [] []
  | cons {key : String} {value plain : Value} {wrapped : List (String × Value)}
    {rest : List (Value × Value)} (same : (groupValue value.forms).same plain = true)
    (shown : value.forms ≠ []) (scalar : marksAttribute key = true → ∃ text, value = .scalar text)
    (others : ReadAlike wrapped rest) :
    ReadAlike ((key, value) :: wrapped) ((.text key, plain) :: rest)

namespace ReadAlike

theorem length_eq {wrapped : List (String × Value)} {entries : List (Value × Value)}
    (alike : ReadAlike wrapped entries) : wrapped.length = entries.length := by
  induction alike with
  | nil => rfl
  | cons _ _ _ _ ih => exact congrArg (· + 1) ih

/-- Every key that is wrapped was given. -/
theorem key_given {wrapped : List (String × Value)} {entries : List (Value × Value)}
    (alike : ReadAlike wrapped entries) {key : String} (member : key ∈ wrapped.map (·.1)) :
    ∃ entry ∈ entries, entry.1 = .text key := by
  induction alike with
  | nil => exact absurd member List.not_mem_nil
  | cons _ _ _ _ ih =>
    rcases List.mem_cons.mp member with rfl | member
    · exact ⟨_, List.mem_cons_self, rfl⟩
    · obtain ⟨entry, inRest, same⟩ := ih member
      exact ⟨entry, List.mem_cons_of_mem _ inRest, same⟩

/-- Entries with different keys are separate when they are wrapped. -/
theorem separate {wrapped : List (String × Value)} {entries : List (Value × Value)}
    (alike : ReadAlike wrapped entries)
    (different : entries.Pairwise fun a b => ¬a.1.same b.1 = true) : Separate wrapped := by
  induction alike with
  | nil =>
    exact ⟨List.nodup_nil, fun _ member => absurd member List.not_mem_nil,
      fun _ member => absurd member List.not_mem_nil⟩
  | @cons key value plain wrapped rest _ shown scalar others ih =>
    obtain ⟨here, differentRest⟩ := List.pairwise_cons.mp different
    have separate := ih differentRest
    refine ⟨List.nodup_cons.mpr ⟨?_, separate.once⟩,
      List.forall_mem_cons.mpr ⟨shown, separate.shown⟩,
      List.forall_mem_cons.mpr ⟨scalar, separate.scalars⟩⟩
    intro member
    obtain ⟨other, inRest, same⟩ := others.key_given member
    have differs := here other inRest
    rw [same] at differs
    exact differs (beq_self_eq_true key)

/-- Each entry is found under its key among the plain ones, with the same data. -/
theorem find {wrapped : List (String × Value)} {entries : List (Value × Value)}
    (alike : ReadAlike wrapped entries) (once : (wrapped.map (·.1)).Nodup) :
    ∀ entry ∈ wrapped, ∃ other,
      entries.find? (fun other => (readForm entry).1.same other.1) = some other ∧
        (readForm entry).2.same other.2 = true := by
  induction alike with
  | nil => exact fun _ member => absurd member List.not_mem_nil
  | @cons key value plain wrapped rest same _ _ _ ih =>
    obtain ⟨notAgain, onceRest⟩ := List.nodup_cons.mp once
    intro entry member
    rcases List.mem_cons.mp member with rfl | inWrapped
    · have found : (readForm (key, value)).1.same (.text key) = true := beq_self_eq_true key
      refine ⟨(.text key, plain), ?_, same⟩
      rw [List.find?_cons, found]
    · obtain ⟨other, found, sameOther⟩ := ih onceRest entry inWrapped
      have passed : (readForm entry).1.same (.text key) = false := by
        refine beq_false_of_ne ?_
        intro equal
        exact notAgain (List.mem_map.mpr ⟨entry, inWrapped, equal⟩)
      refine ⟨other, ?_, sameOther⟩
      rw [List.find?_cons, passed]
      exact found

/-- A mapping of entries that are read alike is read as the same dictionary. -/
theorem same_normalForm {wrapped : List (String × Value)} {entries : List (Value × Value)}
    (alike : ReadAlike wrapped entries) (some : entries ≠ [])
    (different : entries.Pairwise fun a b => ¬a.1.same b.1 = true) :
    (Value.mapping wrapped).normalForm.same (.dict entries) = true := by
  have separate := alike.separate different
  have notEmpty : wrapped ≠ [] := by
    rintro rfl
    exact some (List.length_eq_zero_iff.mp alike.length_eq.symm)
  have parted : (wrapped.filter (fun entry => marksAttribute entry.1) ++
      Value.elementsOf wrapped).Perm wrapped := List.filter_append_perm _ wrapped
  rw [separate.normalForm_mapping notEmpty, Value.same, Bool.and_eq_true, beq_iff_eq,
    sameEntries_iff, List.length_map, parted.length_eq]
  refine ⟨alike.length_eq, ?_⟩
  intro entry member
  obtain ⟨given, inParts, rfl⟩ := List.mem_map.mp member
  exact alike.find separate.once given (parted.mem_iff.mp inParts)

end ReadAlike

/-! ## Tidy data -/

/-- A wrapped value that is no sequence has one form. -/
theorem forms_single {value : Value} (single : ¬value.isSequence = true) :
    value.forms = [value.normalForm] := by
  cases value with
  | sequence items => exact absurd rfl single
  | _ => rfl

/-- Two values or more are read as a list. -/
theorem groupValue_several {values : List Value} (several : 2 ≤ values.length) :
    groupValue values = .list values := by
  match values, several with
  | _ :: _ :: _, _ => rfl

mutual

/-- Tidy data that is wrapped is read as the same data. -/
theorem same_forms (value : Value) (tidy : value.Tidy) {wrapped : Value}
    (wraps : value.wrap = .ok wrapped) :
    wrapped.forms ≠ [] ∧ (groupValue wrapped.forms).same value = true := by
  cases value with
  | text s =>
    cases wraps
    exact ⟨List.cons_ne_nil _ _, beq_self_eq_true s⟩
  | list items =>
    obtain ⟨several, tidyItems⟩ := tidy
    obtain ⟨sequence, wrapsItems, rfl⟩ := map_eq_ok.mp wraps
    obtain ⟨length, same⟩ := same_items items tidyItems wrapsItems
    rw [← length] at several
    show itemForms sequence ≠ [] ∧ (groupValue (itemForms sequence)).same _ = true
    rw [groupValue_several several]
    refine ⟨?_, same⟩
    intro none
    rw [none] at several
    exact absurd several (by decide)
  | dict entries =>
    obtain ⟨some, different, tidyEntries⟩ := tidy
    obtain ⟨mapping, wrapsEntries, rfl⟩ := map_eq_ok.mp wraps
    have alike := same_entries entries tidyEntries wrapsEntries
    exact ⟨List.cons_ne_nil _ _, alike.same_normalForm some different⟩
  | _ => exact tidy.elim

/-- The entries of a tidy dictionary are read as they were. -/
theorem same_entries (entries : List (Value × Value)) (tidy : TidyEntries entries)
    {wrapped : List (String × Value)} (wraps : wrapEntries entries = .ok wrapped) :
    ReadAlike wrapped entries := by
  cases entries with
  | nil =>
    cases wraps
    exact .nil
  | cons entry rest =>
    obtain ⟨key, plain⟩ := entry
    obtain ⟨tidyHere, tidyRest⟩ := tidy
    obtain ⟨name, value, others, rfl, wrapsValue, scalar, wrapsRest, rfl⟩ := wrapEntries_cons wraps
    obtain ⟨shown, same⟩ := same_forms plain tidyHere wrapsValue
    exact .cons same shown scalar (same_entries rest tidyRest wrapsRest)

/-- The items of a tidy list are read as they were. -/
theorem same_items (items : List Value) (tidy : TidyItems items) {wrapped : List Value}
    (wraps : wrapItems items = .ok wrapped) :
    (itemForms wrapped).length = items.length ∧ sameItems (itemForms wrapped) items = true := by
  cases items with
  | nil =>
    cases wraps
    exact ⟨rfl, rfl⟩
  | cons item rest =>
    obtain ⟨tidyHere, tidyRest⟩ := tidy
    obtain ⟨value, others, wrapsValue, nested, wrapsRest, rfl⟩ := wrapItems_cons wraps
    obtain ⟨_, same⟩ := same_forms item tidyHere wrapsValue
    obtain ⟨length, sameRest⟩ := same_items rest tidyRest wrapsRest
    rw [forms_single nested] at same
    rw [itemForms, sameItems, Bool.and_eq_true]
    exact ⟨congrArg (· + 1) length, same, sameRest⟩

end

section Wrapped

variable {value wrapped : Value} (tidy : value.Tidy) (wraps : value.wrap = .ok wrapped)
include tidy wraps

/-- Tidy data is the same data as its normal form, unless it is a list. -/
theorem Value.Tidy.same_normalForm (single : ¬wrapped.isSequence = true) :
    wrapped.normalForm.same value = true := by
  have same := (same_forms value tidy wraps).2
  rw [forms_single single] at same
  exact same

/-- Tidy data is no empty mapping. -/
theorem Value.Tidy.wrap_ne_empty : wrapped ≠ .mapping [] := by
  rintro rfl
  have same := tidy.same_normalForm wraps Bool.false_ne_true
  cases value with
  | text s => cases wraps
  | list items =>
    obtain ⟨_, _, none⟩ := map_eq_ok.mp wraps
    cases none
  | dict entries => cases same
  | _ => exact tidy.elim

end Wrapped

end XmlGraft.Data
