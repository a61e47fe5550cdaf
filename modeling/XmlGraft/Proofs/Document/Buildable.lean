import XmlGraft.Proofs.Document.Edits
import XmlGraft.Proofs.Xml.Law

/-!
# Buildable values — when a value denotes an element

A value whose parts have paths that can be spelled denotes an element exactly if it stands for one
and markup can hold all its texts (`ofValue_isOk_iff`). The texts are those that its edits write.
-/

namespace XmlGraft

open Xml Data XmlGraft.Path

/-! ## Texts of edits -/

/-- Markup can hold every text that some edits write. -/
def AllWritable (edits : List Edit) : Prop := ∀ edit ∈ edits, Writable edit.2

theorem allWritable_append {first second : List Edit} :
    AllWritable (first ++ second) ↔ AllWritable first ∧ AllWritable second := by
  simp only [AllWritable, List.mem_append, or_imp, forall_and]

/-- Edits of a child write the same texts as they do in it. -/
theorem allWritable_atChild {step : Part} {edits : List Edit} :
    AllWritable (atChild step edits) ↔ AllWritable edits := List.forall_mem_map

theorem allWritable_singleton {steps : List Part} {text : Option String} :
    AllWritable [(steps, text)] ↔ Writable text := by
  simp [AllWritable]

/-- What a mapping writes is what its attributes and its element entries do. -/
theorem allWritable_mapping {entries : List (String × Value)} :
    AllWritable (edits (.mapping entries)) ↔
      AllWritable (attributeEdits (Value.attributesOf entries)) ∧
        AllWritable (entryEdits entries) := by
  rw [← allWritable_append, edits]
  by_cases empty :
      (attributeEdits (Value.attributesOf entries) ++ entryEdits entries).isEmpty = true
  · rw [if_pos empty, List.isEmpty_iff.mp empty, allWritable_singleton]
    exact ⟨fun _ _ member => absurd member List.not_mem_nil, fun _ => writable_none⟩
  · rw [if_neg empty]

namespace Xml.Element

/-! ## Building -/

/-- Attributes can be set if markup can hold their values. -/
theorem setAttributes_isOk_iff {attributes : List (String × Value)}
    (names : ∀ a ∈ attributes, isNCName a.1 = true) {e : Element} :
    (∃ left, e.setAttributes attributes = .ok left) ↔
      AllWritable (attributeEdits attributes) := by
  induction attributes generalizing e with
  | nil => exact ⟨fun _ _ member => absurd member List.not_mem_nil, fun _ => ⟨e, rfl⟩⟩
  | cons entry rest ih =>
    obtain ⟨name, value⟩ := entry
    obtain ⟨isName, others⟩ := List.forall_mem_cons.mp names
    have split : AllWritable (attributeEdits ((name, value) :: rest)) ↔
        compatible (attributeText value) = true ∧ AllWritable (attributeEdits rest) := by
      simp [AllWritable, attributeEdits, Writable]
    rw [setAttributes, setAttribute_plain isName, split]
    by_cases writable : compatible (attributeText value) = true
    · rw [if_pos writable, ok_bind, ih others]
      exact (and_iff_right writable).symm
    · rw [if_neg writable]
      constructor
      · rintro ⟨_, none⟩
        cases none
      · exact fun both => absurd both.1 writable

/-- A new text can be made if markup can hold it. -/
theorem ofText_isOk_iff {tag text : String} (isName : isNCName tag = true) :
    (∃ e, ofText tag text = .ok e) ↔ Writable (someText text) := by
  have written : Writable (someText text) ↔ compatible text = true := by
    by_cases empty : text = ""
    · subst empty
      exact ⟨fun _ => rfl, fun _ => writable_none⟩
    · simp [Writable, someText, empty]
  rw [ofText, new_plain isName, ok_bind, checkText, written]
  by_cases writable : compatible text = true
  · rw [if_pos writable]
    exact ⟨fun _ => writable, fun _ => ⟨_, rfl⟩⟩
  · rw [if_neg writable]
    constructor
    · rintro ⟨_, none⟩
      cases none
    · exact fun text => absurd text writable

/-- A mapping denotes an element if its attributes can be set and its children can be made. -/
theorem ofValue_mapping_isOk_iff {tag : String} (isName : isNCName tag = true)
    {entries : List (String × Value)} :
    (∃ e, ofValue tag (.mapping entries) = .ok e) ↔
      (∃ marked, (blank tag).setAttributes (Value.attributesOf entries) = .ok marked) ∧
        ∃ children, ofEntries entries = .ok children := by
  rw [ofValue, new_plain isName, ok_bind]
  constructor
  · rintro ⟨e, built⟩
    obtain ⟨marked, set, built⟩ := bind_eq_ok.mp built
    obtain ⟨children, builtChildren, _⟩ := bind_eq_ok.mp built
    exact ⟨⟨marked, set⟩, children, builtChildren⟩
  · rintro ⟨⟨marked, set⟩, children, built⟩
    exact ⟨marked.appendAll children, by rw [set, ok_bind, built]; rfl⟩

mutual

/-- A value whose parts have paths that can be spelled denotes an element exactly if it stands for
one and markup can hold its texts. -/
theorem ofValue_isOk_iff (value : Value) (spellable : value.Spellable) {tag : String}
    (isName : isNCName tag = true) :
    (∃ e, ofValue tag value = .ok e) ↔ value.IsNode ∧ AllWritable (edits value) := by
  cases value with
  | scalar text =>
    rw [ofValue, ofText_isOk_iff isName, edits, allWritable_singleton]
    exact (and_iff_right trivial).symm
  | mapping entries =>
    rw [ofValue_mapping_isOk_iff isName, allWritable_mapping,
      setAttributes_isOk_iff (EntriesSpellable.attributesOf spellable),
      ofEntries_isOk_iff entries spellable, Value.IsNode, and_left_comm]
  | _ =>
    constructor
    · rintro ⟨e, built⟩
      obtain ⟨_, none, _⟩ | ⟨_, _, _, _, none, _⟩ := ofValue_cases built
      · cases none
      · cases none
    · exact fun isNode => isNode.1.elim

/-- So it is with the elements that entries denote. -/
theorem ofEntries_isOk_iff (entries : List (String × Value))
    (spellable : EntriesSpellable entries) :
    (∃ children, ofEntries entries = .ok children) ↔
      EntriesAreNodes entries ∧ AllWritable (entryEdits entries) := by
  cases entries with
  | nil => exact ⟨fun _ => ⟨trivial, fun _ member => absurd member List.not_mem_nil⟩,
      fun _ => ⟨[], rfl⟩⟩
  | cons entry rest =>
    obtain ⟨key, value⟩ := entry
    have others := ofEntries_isOk_iff rest spellable.2
    by_cases marked : marksAttribute key = true
    · rw [ofEntries_marked marked, entriesAreNodes_marked marked,
        (entryEdits_marked value rest marked []).2, others]
    · have one : ¬value.isSequence = true →
          ((∃ children, ofEntries ((key, value) :: rest) = .ok children) ↔
            EntriesAreNodes ((key, value) :: rest) ∧
              AllWritable (entryEdits ((key, value) :: rest))) := by
        intro single
        obtain ⟨isName, spellableValue⟩ := spellable.single marked single
        have first := ofValue_isOk_iff value spellableValue isName
        rw [entriesAreNodes_single single, (entryEdits_single value rest marked single []).2,
          allWritable_append, allWritable_atChild, or_iff_right marked, and_and_and_comm, ← first,
          ← others]
        simp only [ofEntries_single marked single]
        constructor
        · rintro ⟨_, first, others, built, builtOthers, rfl⟩
          exact ⟨⟨first, built⟩, others, builtOthers⟩
        · rintro ⟨⟨first, built⟩, others, builtOthers⟩
          exact ⟨_, first, others, built, builtOthers, rfl⟩
      cases value with
      | sequence items =>
        obtain ⟨isName, spellableItems, _⟩ := spellable.sequence marked
        have first := ofItems_isOk_iff items spellableItems isName 1
        rw [EntriesAreNodes, entryEdits, if_neg marked, allWritable_append, or_iff_right marked,
          and_and_and_comm, ← first, ← others]
        simp only [ofEntries_sequence marked]
        constructor
        · rintro ⟨_, first, others, built, builtOthers, rfl⟩
          exact ⟨⟨first, built⟩, others, builtOthers⟩
        · rintro ⟨⟨first, built⟩, others, builtOthers⟩
          exact ⟨_, first, others, built, builtOthers, rfl⟩
      | _ => exact one Bool.false_ne_true

/-- So it is with the siblings that items denote. -/
theorem ofItems_isOk_iff (items : List Value) (spellable : ItemsSpellable items) {key : String}
    (isName : items ≠ [] → isNCName key = true) (position : Nat) :
    (∃ children, ofItems key items = .ok children) ↔
      ItemsAreNodes items ∧ AllWritable (itemEdits key position items) := by
  cases items with
  | nil => exact ⟨fun _ => ⟨trivial, fun _ member => absurd member List.not_mem_nil⟩,
      fun _ => ⟨[], rfl⟩⟩
  | cons item rest =>
    have named := isName (List.cons_ne_nil item rest)
    have first := ofValue_isOk_iff item spellable.1 named
    have others := ofItems_isOk_iff rest spellable.2 (fun _ => named) (position + 1)
    rw [ItemsAreNodes, itemEdits, allWritable_append, allWritable_atChild, and_and_and_comm,
      ← first, ← others]
    simp only [ofItems_cons]
    constructor
    · rintro ⟨_, first, others, built, builtOthers, rfl⟩
      exact ⟨⟨first, built⟩, others, builtOthers⟩
    · rintro ⟨⟨first, built⟩, others, builtOthers⟩
      exact ⟨_, first, others, built, builtOthers, rfl⟩

end

end Xml.Element

end XmlGraft
