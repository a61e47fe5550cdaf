import Mathlib.Data.List.Basic
import XmlGraft.Document.Writes
import XmlGraft.Proofs.Data.Addressable
import XmlGraft.Proofs.Document.Building
import XmlGraft.Proofs.Path.RoundTrip

/-!
# Edits — writes with their paths read

What a structured value writes at the end of some steps does not depend on those steps: it is a list
of *edits*, each some steps to take from there and what to write at their end (`edits`). The writes
of a value are its edits with their paths printed, and since a printed path reads back, they are
spelled right (`writesOf_spells`).

This asks that the value stands for an element (`Value.IsNode`), and that the path to each part of
it can be spelled (`Value.Spellable`).
-/

namespace XmlGraft

open Xml Data XmlGraft.Path

/-! ## Edits -/

/-- Steps to take from an element, and what to write at their end. -/
abbrev Edit := List Part × Option String

/-- The edits that some edits of a child are of its parent. -/
def atChild (step : Part) (edits : List Edit) : List Edit :=
  edits.map fun edit => (step :: edit.1, edit.2)

/-- The edits that set attributes. -/
def attributeEdits (attributes : List (String × Value)) : List Edit :=
  attributes.map fun entry => ([.attribute entry.1], some (Element.attributeText entry.2))

mutual

/-- The edits that build what a structured value denotes in an element without content. -/
def edits : Value → List Edit
  | .scalar text => [([], someText text)]
  | .mapping entries =>
    let body := attributeEdits (Value.attributesOf entries) ++ entryEdits entries
    if body.isEmpty then [([], none)] else body
  | _ => []

/-- The edits of the element entries of a mapping. -/
def entryEdits : List (String × Value) → List Edit
  | [] => []
  | (key, .sequence items) :: rest =>
    if marksAttribute key then entryEdits rest else itemEdits key 1 items ++ entryEdits rest
  | (key, value) :: rest =>
    if marksAttribute key then entryEdits rest
    else atChild (.element key) (edits value) ++ entryEdits rest

/-- The edits of the items of a sequence, from a position on. -/
def itemEdits (key : String) (position : Nat) : List Value → List Edit
  | [] => []
  | item :: rest =>
    atChild (.filtered key (.position position)) (edits item) ++ itemEdits key (position + 1) rest

end

/-- The edits of what stands under a key: one element, or one for each item. -/
def editsUnder (key : String) : Value → List Edit
  | .sequence items => itemEdits key 1 items
  | value => atChild (.element key) (edits value)

/-- What is no sequence is edited below one step. -/
theorem editsUnder_single (key : String) {value : Value} (single : ¬value.isSequence = true) :
    editsUnder key value = atChild (.element key) (edits value) := by
  cases value with
  | sequence items => exact absurd rfl single
  | _ => rfl

/-- An edit of items is one of the item at some position. -/
theorem mem_itemEdits {key : String} {position : Nat} {items : List Value} {edit : Edit} :
    edit ∈ itemEdits key position items ↔ ∃ index item, items[index]? = some item ∧
      edit ∈ atChild (.filtered key (.position (position + index : Nat))) (edits item) := by
  induction items generalizing position with
  | nil => exact iff_of_false List.not_mem_nil fun ⟨_, _, absent, _⟩ => nomatch absent
  | cons item rest ih =>
    rw [itemEdits, List.mem_append, ih]
    constructor
    · rintro (here | ⟨index, other, found, inside⟩)
      · exact ⟨0, item, rfl, here⟩
      · rw [Nat.succ_add_eq_add_succ] at inside
        exact ⟨index + 1, other, found, inside⟩
    · rintro ⟨index, other, found, inside⟩
      cases index with
      | zero =>
        cases found
        exact .inl inside
      | succ index =>
        rw [← Nat.succ_add_eq_add_succ] at inside
        exact .inr ⟨index, other, found, inside⟩

/-- An edit of entries is one of what stands under the key of some element. -/
theorem mem_entryEdits {entries : List (String × Value)} {edit : Edit} :
    edit ∈ entryEdits entries ↔ ∃ entry ∈ entries, ¬marksAttribute entry.1 = true ∧
      edit ∈ editsUnder entry.1 entry.2 := by
  induction entries with
  | nil => exact iff_of_false List.not_mem_nil fun ⟨_, member, _⟩ => List.not_mem_nil member
  | cons entry rest ih =>
    obtain ⟨key, value⟩ := entry
    have opened : entryEdits ((key, value) :: rest) =
        if marksAttribute key then entryEdits rest
        else editsUnder key value ++ entryEdits rest := by
      cases value with
      | _ => rfl
    rw [opened, List.exists_mem_cons_iff, ← ih]
    by_cases marked : marksAttribute key = true
    · rw [if_pos marked, or_iff_right fun first => first.1 marked]
    · rw [if_neg marked, List.mem_append, and_iff_right marked]

/-! ## Spelled edits -/

/-- Writes are some edits at the end of some steps, with their paths printed. -/
def Spells (steps : List Part) (edits : List Edit) (writes : List Write) : Prop :=
  writes.map (fun write => (parse write.1, write.2)) =
    edits.map fun edit => (.ok (steps ++ edit.1), edit.2)

/-- A path that leads to an element. -/
def LeadsToElement (steps : List Part) : Prop :=
  steps ≠ [] ∧ ∀ step ∈ steps, step.IsElementStep

/-- Element steps before a tail are a tail again. -/
theorem isTail_append {front more : List Part} (all : ∀ step ∈ front, step.IsElementStep)
    (tail : IsTail more) : IsTail (front ++ more) := by
  induction front with
  | nil => exact tail
  | cons step rest ih =>
    have others := ih fun other member => all other (List.mem_cons_of_mem step member)
    exact .step (all step List.mem_cons_self) others

/-- A path to an element may go on with any tail. -/
theorem LeadsToElement.wellFormed {steps more : List Part} (leads : LeadsToElement steps)
    (tail : IsTail more) : WellFormed (steps ++ more) := by
  obtain ⟨nonempty, isStep⟩ := leads
  cases steps with
  | nil => exact absurd rfl nonempty
  | cons step rest =>
    obtain ⟨head, others⟩ := List.forall_mem_cons.mp isStep
    exact ⟨head, isTail_append others tail⟩

/-- A path to an element leads to a child of that with one more step. -/
theorem LeadsToElement.snoc {steps : List Part} (leads : LeadsToElement steps) {step : Part}
    (isStep : step.IsElementStep) : LeadsToElement (steps ++ [step]) := by
  refine ⟨List.append_ne_nil_of_left_ne_nil leads.1 [step], ?_⟩
  intro other member
  rcases List.mem_append.mp member with member | member
  · exact leads.2 other member
  · rw [List.mem_singleton.mp member]
    exact isStep

namespace Spells

theorem nil (steps : List Part) : Spells steps [] [] := rfl

theorem append {steps : List Part} {first second : List Edit} {writes more : List Write}
    (here : Spells steps first writes) (there : Spells steps second more) :
    Spells steps (first ++ second) (writes ++ more) := by
  rw [Spells, List.map_append, List.map_append, here, there]

/-- What is spelled at a child is spelled at its parent, one step longer. -/
theorem atChild {steps : List Part} {step : Part} {edits : List Edit} {writes : List Write}
    (inside : Spells (steps ++ [step]) edits writes) :
    Spells steps (XmlGraft.atChild step edits) writes := by
  rw [Spells, XmlGraft.atChild, List.map_map, inside]
  refine List.map_congr_left ?_
  intro edit _
  rw [List.append_assoc]
  rfl

/-- There are as many writes as edits. -/
theorem isEmpty_eq {steps : List Part} {edits : List Edit} {writes : List Write}
    (spells : Spells steps edits writes) : writes.isEmpty = edits.isEmpty := by
  have same := congrArg List.isEmpty spells
  rw [List.isEmpty_map, List.isEmpty_map] at same
  exact same

/-- Every write spells an edit. -/
theorem mem {steps : List Part} {edits : List Edit} {writes : List Write}
    (spells : Spells steps edits writes) {write : Write} (member : write ∈ writes) :
    ∃ edit ∈ edits, parse write.1 = .ok (steps ++ edit.1) ∧ write.2 = edit.2 := by
  have spelled : (parse write.1, write.2) ∈
      edits.map fun edit => (Except.ok (steps ++ edit.1), edit.2) := by
    rw [← spells]
    exact List.mem_map_of_mem member
  obtain ⟨edit, inEdits, same⟩ := List.mem_map.mp spelled
  obtain ⟨parsed, text⟩ := Prod.mk.inj same
  exact ⟨edit, inEdits, parsed.symm, text.symm⟩

end Spells

/-- A single write is spelled right. -/
theorem writeAt_spells {steps more : List Part} (path : WellFormed (steps ++ more))
    (text : Option String) :
    ∃ writes, writeAt (steps ++ more) text = .ok writes ∧ Spells steps [(more, text)] writes := by
  obtain ⟨expression, printed, parsed⟩ := parse_print path
  refine ⟨[(expression, text)], ?_, ?_⟩
  · rw [writeAt, printed]
    rfl
  · rw [Spells, List.map_singleton, List.map_singleton, parsed]

/-- The writes of attributes are spelled right. -/
theorem writesOfAttributes_spells {attributes : List (String × Value)}
    (names : ∀ a ∈ attributes, isNCName a.1 = true) {steps : List Part}
    (leads : LeadsToElement steps) :
    ∃ writes, writesOfAttributes steps attributes = .ok writes ∧
      Spells steps (attributeEdits attributes) writes := by
  induction attributes with
  | nil => exact ⟨[], rfl, Spells.nil steps⟩
  | cons entry rest ih =>
    obtain ⟨name, value⟩ := entry
    have isName := names (name, value) List.mem_cons_self
    obtain ⟨first, wrote, spelled⟩ := writeAt_spells (leads.wellFormed (.last isName))
      (some (Element.attributeText value))
    obtain ⟨others, wroteOthers, spelledOthers⟩ :=
      ih fun a member => names a (List.mem_cons_of_mem _ member)
    refine ⟨first ++ others, ?_, spelled.append spelledOthers⟩
    rw [writesOfAttributes, wrote, ok_bind, wroteOthers]
    rfl

/-- A position that is written makes a step. -/
theorem isElementStep_position {key : String} (isName : isNCName key = true) {position : Nat}
    (positive : 1 ≤ position) (written : position < Decimal.integerLimit) :
    (Part.filtered key (.position position)).IsElementStep := by
  refine ⟨isName, Int.ofNat_le.mpr positive, ?_⟩
  rw [Int.natAbs_natCast]
  exact written

section Entries

variable {key : String} (value : Value) (rest : List (String × Value))

/-- An attribute entry is passed over among the element entries. -/
theorem entryEdits_marked (marked : marksAttribute key = true) (steps : List Part) :
    writesOfEntries steps ((key, value) :: rest) = writesOfEntries steps rest ∧
      entryEdits ((key, value) :: rest) = entryEdits rest := by
  cases value with
  | _ => exact ⟨if_pos marked, if_pos marked⟩

/-- An entry that is no sequence is written below one step. -/
theorem entryEdits_single (unmarked : ¬marksAttribute key = true)
    (single : ¬value.isSequence = true) (steps : List Part) :
    (writesOfEntries steps ((key, value) :: rest) =
        writesOf (steps ++ [.element key]) value >>= fun first =>
          writesOfEntries steps rest >>= fun others => .ok (first ++ others)) ∧
      entryEdits ((key, value) :: rest) =
        atChild (.element key) (edits value) ++ entryEdits rest := by
  cases value with
  | sequence items => exact absurd rfl single
  | _ => exact ⟨if_neg unmarked, if_neg unmarked⟩

end Entries

/-- A mapping writes its attributes and then its other entries, and where nothing is written in it,
the element that it denotes. -/
theorem writesOf_mapping {steps : List Part} {entries : List (String × Value)}
    {attributes others : List Write}
    (wroteAttributes : writesOfAttributes steps (Value.attributesOf entries) = .ok attributes)
    (wroteOthers : writesOfEntries steps entries = .ok others) :
    writesOf steps (.mapping entries) =
      if (attributes ++ others).isEmpty then writeAt steps none
      else .ok (attributes ++ others) := by
  have both : (attributes ++ others).isEmpty = (attributes.isEmpty && others.isEmpty) := by
    cases attributes with
    | _ => rfl
  cases entries with
  | nil =>
    cases wroteAttributes
    cases wroteOthers
    rfl
  | cons entry rest =>
    have some : ¬(entry :: rest).isEmpty = true := Bool.false_ne_true
    rw [writesOf, if_neg some, wroteAttributes, ok_bind, wroteOthers, ok_bind, ← both]
    rfl

mutual

/-- The writes of a value that stands for an element are its edits, spelled. -/
theorem writesOf_spells (value : Value) (spellable : value.Spellable) (isNode : value.IsNode)
    {steps : List Part} (leads : LeadsToElement steps) :
    ∃ writes, writesOf steps value = .ok writes ∧ Spells steps (edits value) writes := by
  have atEnd : ∀ text, ∃ writes, writeAt steps text = .ok writes ∧
      Spells steps [([], text)] writes := by
    intro text
    obtain ⟨writes, wrote, spelled⟩ := writeAt_spells (leads.wellFormed .nil) text
    rw [List.append_nil] at wrote
    exact ⟨writes, wrote, spelled⟩
  cases value with
  | scalar text => exact atEnd (someText text)
  | mapping entries =>
    obtain ⟨attributes, wroteAttributes, spelledAttributes⟩ :=
      writesOfAttributes_spells (EntriesSpellable.attributesOf spellable) leads
    obtain ⟨others, wroteOthers, spelledOthers⟩ :=
      writesOfEntries_spells entries spellable isNode leads
    have spelled := spelledAttributes.append spelledOthers
    have sameEmpty := spelled.isEmpty_eq
    rw [writesOf_mapping wroteAttributes wroteOthers, sameEmpty, edits]
    by_cases empty :
        (attributeEdits (Value.attributesOf entries) ++ entryEdits entries).isEmpty = true
    · simp only [if_pos empty]
      exact atEnd none
    · simp only [if_neg empty]
      exact ⟨_, rfl, spelled⟩
  | _ => exact isNode.elim

/-- The writes of entries that stand for elements are their edits, spelled. -/
theorem writesOfEntries_spells (entries : List (String × Value))
    (spellable : EntriesSpellable entries) (areNodes : EntriesAreNodes entries)
    {steps : List Part} (leads : LeadsToElement steps) :
    ∃ writes, writesOfEntries steps entries = .ok writes ∧
      Spells steps (entryEdits entries) writes := by
  cases entries with
  | nil => exact ⟨[], rfl, Spells.nil steps⟩
  | cons entry rest =>
    obtain ⟨key, value⟩ := entry
    by_cases marked : marksAttribute key = true
    · obtain ⟨skipped, skippedEdits⟩ := entryEdits_marked value rest marked steps
      rw [skipped, skippedEdits]
      exact writesOfEntries_spells rest spellable.2 ((entriesAreNodes_marked marked).mp areNodes)
        leads
    · have one : ¬value.isSequence = true → ∃ writes,
          writesOfEntries steps ((key, value) :: rest) = .ok writes ∧
            Spells steps (entryEdits ((key, value) :: rest)) writes := by
        intro single
        obtain ⟨isName, spellableValue⟩ := spellable.single marked single
        obtain ⟨isNode, others⟩ := (entriesAreNodes_single single).mp areNodes
        have isStep : (Part.element key).IsElementStep := isName
        obtain ⟨here, wroteHere, spelledHere⟩ := writesOf_spells value spellableValue
          (isNode.resolve_left marked) (leads.snoc isStep)
        obtain ⟨there, wroteThere, spelledThere⟩ :=
          writesOfEntries_spells rest spellable.2 others leads
        obtain ⟨writes, sameEdits⟩ := entryEdits_single value rest marked single steps
        refine ⟨here ++ there, ?_, ?_⟩
        · rw [writes, wroteHere, ok_bind, wroteThere]
          rfl
        · rw [sameEdits]
          exact spelledHere.atChild.append spelledThere
      cases value with
      | sequence items =>
        obtain ⟨isName, spellableItems, written⟩ := spellable.sequence marked
        obtain ⟨itemsAreNodes, others⟩ := areNodes
        obtain ⟨here, wroteHere, spelledHere⟩ := writesOfItems_spells items spellableItems isName
          (itemsAreNodes.resolve_left marked) leads (Nat.le_refl 1) (Nat.add_comm _ _ ▸ written)
        obtain ⟨there, wroteThere, spelledThere⟩ :=
          writesOfEntries_spells rest spellable.2 others leads
        refine ⟨here ++ there, ?_, ?_⟩
        · rw [writesOfEntries, if_neg marked, wroteHere, ok_bind, wroteThere]
          rfl
        · rw [entryEdits, if_neg marked]
          exact spelledHere.append spelledThere
      | _ => exact one Bool.false_ne_true

/-- The writes of items that stand for elements are their edits, spelled. -/
theorem writesOfItems_spells (items : List Value) (spellable : ItemsSpellable items)
    {key : String} (isName : items ≠ [] → isNCName key = true) (areNodes : ItemsAreNodes items)
    {steps : List Part} (leads : LeadsToElement steps) {position : Nat} (positive : 1 ≤ position)
    (written : position + items.length ≤ Decimal.integerLimit) :
    ∃ writes, writesOfItems steps key position items = .ok writes ∧
      Spells steps (itemEdits key position items) writes := by
  cases items with
  | nil => exact ⟨[], rfl, Spells.nil steps⟩
  | cons item rest =>
    rw [List.length_cons, ← Nat.add_assoc, Nat.add_right_comm] at written
    have named := isName (List.cons_ne_nil item rest)
    have isStep := isElementStep_position named positive
      (Nat.lt_of_succ_le (Nat.le_trans (Nat.le_add_right _ _) written))
    obtain ⟨here, wroteHere, spelledHere⟩ :=
      writesOf_spells item spellable.1 areNodes.1 (leads.snoc isStep)
    obtain ⟨there, wroteThere, spelledThere⟩ := writesOfItems_spells rest spellable.2
      (fun _ => named) areNodes.2 leads (Nat.le_succ_of_le positive) written
    refine ⟨here ++ there, ?_, spelledHere.atChild.append spelledThere⟩
    rw [writesOfItems, wroteHere, ok_bind, wroteThere]
    rfl

end

end XmlGraft
