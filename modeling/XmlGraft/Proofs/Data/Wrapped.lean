import XmlGraft.Data.Wrapping
import XmlGraft.Proofs.Outcome

/-!
# Wrapped data — what wrapping went through

Data that was wrapped is taken apart here: the first entry of a dictionary has a text as key and a
value that was wrapped and may stand under it (`wrapEntries_cons`), and the first item of a list was
wrapped as something else than a sequence (`wrapItems_cons`). So every entry of a mapping was
wrapped from one of the dictionary, and every item of a sequence from the one of the list in its
place.
-/

namespace XmlGraft.Data

/-- The key of an entry is a text. -/
theorem entryKey_eq_ok {key : Value} {name : String} (named : entryKey key = .ok name) :
    key = .text name := by
  cases key with
  | text other => exact congrArg _ (Except.ok.inj named)
  | _ =>
    rw [entryKey] at named
    · obtain ⟨_, _, none⟩ := bind_eq_ok.mp named
      cases none
    · nofun

/-- A mapping holds scalars under attribute keys. -/
theorem checkEntry_eq_ok {key : String} {value : Value} {u : Unit}
    (checked : checkEntry key value = .ok u) (marked : marksAttribute key = true) :
    ∃ text, value = .scalar text := by
  rw [checkEntry, marked, Bool.true_and] at checked
  cases value with
  | scalar text => exact ⟨text, rfl⟩
  | _ =>
    obtain ⟨_, _, none⟩ := bind_eq_ok.mp checked
    cases none

/-- Entries that were wrapped, the first of them taken off. -/
theorem wrapEntries_cons {key item : Value} {rest : List (Value × Value)}
    {wrapped : List (String × Value)} (wraps : wrapEntries ((key, item) :: rest) = .ok wrapped) :
    ∃ name value others, key = .text name ∧ item.wrap = .ok value ∧
      (marksAttribute name = true → ∃ text, value = .scalar text) ∧
      wrapEntries rest = .ok others ∧ wrapped = (name, value) :: others := by
  obtain ⟨name, named, wraps⟩ := bind_eq_ok.mp wraps
  obtain ⟨value, wrapsValue, wraps⟩ := bind_eq_ok.mp wraps
  obtain ⟨_, checked, wraps⟩ := bind_eq_ok.mp wraps
  obtain ⟨others, wrapsRest, same⟩ := bind_eq_ok.mp wraps
  exact ⟨name, value, others, entryKey_eq_ok named, wrapsValue, checkEntry_eq_ok checked, wrapsRest,
    (Except.ok.inj same).symm⟩

/-- Items that were wrapped, the first of them taken off. -/
theorem wrapItems_cons {item : Value} {rest wrapped : List Value}
    (wraps : wrapItems (item :: rest) = .ok wrapped) :
    ∃ value others, item.wrap = .ok value ∧ ¬value.isSequence = true ∧
      wrapItems rest = .ok others ∧ wrapped = value :: others := by
  obtain ⟨value, wrapsValue, wraps⟩ := bind_eq_ok.mp wraps
  by_cases nested : value.isSequence = true
  · rw [if_pos nested] at wraps
    cases wraps
  · rw [if_neg nested] at wraps
    obtain ⟨others, wrapsRest, same⟩ := bind_eq_ok.mp wraps
    exact ⟨value, others, wrapsValue, nested, wrapsRest, (Except.ok.inj same).symm⟩

/-- Every entry of a mapping was wrapped from one under the same key. -/
theorem mem_of_wrapEntries {entries : List (Value × Value)} {wrapped : List (String × Value)}
    (wraps : wrapEntries entries = .ok wrapped) {name : String} {value : Value}
    (member : (name, value) ∈ wrapped) :
    ∃ item, (.text name, item) ∈ entries ∧ item.wrap = .ok value := by
  induction entries generalizing wrapped with
  | nil =>
    cases wraps
    exact absurd member List.not_mem_nil
  | cons entry rest ih =>
    obtain ⟨key, item⟩ := entry
    obtain ⟨first, _, others, rfl, wrapsItem, _, wrapsRest, rfl⟩ := wrapEntries_cons wraps
    rcases List.mem_cons.mp member with same | member
    · cases same
      exact ⟨item, List.mem_cons_self, wrapsItem⟩
    · obtain ⟨found, inRest, wrapsFound⟩ := ih wrapsRest member
      exact ⟨found, List.mem_cons_of_mem _ inRest, wrapsFound⟩

/-- Every entry of a dictionary was wrapped under its key. -/
theorem mem_wrapEntries {entries : List (Value × Value)} {wrapped : List (String × Value)}
    (wraps : wrapEntries entries = .ok wrapped) {name : String} {item : Value}
    (member : (.text name, item) ∈ entries) :
    ∃ value, (name, value) ∈ wrapped ∧ item.wrap = .ok value := by
  induction entries generalizing wrapped with
  | nil => exact absurd member List.not_mem_nil
  | cons entry rest ih =>
    obtain ⟨key, other⟩ := entry
    obtain ⟨first, value, others, rfl, wrapsItem, _, wrapsRest, rfl⟩ := wrapEntries_cons wraps
    rcases List.mem_cons.mp member with same | member
    · cases same
      exact ⟨value, List.mem_cons_self, wrapsItem⟩
    · obtain ⟨found, inRest, wrapsFound⟩ := ih wrapsRest member
      exact ⟨found, List.mem_cons_of_mem _ inRest, wrapsFound⟩

/-- Every item of a sequence was wrapped from the one in its place. -/
theorem getElem?_of_wrapItems {items wrapped : List Value} (wraps : wrapItems items = .ok wrapped)
    {index : Nat} {value : Value} (found : wrapped[index]? = some value) :
    ∃ item, items[index]? = some item ∧ item.wrap = .ok value := by
  induction items generalizing wrapped index with
  | nil =>
    cases wraps
    cases found
  | cons item rest ih =>
    obtain ⟨first, others, wrapsItem, _, wrapsRest, rfl⟩ := wrapItems_cons wraps
    cases index with
    | zero =>
      cases found
      exact ⟨item, rfl, wrapsItem⟩
    | succ index => exact ih wrapsRest found

/-- Every item of a list was wrapped in its place. -/
theorem getElem?_wrapItems {items wrapped : List Value} (wraps : wrapItems items = .ok wrapped)
    {index : Nat} {item : Value} (found : items[index]? = some item) :
    ∃ value, wrapped[index]? = some value ∧ item.wrap = .ok value := by
  induction items generalizing wrapped index with
  | nil => cases found
  | cons first rest ih =>
    obtain ⟨value, others, wrapsItem, _, wrapsRest, rfl⟩ := wrapItems_cons wraps
    cases index with
    | zero =>
      cases found
      exact ⟨value, rfl, wrapsItem⟩
    | succ index => exact ih wrapsRest found

/-- There are as many items as before. -/
theorem length_of_wrapItems {items wrapped : List Value} (wraps : wrapItems items = .ok wrapped) :
    wrapped.length = items.length := by
  induction items generalizing wrapped with
  | nil =>
    cases wraps
    rfl
  | cons item rest ih =>
    obtain ⟨first, others, _, _, wrapsRest, rfl⟩ := wrapItems_cons wraps
    exact congrArg (· + 1) (ih wrapsRest)

end XmlGraft.Data
