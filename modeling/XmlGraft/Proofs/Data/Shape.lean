import Mathlib.Data.List.Basic
import XmlGraft.Proofs.Data.Showing
import XmlGraft.Proofs.Data.Wrapped

/-!
# Shapes — which plain data can be wrapped

Plain data is ill-shaped if a key in it is no text, a key of an attribute holds more than a scalar,
or a list stands directly in a list, at any depth (`Value.IllShaped`). This is said of the data as
it stands, without regard to the order in which it is judged.

Plain data is wrapped unless it is ill-shaped, and then the fault is one of its shape, wherever in
the data it is found (`Value.Plain.wraps`).
-/

namespace XmlGraft

/-! ## Two families of faults -/

namespace Fault

/-- What is wrong is the shape of data: there is no tree of this shape. -/
def isShape : Fault → Bool
  | nonTextKey _ | attributeNotScalar _ _ | nestedSequence | notAMapping _ | severalRoots _
  | attributeAsRoot _ | repeatedRoot _ | noElement _ _ => true
  | _ => false

/-- What is wrong is a name, a text or a number, which cannot be written or read. -/
def isContent : Fault → Bool
  | longNumeral _ | forbiddenText | emptyName | unclosedNamespace | badElementName _
  | badAttributeName _ | badNamespace _ | bothQuotes _ | longInteger => true
  | _ => false

/-- Content and shape are different things. -/
theorem isContent_of_isShape {fault : Fault} (shape : fault.isShape = true) :
    fault.isContent = false := by
  cases fault with
  | _ => first | rfl | cases shape

end Fault

namespace Data

/-! ## Ill-shaped data -/

namespace Value

/-- Whether a value is a text. -/
def isText : Value → Bool
  | text _ => true
  | _ => false

/-- Whether a value is a list or a tuple. -/
def isList : Value → Bool
  | list _ | tuple _ => true
  | _ => false

/-- Whether a value is a dictionary, a list or a tuple. -/
def isNested : Value → Bool
  | dict _ | list _ | tuple _ => true
  | _ => false

/-- What stands directly in a list or a tuple. -/
def listed : Value → List Value
  | list items | tuple items => items
  | _ => []

/-- Some part of plain data has no place in a tree. -/
inductive IllShaped : Value → Prop
  | key {entries : List (Value × Value)} {key value : Value} (member : (key, value) ∈ entries)
    (noText : key.isText = false) : IllShaped (.dict entries)
  | «attribute» {entries : List (Value × Value)} {key : String} {value : Value}
    (member : (.text key, value) ∈ entries) (marked : marksAttribute key = true)
    (nested : value.isNested = true) : IllShaped (.dict entries)
  | sequence {value item : Value} (member : item ∈ value.listed) (nested : item.isList = true) :
    IllShaped value
  | entry {entries : List (Value × Value)} {key value : Value} (member : (key, value) ∈ entries)
    (inside : value.IllShaped) : IllShaped (.dict entries)
  | item {value item : Value} (member : item ∈ value.listed) (inside : item.IllShaped) :
    IllShaped value

/-- An entry of a dictionary has no place in a tree. -/
def IllEntry (entry : Value × Value) : Prop :=
  entry.1.isText = false ∨
    (∃ key, entry.1 = .text key ∧ marksAttribute key = true ∧ entry.2.isNested = true) ∨
      entry.2.IllShaped

/-- A dictionary is ill-shaped if one of its entries is. -/
theorem illShaped_dict_iff {entries : List (Value × Value)} :
    (Value.dict entries).IllShaped ↔ ∃ entry ∈ entries, IllEntry entry := by
  constructor
  · intro ill
    cases ill with
    | key member noText => exact ⟨_, member, .inl noText⟩
    | «attribute» member marked nested => exact ⟨_, member, .inr (.inl ⟨_, rfl, marked, nested⟩)⟩
    | sequence member _ => exact absurd member List.not_mem_nil
    | entry member inside => exact ⟨_, member, .inr (.inr inside)⟩
    | item member _ => exact absurd member List.not_mem_nil
  · rintro ⟨⟨key, value⟩, member, noText | ⟨name, rfl, marked, nested⟩ | inside⟩
    · exact .key member noText
    · exact .attribute member marked nested
    · exact .entry member inside

/-- Other plain data is ill-shaped if it lists a list or something ill-shaped. -/
theorem illShaped_iff (value : Value) (other : ∀ entries, value ≠ .dict entries) :
    value.IllShaped ↔ ∃ item ∈ value.listed, item.isList = true ∨ item.IllShaped := by
  constructor
  · intro ill
    cases ill with
    | key => exact absurd rfl (other _)
    | «attribute» => exact absurd rfl (other _)
    | sequence member nested => exact ⟨_, member, .inl nested⟩
    | entry => exact absurd rfl (other _)
    | item member inside => exact ⟨_, member, .inr inside⟩
  · rintro ⟨item, member, nested | inside⟩
    · exact .sequence member nested
    · exact .item member inside

/-! ## What plain data is wrapped as -/

/-- Plain data without parts is wrapped as a scalar. -/
theorem Plain.wrap_single {value : Value} (plain : value.Plain) (single : value.isNested = false) :
    value.wrap = value.scalarText.map .scalar := by
  cases value with
  | scalar text => exact plain.elim
  | mapping entries => exact plain.elim
  | sequence items => exact plain.elim
  | dict entries => cases single
  | list items => cases single
  | tuple items => cases single
  | _ => rw [Value.wrap] <;> nofun

/-- Plain data is wrapped as a sequence if it is a list, and as a scalar if it has no parts. -/
theorem Plain.kind_of_wrap {value wrapped : Value} (plain : value.Plain)
    (wraps : value.wrap = .ok wrapped) :
    wrapped.isSequence = value.isList ∧ wrapped.isScalar = !value.isNested := by
  by_cases nested : value.isNested = true
  · cases value with
    | dict entries =>
      obtain ⟨_, _, rfl⟩ := map_eq_ok.mp wraps
      exact ⟨rfl, rfl⟩
    | list items =>
      obtain ⟨_, _, rfl⟩ := map_eq_ok.mp wraps
      exact ⟨rfl, rfl⟩
    | tuple items =>
      obtain ⟨_, _, rfl⟩ := map_eq_ok.mp wraps
      exact ⟨rfl, rfl⟩
    | _ => cases nested
  · have single : value.isNested = false := Bool.not_eq_true _ ▸ nested
    rw [plain.wrap_single single] at wraps
    obtain ⟨_, _, rfl⟩ := map_eq_ok.mp wraps
    refine ⟨?_, by rw [single]; rfl⟩
    cases value with
    | list items => cases single
    | tuple items => cases single
    | _ => rfl

/-- Plain data that is wrapped as a scalar has no parts, and the scalar its text. -/
theorem Plain.of_wrap_scalar {value : Value} (plain : value.Plain) {text : String}
    (wraps : value.wrap = .ok (.scalar text)) :
    value.isNested = false ∧ value.scalarText = .ok text := by
  have flat : value.isNested = false := Bool.not_eq_true' _ ▸ (plain.kind_of_wrap wraps).2.symm
  rw [plain.wrap_single flat] at wraps
  obtain ⟨_, spelled, same⟩ := map_eq_ok.mp wraps
  cases same
  exact ⟨flat, spelled⟩

/-- What plain data with parts is wrapped as can be shown. -/
theorem Plain.display_of_wrap {value wrapped : Value} (plain : value.Plain)
    (wraps : value.wrap = .ok wrapped) (nested : value.isNested = true) :
    ∃ shown, wrapped.display = .ok shown := by
  cases value with
  | dict entries =>
    obtain ⟨_, _, rfl⟩ := map_eq_ok.mp wraps
    exact ⟨_, rfl⟩
  | list items =>
    obtain ⟨_, _, rfl⟩ := map_eq_ok.mp wraps
    exact ⟨_, rfl⟩
  | tuple items =>
    obtain ⟨_, _, rfl⟩ := map_eq_ok.mp wraps
    exact ⟨_, rfl⟩
  | _ => cases nested

end Value

/-! ## Wrapping -/

/-- A result, if something is well-shaped, and else a fault of its shape. -/
def Shapes {α : Type _} (ill : Prop) (result : Except Fault α) : Prop :=
  (∃ a, result = .ok a) ∧ ¬ill ∨ (∃ fault, result = .error fault ∧ fault.isShape = true) ∧ ill

namespace Shapes

variable {α β : Type _} {ill : Prop} {result : Except Fault α}

/-- A result that is changed is one of the same shape. -/
theorem map (shapes : Shapes ill result) (f : α → β) : Shapes ill (result.map f) := by
  rcases shapes with ⟨⟨a, rfl⟩, well⟩ | ⟨⟨fault, rfl, shape⟩, ill⟩
  · exact .inl ⟨⟨f a, rfl⟩, well⟩
  · exact .inr ⟨⟨fault, rfl, shape⟩, ill⟩

/-- A chain is as well-shaped as its links. -/
theorem bind {others : Prop} {next : α → Except Fault β} (shapes : Shapes ill result)
    (rest : ∀ a, result = .ok a → Shapes others (next a)) :
    Shapes (ill ∨ others) (result >>= next) := by
  rcases shapes with ⟨⟨a, rfl⟩, well⟩ | ⟨⟨fault, rfl, shape⟩, ill⟩
  · rcases rest a rfl with ⟨more, wellToo⟩ | ⟨refused, ill⟩
    · exact .inl ⟨more, not_or.mpr ⟨well, wellToo⟩⟩
    · exact .inr ⟨refused, .inr ill⟩
  · exact .inr ⟨⟨fault, rfl, shape⟩, .inl ill⟩

/-- What is said of the shape in other words. -/
theorem congr {others : Prop} (same : ill ↔ others) (shapes : Shapes ill result) :
    Shapes others result := by
  rwa [Shapes, ← same]

end Shapes

/-- A key that is no text is refused. -/
theorem Value.Plain.entryKey {key : Value} (plain : key.Plain) :
    Shapes (key.isText = false) (entryKey key) := by
  cases key with
  | text name => exact .inl ⟨⟨name, rfl⟩, Bool.false_ne_true.symm⟩
  | _ =>
    obtain ⟨shown, shows⟩ := Value.Plain.display _ plain
    refine .inr ⟨⟨.nonTextKey shown, ?_, rfl⟩, rfl⟩
    rw [XmlGraft.Data.entryKey, shows]
    · rfl
    · exact fun _ => Value.noConfusion

/-- A value that was wrapped may stand under a key, unless this is the key of an attribute and the
value more than a scalar. -/
theorem Value.Plain.checkEntry {value wrapped : Value} (plain : value.Plain)
    (wraps : value.wrap = .ok wrapped) (key : String) :
    Shapes (marksAttribute key = true ∧ value.isNested = true) (checkEntry key wrapped) := by
  rw [XmlGraft.Data.checkEntry, (plain.kind_of_wrap wraps).2, Bool.not_not]
  by_cases both : (marksAttribute key && value.isNested) = true
  · rw [if_pos both]
    obtain ⟨shown, shows⟩ := plain.display_of_wrap wraps (Bool.and_eq_true_iff.mp both).2
    exact .inr ⟨⟨.attributeNotScalar key shown, by rw [shows]; rfl, rfl⟩,
      Bool.and_eq_true_iff.mp both⟩
  · rw [if_neg both]
    exact .inl ⟨⟨(), rfl⟩, mt Bool.and_eq_true_iff.mpr both⟩

mutual

/-- Plain data is wrapped unless it is ill-shaped. -/
theorem Value.Plain.wraps (value : Value) (plain : value.Plain) :
    Shapes value.IllShaped value.wrap := by
  cases value with
  | dict entries =>
    exact ((PlainEntries.wraps entries plain).congr Value.illShaped_dict_iff.symm).map _
  | list items =>
    have same := Value.illShaped_iff (.list items) nofun
    exact ((PlainItems.wraps items plain).congr same.symm).map _
  | tuple items =>
    have same := Value.illShaped_iff (.tuple items) nofun
    exact ((PlainItems.wraps items plain).congr same.symm).map _
  | scalar text => exact plain.elim
  | mapping entries => exact plain.elim
  | sequence items => exact plain.elim
  | _ =>
    obtain ⟨text, spelled⟩ := Value.Plain.scalarText plain
    refine .inl ⟨⟨.scalar text, ?_⟩, ?_⟩
    · rw [Value.Plain.wrap_single plain rfl, spelled]
      rfl
    · rw [Value.illShaped_iff _ (fun _ => Value.noConfusion)]
      exact fun ⟨_, member, _⟩ => List.not_mem_nil member

/-- So are the entries of a dictionary. -/
theorem PlainEntries.wraps (entries : List (Value × Value)) (plain : PlainEntries entries) :
    Shapes (∃ entry ∈ entries, Value.IllEntry entry) (wrapEntries entries) := by
  cases entries with
  | nil => exact .inl ⟨⟨[], rfl⟩, fun ⟨_, member, _⟩ => List.not_mem_nil member⟩
  | cons entry rest =>
    obtain ⟨key, item⟩ := entry
    obtain ⟨⟨plainKey, plainItem⟩, plainRest⟩ := plain
    have inside (name : String) := (Value.Plain.wraps item plainItem).bind fun wrapped wraps =>
      (plainItem.checkEntry wraps name).bind fun _ _ =>
        (PlainEntries.wraps rest plainRest).map fun others => (name, wrapped) :: others
    have same : (∃ entry ∈ (key, item) :: rest, Value.IllEntry entry) ↔ key.isText = false ∨
        item.IllShaped ∨
        (∃ name, key = .text name ∧ marksAttribute name = true ∧ item.isNested = true) ∨
        ∃ entry ∈ rest, Value.IllEntry entry := by
      rw [List.exists_mem_cons_iff, Value.IllEntry, or_left_comm (a := item.IllShaped), or_assoc,
        or_assoc]
    refine (plainKey.entryKey.bind fun name named => (inside name).congr ?_).congr same.symm
    obtain rfl := entryKey_eq_ok named
    refine or_congr_right (or_congr_left ⟨fun marked => ⟨name, rfl, marked⟩, ?_⟩)
    rintro ⟨_, ⟨⟩, marked⟩
    exact marked

/-- So are the items of a list. -/
theorem PlainItems.wraps (items : List Value) (plain : PlainItems items) :
    Shapes (∃ item ∈ items, item.isList = true ∨ item.IllShaped) (wrapItems items) := by
  cases items with
  | nil => exact .inl ⟨⟨[], rfl⟩, fun ⟨_, member, _⟩ => List.not_mem_nil member⟩
  | cons item rest =>
    obtain ⟨plainItem, plainRest⟩ := plain
    have same : (∃ other ∈ item :: rest, other.isList = true ∨ other.IllShaped) ↔
        item.IllShaped ∨ item.isList = true ∨
        ∃ other ∈ rest, other.isList = true ∨ other.IllShaped := by
      rw [List.exists_mem_cons_iff, or_left_comm, or_assoc]
    refine ((Value.Plain.wraps item plainItem).bind fun wrapped wraps => ?_).congr same.symm
    rw [(plainItem.kind_of_wrap wraps).1]
    by_cases nested : item.isList = true
    · rw [if_pos nested]
      exact .inr ⟨⟨.nestedSequence, rfl, rfl⟩, .inl nested⟩
    · rw [if_neg nested, or_iff_right nested]
      exact (PlainItems.wraps rest plainRest).map _

end

end Data

end XmlGraft
