import XmlGraft.Proofs.Data.Entries
import XmlGraft.Proofs.Document.Pieces

/-!
# Admission — which plain data a document can be built from

Plain data is refused for its shape if a part of it has no place in a tree or if it has no single
root, whatever its names and texts are. Any other plain data is refused for its content if an
element, attribute or text that it gives rise to is illegible, and else a document is built from it
(`ofValue_plain`). What it gives rise to is said of the data as it stands (`Value.Yields`): these
are the pieces of what it is wrapped as (`Plain.mem_piecesUnder`).
-/

namespace XmlGraft

open Xml Data

namespace Data

/-! ## What plain data gives rise to -/

/-- Plain data under a key gives rise to a piece. A list gives rise to what its items do, so an
empty one to nothing. -/
inductive Value.Yields : String → Value → Piece → Prop
  | element {key : String} {value : Value} (single : value.isList = false) :
    Yields key value (.element key)
  | text {key s : String} {value : Value} (flat : value.isNested = false)
    (spelled : value.scalarText = .ok s) : Yields key value (.text s)
  | «attribute» {key name s : String} {entries : List (Value × Value)} {value : Value}
    (member : (.text name, value) ∈ entries) (marked : marksAttribute name = true)
    (spelled : value.scalarText = .ok s) :
    Yields key (.dict entries) (.attribute (Data.attributeName name) s)
  | entry {key name : String} {entries : List (Value × Value)} {value : Value} {piece : Piece}
    (member : (.text name, value) ∈ entries) (unmarked : ¬marksAttribute name = true)
    (inside : Yields name value piece) : Yields key (.dict entries) piece
  | item {key : String} {value item : Value} {piece : Piece} (member : item ∈ value.listed)
    (inside : Yields key item piece) : Yields key value piece

/-- No piece that plain data gives rise to is data that was never wrapped. -/
theorem Value.Yields.wrapped {key : String} {value : Value} {piece : Piece}
    (yields : value.Yields key piece) : piece.isUnwrapped = false := by
  induction yields with
  | element | text | «attribute» => rfl
  | entry _ _ _ ih => exact ih
  | item _ _ ih => exact ih

/-- What a dictionary under a key gives rise to: its element, its attributes, and what is below. -/
theorem Value.yields_dict_iff {key : String} {entries : List (Value × Value)} {piece : Piece} :
    (Value.dict entries).Yields key piece ↔ piece = .element key ∨
      (∃ name value, (.text name, value) ∈ entries ∧ marksAttribute name = true ∧
        ∃ s, value.scalarText = .ok s ∧ piece = .attribute (Data.attributeName name) s) ∨
      ∃ name value, (.text name, value) ∈ entries ∧ ¬marksAttribute name = true ∧
        value.Yields name piece := by
  constructor
  · intro yields
    cases yields with
    | element _ => exact .inl rfl
    | text flat _ => cases flat
    | «attribute» member marked spelled =>
      exact .inr (.inl ⟨_, _, member, marked, _, spelled, rfl⟩)
    | entry member unmarked inside => exact .inr (.inr ⟨_, _, member, unmarked, inside⟩)
    | item member _ => exact absurd member List.not_mem_nil
  · rintro (rfl | ⟨name, value, member, marked, s, spelled, rfl⟩ |
      ⟨name, value, member, unmarked, inside⟩)
    · exact .element rfl
    · exact .attribute member marked spelled
    · exact .entry member unmarked inside

/-- A list gives rise to what its items do. -/
theorem Value.yields_list_iff {key : String} {value : Value} (list : value.isList = true)
    {piece : Piece} : value.Yields key piece ↔ ∃ item ∈ value.listed, item.Yields key piece := by
  constructor
  · intro yields
    cases yields with
    | element single =>
      rw [list] at single
      cases single
    | text flat _ =>
      cases value with
      | list items => cases flat
      | tuple items => cases flat
      | _ => cases list
    | «attribute» => cases list
    | entry => cases list
    | item member inside => exact ⟨_, member, inside⟩
  · exact fun ⟨_, member, inside⟩ => .item member inside

/-- A value without parts gives rise to an element and its text. -/
theorem Value.yields_single_iff {key : String} {value : Value} (flat : value.isNested = false)
    {piece : Piece} : value.Yields key piece ↔
      piece = .element key ∨ ∃ s, value.scalarText = .ok s ∧ piece = .text s := by
  constructor
  · intro yields
    cases yields with
    | element _ => exact .inl rfl
    | text _ spelled => exact .inr ⟨_, spelled, rfl⟩
    | «attribute» => cases flat
    | entry => cases flat
    | item member _ =>
      cases value with
      | list items => cases flat
      | tuple items => cases flat
      | _ => exact absurd member List.not_mem_nil
  · rintro (rfl | ⟨s, spelled, rfl⟩)
    · refine .element ?_
      cases value with
      | list items => cases flat
      | tuple items => cases flat
      | _ => rfl
    · exact .text flat spelled

/-! ## The pieces of what plain data is wrapped as -/

/-- Something holds of an entry if it does of the first or of one of the rest. -/
theorem exists_entry_cons {p : String → Value → Prop} {key : String} {item : Value}
    {rest : List (Value × Value)} :
    (∃ name value, (Value.text name, value) ∈ (.text key, item) :: rest ∧ p name value) ↔
      p key item ∨ ∃ name value, (Value.text name, value) ∈ rest ∧ p name value := by
  constructor
  · rintro ⟨name, value, member, holds⟩
    rcases List.mem_cons.mp member with same | member
    · cases same
      exact .inl holds
    · exact .inr ⟨name, value, member, holds⟩
  · rintro (holds | ⟨name, value, member, holds⟩)
    · exact ⟨key, item, List.mem_cons_self, holds⟩
    · exact ⟨name, value, List.mem_cons_of_mem _ member, holds⟩

/-- The attributes of what a dictionary is wrapped as are those of its entries. -/
theorem PlainEntries.mem_attributePieces {entries : List (Value × Value)}
    (plain : PlainEntries entries) {wrapped : List (String × Value)}
    (wraps : wrapEntries entries = .ok wrapped) {piece : Piece} :
    piece ∈ attributePieces (Value.attributesOf wrapped) ↔
      ∃ name value, (.text name, value) ∈ entries ∧ marksAttribute name = true ∧
        ∃ s, value.scalarText = .ok s ∧ piece = .attribute (Data.attributeName name) s := by
  induction entries generalizing wrapped with
  | nil =>
    cases wraps
    exact iff_of_false List.not_mem_nil fun ⟨_, _, member, _⟩ => List.not_mem_nil member
  | cons entry rest ih =>
    obtain ⟨key, item⟩ := entry
    obtain ⟨name, value, others, rfl, wrapsValue, scalar, wrapsRest, rfl⟩ := wrapEntries_cons wraps
    obtain ⟨⟨_, plainItem⟩, plainRest⟩ := plain
    rw [exists_entry_cons, ← ih plainRest wrapsRest]
    by_cases marked : marksAttribute name = true
    · obtain ⟨text, rfl⟩ := scalar marked
      have spelled := (plainItem.of_wrap_scalar wrapsValue).2
      rw [Value.attributesOf_marked marked, attributePieces, List.map_cons, List.mem_cons,
        ← attributePieces, and_iff_right marked]
      refine or_congr_left ⟨fun same => ⟨text, spelled, same⟩, ?_⟩
      rintro ⟨_, spelledToo, rfl⟩
      cases spelled.symm.trans spelledToo
      rfl
    · rw [Value.attributesOf_unmarked marked, or_iff_right fun holds => marked holds.1]

mutual

/-- The pieces of what plain data is wrapped as are those that it gives rise to. -/
theorem Value.Plain.mem_piecesUnder (value : Value) (plain : value.Plain) {wrapped : Value}
    (wraps : value.wrap = .ok wrapped) {key : String} {piece : Piece} :
    piece ∈ piecesUnder key wrapped ↔ value.Yields key piece := by
  cases value with
  | dict entries =>
    obtain ⟨mapping, wrapsEntries, rfl⟩ := map_eq_ok.mp wraps
    rw [piecesUnder, pieces, List.mem_cons, List.mem_append,
      PlainEntries.mem_attributePieces plain wrapsEntries,
      PlainEntries.mem_entryPieces entries plain wrapsEntries, Value.yields_dict_iff]
    nofun
  | list items =>
    obtain ⟨sequence, wrapsItems, rfl⟩ := map_eq_ok.mp wraps
    rw [piecesUnder, PlainItems.mem_itemPieces items plain wrapsItems, Value.yields_list_iff rfl]
    rfl
  | tuple items =>
    obtain ⟨sequence, wrapsItems, rfl⟩ := map_eq_ok.mp wraps
    rw [piecesUnder, PlainItems.mem_itemPieces items plain wrapsItems, Value.yields_list_iff rfl]
    rfl
  | scalar text => exact plain.elim
  | mapping entries => exact plain.elim
  | sequence items => exact plain.elim
  | _ =>
    rw [Value.Plain.wrap_single plain rfl] at wraps
    obtain ⟨text, spelled, rfl⟩ := map_eq_ok.mp wraps
    rw [Value.yields_single_iff rfl, spelled]
    simp [piecesUnder, pieces]

/-- So it is with the element entries of a dictionary. -/
theorem PlainEntries.mem_entryPieces (entries : List (Value × Value)) (plain : PlainEntries entries)
    {wrapped : List (String × Value)} (wraps : wrapEntries entries = .ok wrapped) {piece : Piece} :
    piece ∈ entryPieces wrapped ↔
      ∃ name value, (.text name, value) ∈ entries ∧ ¬marksAttribute name = true ∧
        value.Yields name piece := by
  cases entries with
  | nil =>
    cases wraps
    exact iff_of_false List.not_mem_nil fun ⟨_, _, member, _⟩ => List.not_mem_nil member
  | cons entry rest =>
    obtain ⟨key, item⟩ := entry
    obtain ⟨name, value, others, rfl, wrapsValue, _, wrapsRest, rfl⟩ := wrapEntries_cons wraps
    obtain ⟨⟨_, plainItem⟩, plainRest⟩ := plain
    rw [exists_entry_cons, ← PlainEntries.mem_entryPieces rest plainRest wrapsRest]
    by_cases marked : marksAttribute name = true
    · rw [entryPieces_marked value others marked, or_iff_right fun holds => holds.1 marked]
    · rw [entryPieces_unmarked value others marked, List.mem_append, and_iff_right marked,
        Value.Plain.mem_piecesUnder item plainItem wrapsValue]

/-- So it is with the items of a list. -/
theorem PlainItems.mem_itemPieces (items : List Value) (plain : PlainItems items)
    {wrapped : List Value} (wraps : wrapItems items = .ok wrapped) {key : String} {piece : Piece} :
    piece ∈ itemPieces key wrapped ↔ ∃ item ∈ items, item.Yields key piece := by
  cases items with
  | nil =>
    cases wraps
    exact iff_of_false List.not_mem_nil fun ⟨_, member, _⟩ => List.not_mem_nil member
  | cons item rest =>
    obtain ⟨value, others, wrapsValue, single, wrapsRest, rfl⟩ := wrapItems_cons wraps
    rw [itemPieces, List.mem_append, ← piecesUnder_single key single,
      Value.Plain.mem_piecesUnder item plain.1 wrapsValue,
      PlainItems.mem_itemPieces rest plain.2 wrapsRest, List.exists_mem_cons_iff]

end
/-! ## The root -/

/-- Plain data does not stand for a document with one root or none: it is no dictionary, has several
keys, or its only one is that of an attribute or holds a list. -/
inductive Value.Rootless : Value → Prop
  | other {value : Value} (noDict : ∀ entries, value ≠ .dict entries) : Rootless value
  | several {entries : List (Value × Value)} (several : 2 ≤ entries.length) :
    Rootless (.dict entries)
  | «attribute» {key : String} {value : Value} (marked : marksAttribute key = true) :
    Rootless (.dict [(.text key, value)])
  | repeated {key value : Value} (list : value.isList = true) : Rootless (.dict [(key, value)])

/-- A dictionary with one key has a root unless this is the key of an attribute or holds a list. -/
theorem Value.rootless_single_iff {key : String} {value : Value} :
    (Value.dict [(.text key, value)]).Rootless ↔
      marksAttribute key = true ∨ value.isList = true := by
  constructor
  · intro rootless
    cases rootless with
    | other noDict => exact absurd rfl (noDict _)
    | several several => exact absurd several (Nat.not_succ_le_self 1)
    | «attribute» marked => exact .inl marked
    | repeated list => exact .inr list
  · rintro (marked | list)
    · exact .attribute marked
    · exact .repeated list

/-- An empty dictionary stands for the empty document. -/
theorem Value.not_rootless_empty : ¬(Value.dict []).Rootless := by
  intro rootless
  cases rootless with
  | other noDict => exact noDict [] rfl
  | several several => exact absurd several (by decide)

/-- Plain data that was wrapped has no single root, and then a fault of its shape, or it is an empty
dictionary, or it has an entry for the root. -/
theorem Value.Plain.documentEntry {value wrapped : Value} (plain : value.Plain)
    (wraps : value.wrap = .ok wrapped) :
    value.Rootless ∧
        (∃ fault, documentEntry? wrapped = .error fault ∧ fault.isShape = true) ∨
      ¬value.Rootless ∧ (value = .dict [] ∧ documentEntry? wrapped = .ok none ∨
        ∃ key item node, value = .dict [(.text key, item)] ∧ item.wrap = .ok node ∧
          ¬node.isSequence = true ∧ documentEntry? wrapped = .ok (some (key, node))) := by
  cases value with
  | dict entries =>
    obtain ⟨mapping, wrapsEntries, rfl⟩ := map_eq_ok.mp wraps
    match entries, plain, wrapsEntries with
    | [], _, wrapsEntries =>
      cases wrapsEntries
      exact .inr ⟨not_rootless_empty, .inl ⟨rfl, rfl⟩⟩
    | [(key, item)], plain, wrapsEntries =>
      obtain ⟨name, node, _, rfl, wrapsItem, _, none, rfl⟩ := wrapEntries_cons wrapsEntries
      cases none
      rw [rootless_single_iff, documentEntry?, ← (Plain.kind_of_wrap plain.1.2 wrapsItem).1]
      by_cases marked : marksAttribute name = true
      · rw [if_pos marked]
        exact .inl ⟨.inl marked, _, rfl, rfl⟩
      · rw [if_neg marked, or_iff_right marked]
        by_cases sequence : node.isSequence = true
        · rw [if_pos sequence]
          exact .inl ⟨sequence, _, rfl, rfl⟩
        · rw [if_neg sequence]
          exact .inr ⟨sequence, .inr ⟨name, item, node, rfl, wrapsItem, sequence, rfl⟩⟩
    | (key, item) :: (other, more) :: rest, _, wrapsEntries =>
      obtain ⟨_, _, _, _, _, _, wrapsRest, rfl⟩ := wrapEntries_cons wrapsEntries
      obtain ⟨_, _, _, _, _, _, _, rfl⟩ := wrapEntries_cons wrapsRest
      exact .inl ⟨.several (Nat.le_add_left 2 _), _, rfl, rfl⟩
  | list items =>
    obtain ⟨_, _, rfl⟩ := map_eq_ok.mp wraps
    exact .inl ⟨.other fun _ => Value.noConfusion, _, rfl, rfl⟩
  | tuple items =>
    obtain ⟨_, _, rfl⟩ := map_eq_ok.mp wraps
    exact .inl ⟨.other fun _ => Value.noConfusion, _, rfl, rfl⟩
  | scalar text => exact plain.elim
  | mapping entries => exact plain.elim
  | sequence items => exact plain.elim
  | _ =>
    rw [plain.wrap_single rfl] at wraps
    obtain ⟨_, _, rfl⟩ := map_eq_ok.mp wraps
    exact .inl ⟨.other fun _ => Value.noConfusion, _, rfl, rfl⟩

end Data

/-! ## Admission -/

/-- Plain data is refused for its shape exactly if a part of it has no place in a tree or it has no
single root, whatever its names and texts are. Other plain data is refused for its content exactly
if an element, an attribute or a text that the root gives rise to is illegible. In all other cases
there is a document that it denotes. -/
theorem Document.ofValue_plain {value : Value} (plain : value.Plain) :
    ((∃ fault, Document.ofValue value = .error fault ∧ fault.isShape = true) ↔
      value.IllShaped ∨ value.Rootless) ∧
    (¬(value.IllShaped ∨ value.Rootless) →
      ((∃ fault, Document.ofValue value = .error fault ∧ fault.isContent = true) ↔
        ∃ key item piece, value = .dict [(.text key, item)] ∧ item.Yields key piece ∧
          piece.Illegible) ∧
      ((¬∃ key item piece, value = .dict [(.text key, item)] ∧ item.Yields key piece ∧
          piece.Illegible) → ∃ d, Document.ofValue value = .ok d)) := by
  have unrefused (d : Document) (p : Fault → Prop) :
      ¬∃ fault, (.ok d : Except Fault Document) = .error fault ∧ p fault := by
    rintro ⟨_, ⟨⟩, _⟩
  rcases Value.Plain.wraps value plain with
    ⟨⟨wrapped, wraps⟩, well⟩ | ⟨⟨fault, refused, shape⟩, ill⟩
  · rw [or_iff_right well]
    rcases plain.documentEntry wraps with ⟨rootless, fault, refused, shape⟩ |
      ⟨rooted, ⟨rfl, empty⟩ | ⟨key, item, node, rfl, wrapsItem, single, entry⟩⟩
    · rw [Document.ofValue, wraps, ok_bind, refused]
      exact ⟨iff_of_true ⟨fault, rfl, shape⟩ rootless, fun rooted => absurd rootless rooted⟩
    · rw [Document.ofValue, wraps, ok_bind, empty]
      refine ⟨iff_of_false (unrefused _ _) rooted, fun _ =>
        ⟨iff_of_false (unrefused _ _) ?_, fun _ => ⟨_, rfl⟩⟩⟩
      rintro ⟨_, _, _, none, _⟩
      cases none
    · have yields (piece : Piece) : piece ∈ pieces key node ↔ item.Yields key piece := by
        rw [← piecesUnder_single key single]
        exact Value.Plain.mem_piecesUnder item plain.1.2 wrapsItem
      have same : (∃ other inside piece, Value.dict [(.text key, item)] =
          .dict [(.text other, inside)] ∧ inside.Yields other piece ∧ piece.Illegible) ↔
            ∃ piece ∈ pieces key node, piece.Illegible := by
        simp only [yields]
        constructor
        · rintro ⟨_, _, piece, ⟨⟩, inside⟩
          exact ⟨piece, inside⟩
        · rintro ⟨piece, inside⟩
          exact ⟨key, item, piece, rfl, inside⟩
      have judged := Document.verdict_ofValue (bind_eq_ok.mpr ⟨wrapped, wraps, entry⟩)
      rw [same]
      rcases Piece.checkAll_cases fun piece member => ((yields piece).mp member).wrapped with
        ⟨illegible, fault, refused, content⟩ | ⟨legible, passes⟩
      · rw [refused, verdict_eq_error] at judged
        rw [judged]
        refine ⟨iff_of_false ?_ rooted, fun _ => ⟨iff_of_true ⟨fault, rfl, content⟩ illegible,
          fun legible => absurd illegible legible⟩⟩
        rintro ⟨_, ⟨⟩, shape⟩
        rw [Fault.isContent_of_isShape shape] at content
        cases content
      · rw [passes, verdict_eq_ok] at judged
        obtain ⟨d, built⟩ := judged
        rw [built]
        exact ⟨iff_of_false (unrefused d _) rooted, fun _ =>
          ⟨iff_of_false (unrefused d _) legible, fun _ => ⟨d, rfl⟩⟩⟩
  · rw [Document.ofValue, refused]
    exact ⟨iff_of_true ⟨fault, rfl, shape⟩ (.inl ill), fun well => absurd (.inl ill) well⟩

/-- The name of an element is refused, but not that of an empty list, for which there is none. -/
theorem Document.ofValue_plain_name :
    let value : Value := .dict [(.text "r", .dict [(.text "1", .list []), (.text "2", .null)])]
    value.Plain ∧ ∃ fault, Document.ofValue value = .error fault ∧ fault.isContent = true := by
  intro value
  have plain : value.Plain := ⟨⟨trivial, ⟨trivial, trivial⟩, ⟨trivial, trivial⟩, trivial⟩, trivial⟩
  have noList : ¬(Value.list []).IllShaped := by
    rw [Value.illShaped_iff _ fun _ => Value.noConfusion]
    rintro ⟨_, member, _⟩
    exact List.not_mem_nil member
  have noNull : ¬Value.null.IllShaped := by
    rw [Value.illShaped_iff _ fun _ => Value.noConfusion]
    rintro ⟨_, member, _⟩
    exact List.not_mem_nil member
  have shaped : ¬(value.IllShaped ∨ value.Rootless) := by
    rw [Value.rootless_single_iff, Value.illShaped_dict_iff]
    simp [Value.IllEntry, Value.illShaped_dict_iff, Value.isText, Value.isList, marksAttribute,
      noList, noNull]
  refine ⟨plain, ((Document.ofValue_plain plain).2 shaped).1.mpr
    ⟨"r", _, .element "2", rfl, .entry (List.mem_cons_of_mem _ List.mem_cons_self) ?_
      (.element rfl), ?_⟩⟩
  · simp [marksAttribute]
  · rintro ⟨_, none⟩
    cases none

end XmlGraft
