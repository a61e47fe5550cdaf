import XmlGraft.Proofs.Data.Shape
import XmlGraft.Proofs.Document.Building

/-!
# Pieces — what is judged where an element is built

Where an element is built from a structured value, its parts are judged one after another: the name
of each element before what it holds, the attributes before the children. These are the *pieces* of
the value (`pieces`), in that order. Building comes down to judging them: it succeeds if no piece is
refused, and else its fault is that of the first one that is (`verdict_ofValue`).

A piece is refused for its content, which is a name or a text, or because it is data that was never
wrapped. The faults of the former are faults of content (`Piece.check_cases`).
-/

namespace XmlGraft

open Xml Data

/-! ## Verdicts -/

/-- Whether something was refused, without what it gave. -/
def verdict {α : Type _} (result : Except Fault α) : Except Fault Unit := result.map fun _ => ()

section Verdicts

variable {α β : Type _} {result : Except Fault α}

/-- The verdict on a chain is that on its first link, and then that on the rest. -/
theorem verdict_bind {next : α → Except Fault β} {rest : Except Fault Unit}
    (same : ∀ a, verdict (next a) = rest) :
    verdict (result >>= next) = verdict result >>= fun _ => rest := by
  cases result with
  | error fault => rfl
  | ok a => exact same a

/-- What is made of a result is not judged. -/
theorem verdict_bind_ok (f : α → β) : verdict (result >>= fun a => .ok (f a)) = verdict result := by
  cases result with
  | _ => rfl

theorem verdict_unit (result : Except Fault Unit) : verdict result = result := by
  cases result with
  | _ => rfl

theorem verdict_eq_ok : verdict result = .ok () ↔ ∃ a, result = .ok a := by
  rw [verdict, map_eq_ok]
  exact exists_congr fun _ => and_iff_left rfl

theorem verdict_eq_error {fault : Fault} :
    verdict result = .error fault ↔ result = .error fault := map_eq_error

end Verdicts

/-! ## Pieces -/

/-- What is judged where an element is built. -/
inductive Piece
  | element (name : String)
  | «attribute» (name value : String)
  | text (s : String)
  | unwrapped (name : String) (value : Value)

namespace Piece

/-- Judges a piece. -/
def check : Piece → Except Fault Unit
  | .element name => verdict (elementName name)
  | .attribute name value => do
    let _ ← Xml.attributeName name
    checkText value
  | .text s => checkText s
  | .unwrapped name value => value.display >>= fun shown => .error (.noElement name shown)

/-- Judges pieces in order, up to the first that is refused. -/
def checkAll : List Piece → Except Fault Unit
  | [] => .ok ()
  | piece :: rest => piece.check >>= fun _ => checkAll rest

theorem checkAll_append (first second : List Piece) :
    checkAll (first ++ second) = checkAll first >>= fun _ => checkAll second := by
  induction first with
  | nil => rfl
  | cons piece rest ih =>
    rw [List.cons_append, checkAll, checkAll, ih]
    cases piece.check with
    | _ => rfl

theorem checkAll_singleton (piece : Piece) : checkAll [piece] = piece.check := by
  rw [checkAll]
  cases piece.check with
  | _ => rfl

/-- Pieces pass if each does. -/
theorem checkAll_eq_ok {pieces : List Piece} :
    checkAll pieces = .ok () ↔ ∀ piece ∈ pieces, piece.check = .ok () := by
  induction pieces with
  | nil => exact ⟨fun _ _ member => absurd member List.not_mem_nil, fun _ => rfl⟩
  | cons piece rest ih =>
    rw [checkAll, bind_eq_ok, List.forall_mem_cons, ih]
    exact ⟨fun ⟨_, passes, others⟩ => ⟨passes, others⟩, fun ⟨passes, others⟩ =>
      ⟨(), passes, others⟩⟩

/-! ## Content -/

/-- The content of a piece cannot stand in markup: its name is none, or its text has a character
that no text may hold. -/
def Illegible : Piece → Prop
  | .element name => ¬∃ made, elementName name = .ok made
  | .attribute name value =>
    (¬∃ made, Xml.attributeName name = .ok made) ∨ ∃ c ∈ value.toList, isTextChar c = false
  | .text s => ∃ c ∈ s.toList, isTextChar c = false
  | .unwrapped _ _ => False

/-- Whether a piece is data that was never wrapped. -/
def isUnwrapped : Piece → Bool
  | unwrapped _ _ => true
  | _ => false

end Piece

/-- A text is refused if it holds a character that no text may hold. -/
theorem Xml.checkText_cases (text : String) :
    (∃ c ∈ text.toList, isTextChar c = false) ∧ checkText text = .error .forbiddenText ∨
      (¬∃ c ∈ text.toList, isTextChar c = false) ∧ checkText text = .ok () := by
  have spelled : compatible text = false ↔ ∃ c ∈ text.toList, isTextChar c = false := by
    rw [compatible, List.all_eq_false]
    simp only [Bool.not_eq_true]
  rw [← spelled, checkText]
  by_cases writable : compatible text = true
  · rw [if_pos writable]
    exact .inr ⟨by rw [writable]; exact nofun, rfl⟩
  · rw [if_neg writable]
    exact .inl ⟨Bool.not_eq_true _ ▸ writable, rfl⟩

/-- Taking a name apart fails for its content. -/
theorem Xml.Name.fault_of_ofText {s : String} {fault : Fault}
    (refused : Name.ofText s = .error fault) : fault.isContent = true := by
  unfold Name.ofText at refused
  split at refused
  · split at refused
    · cases refused
      rfl
    · split at refused
      · cases refused
        rfl
      · cases refused
        rfl
      · cases refused
    · cases refused
  · cases refused
    rfl

/-- The name of an element is refused for its content. -/
theorem Xml.fault_of_elementName {s : String} {fault : Fault}
    (refused : elementName s = .error fault) : fault.isContent = true := by
  rcases bind_eq_error.mp refused with taken | ⟨name, _, judged⟩
  · exact Name.fault_of_ofText taken
  · split at judged
    · cases judged
      rfl
    · split at judged
      · cases judged
        rfl
      · cases judged

/-- The name of an attribute is refused for its content. -/
theorem Xml.fault_of_attributeName {s : String} {fault : Fault}
    (refused : Xml.attributeName s = .error fault) : fault.isContent = true := by
  rcases bind_eq_error.mp refused with taken | ⟨name, _, judged⟩
  · exact Name.fault_of_ofText taken
  · split at judged
    · cases judged
      rfl
    · cases judged

/-- A piece that was wrapped is refused exactly if it is illegible, and for its content. -/
theorem Piece.check_cases (piece : Piece) (wrapped : piece.isUnwrapped = false) :
    piece.Illegible ∧ (∃ fault, piece.check = .error fault ∧ fault.isContent = true) ∨
      ¬piece.Illegible ∧ piece.check = .ok () := by
  cases piece with
  | element name =>
    rw [check]
    cases judged : elementName name with
    | error fault =>
      refine .inl ⟨?_, fault, rfl, fault_of_elementName judged⟩
      rintro ⟨_, made⟩
      rw [judged] at made
      cases made
    | ok made => exact .inr ⟨not_not_intro ⟨made, judged⟩, rfl⟩
  | «attribute» name value =>
    rw [check]
    cases judged : Xml.attributeName name with
    | error fault =>
      refine .inl ⟨.inl ?_, fault, rfl, fault_of_attributeName judged⟩
      rintro ⟨_, made⟩
      rw [judged] at made
      cases made
    | ok made =>
      rw [ok_bind]
      rcases checkText_cases value with ⟨forbidden, refused⟩ | ⟨allowed, passes⟩
      · exact .inl ⟨.inr forbidden, _, refused, rfl⟩
      · exact .inr ⟨not_or.mpr ⟨not_not_intro ⟨made, judged⟩, allowed⟩, passes⟩
  | text s =>
    rcases checkText_cases s with ⟨forbidden, refused⟩ | allowed
    · exact .inl ⟨forbidden, _, refused, rfl⟩
    · exact .inr allowed
  | unwrapped name value => cases wrapped

/-- A piece that passes is legible. -/
theorem Piece.legible_of_check (piece : Piece) (passes : piece.check = .ok ()) :
    ¬piece.Illegible := by
  by_cases unwrapped : piece.isUnwrapped = true
  · cases piece with
    | unwrapped name value => exact not_false
    | _ => cases unwrapped
  · rcases piece.check_cases (Bool.not_eq_true _ ▸ unwrapped) with ⟨_, _, refused, _⟩ | ⟨legible, _⟩
    · rw [passes] at refused
      cases refused
    · exact legible

/-- So it is with pieces that were all wrapped. -/
theorem Piece.checkAll_cases {pieces : List Piece}
    (wrapped : ∀ piece ∈ pieces, piece.isUnwrapped = false) :
    (∃ piece ∈ pieces, piece.Illegible) ∧
        (∃ fault, checkAll pieces = .error fault ∧ fault.isContent = true) ∨
      (¬∃ piece ∈ pieces, piece.Illegible) ∧ checkAll pieces = .ok () := by
  induction pieces with
  | nil => exact .inr ⟨fun ⟨_, member, _⟩ => List.not_mem_nil member, rfl⟩
  | cons piece rest ih =>
    obtain ⟨here, others⟩ := List.forall_mem_cons.mp wrapped
    rw [checkAll, List.exists_mem_cons_iff]
    rcases piece.check_cases here with ⟨illegible, fault, refused, content⟩ | ⟨legible, passes⟩
    · rw [refused]
      exact .inl ⟨.inl illegible, fault, rfl, content⟩
    · rw [passes, ok_bind, or_iff_right legible]
      exact ih others

/-! ## The pieces of a value -/

/-- The pieces of attribute entries. -/
def attributePieces (entries : List (String × Value)) : List Piece :=
  entries.map fun entry => .attribute entry.1 (Element.attributeText entry.2)

mutual

/-- The pieces of a structured value under a key. -/
def pieces (key : String) : Value → List Piece
  | .scalar text => [.element key, .text text]
  | .mapping entries =>
    .element key :: (attributePieces (Value.attributesOf entries) ++ entryPieces entries)
  | other => [.element key, .unwrapped key other]

/-- The pieces of the element entries of a mapping. -/
def entryPieces : List (String × Value) → List Piece
  | [] => []
  | (key, .sequence items) :: rest =>
    if marksAttribute key then entryPieces rest else itemPieces key items ++ entryPieces rest
  | (key, value) :: rest =>
    if marksAttribute key then entryPieces rest else pieces key value ++ entryPieces rest

/-- The pieces of the items of a sequence under its key. -/
def itemPieces (key : String) : List Value → List Piece
  | [] => []
  | item :: rest => pieces key item ++ itemPieces key rest

end

/-- The pieces of a structured value under a key, which has one element, or one for each item. -/
def piecesUnder (key : String) : Value → List Piece
  | .sequence items => itemPieces key items
  | value => pieces key value

/-- A value that is no sequence has the pieces of one element. -/
theorem piecesUnder_single (key : String) {value : Value} (single : ¬value.isSequence = true) :
    piecesUnder key value = pieces key value := by
  cases value with
  | sequence items => exact absurd rfl single
  | _ => rfl

section Entries

variable {key : String} (value : Value) (rest : List (String × Value))

/-- The pieces of an attribute entry are not among those of the children. -/
theorem entryPieces_marked (marked : marksAttribute key = true) :
    entryPieces ((key, value) :: rest) = entryPieces rest := by
  cases value with
  | _ => exact if_pos marked

/-- The pieces of an element entry are those under its key. -/
theorem entryPieces_unmarked (unmarked : ¬marksAttribute key = true) :
    entryPieces ((key, value) :: rest) = piecesUnder key value ++ entryPieces rest := by
  cases value with
  | _ => exact if_neg unmarked

end Entries

namespace Xml.Element

/-- A new element is refused for its name. -/
theorem verdict_new (name : String) :
    verdict (Element.new name) = (Piece.element name).check := by
  rw [Element.new, Piece.check]
  cases elementName name with
  | _ => rfl

/-- Nothing is built from data that was never wrapped. -/
theorem verdict_unwrapped (name : String) (value : Value) :
    verdict (do
      let shown ← value.display
      (.error (.noElement name shown) : Except Fault Element)) =
        (Piece.unwrapped name value).check := by
  rw [Piece.check]
  cases value.display with
  | _ => rfl

/-- Setting an attribute is refused for its name or its value. -/
theorem verdict_setAttribute (e : Element) (name value : String) :
    verdict (e.setAttribute [] name value) = (Piece.attribute name value).check := by
  rw [setAttribute, Piece.check]
  cases Xml.attributeName name with
  | error fault => rfl
  | ok made =>
    rw [ok_bind, ok_bind]
    cases checkText value with
    | _ => rfl

/-- Setting attributes judges their pieces. -/
theorem verdict_setAttributes (entries : List (String × Value)) (e : Element) :
    verdict (e.setAttributes entries) = Piece.checkAll (attributePieces entries) := by
  induction entries generalizing e with
  | nil => rfl
  | cons entry rest ih =>
    rw [setAttributes, verdict_bind fun e => ih e, verdict_setAttribute]
    rfl

mutual

/-- Building an element judges the pieces of what it is built from. -/
theorem verdict_ofValue (key : String) (value : Value) :
    verdict (ofValue key value) = Piece.checkAll (pieces key value) := by
  cases value with
  | scalar text =>
    rw [ofValue, ofText, pieces, Piece.checkAll, Piece.checkAll_singleton, ← verdict_new]
    exact verdict_bind fun e => (verdict_bind_ok fun _ => e.withText text).trans (verdict_unit _)
  | mapping entries =>
    rw [ofValue, pieces, Piece.checkAll, ← verdict_new, Piece.checkAll_append,
      ← verdict_ofEntries entries]
    refine verdict_bind fun e => ?_
    rw [← verdict_setAttributes _ e]
    exact verdict_bind fun marked => verdict_bind_ok marked.appendAll
  | _ =>
    rw [ofValue, pieces, Piece.checkAll, Piece.checkAll_singleton, ← verdict_new]
    · exact verdict_bind fun _ => verdict_unwrapped key _
    all_goals nofun

/-- Building the children of an element judges the pieces of the entries they are built from. -/
theorem verdict_ofEntries (entries : List (String × Value)) :
    verdict (ofEntries entries) = Piece.checkAll (entryPieces entries) := by
  cases entries with
  | nil => rfl
  | cons entry rest =>
    obtain ⟨key, value⟩ := entry
    have others := verdict_ofEntries rest
    by_cases marked : marksAttribute key = true
    · rw [ofEntries_marked marked, entryPieces_marked value rest marked, others]
    · rw [entryPieces_unmarked value rest marked, Piece.checkAll_append, ← others]
      have single (single : ¬value.isSequence = true) :
          verdict (ofEntries ((key, value) :: rest)) =
            Piece.checkAll (piecesUnder key value) >>= fun _ => verdict (ofEntries rest) := by
        rw [ofEntries_single_eq marked single, piecesUnder_single key single,
          ← verdict_ofValue key value]
        exact verdict_bind fun first => verdict_bind_ok (first :: ·)
      cases value with
      | sequence items =>
        rw [ofEntries, if_neg marked, piecesUnder, ← verdict_ofItems key items]
        exact verdict_bind fun first => verdict_bind_ok (first ++ ·)
      | _ => exact single Bool.false_ne_true

/-- Building siblings judges the pieces of the items they are built from. -/
theorem verdict_ofItems (key : String) (items : List Value) :
    verdict (ofItems key items) = Piece.checkAll (itemPieces key items) := by
  cases items with
  | nil => rfl
  | cons item rest =>
    rw [ofItems, itemPieces, Piece.checkAll_append, ← verdict_ofValue key item,
      ← verdict_ofItems key rest]
    exact verdict_bind fun first => verdict_bind_ok (first :: ·)

end

end Xml.Element

/-- The entry for the root of what a value denotes; none for the empty document. -/
def Data.Value.root? (value : Value) : Except Fault (Option (String × Value)) :=
  value.wrap >>= documentEntry?

/-- A document is built from its root. -/
theorem Document.ofValue_eq (value : Value) :
    Document.ofValue value = value.root? >>= fun root => root.elim (.ok .empty) fun entry =>
      Element.ofValue entry.1 entry.2 >>= fun e => .ok (.ofRoot e) := by
  rw [Document.ofValue, Value.root?]
  cases value.wrap with
  | error fault => rfl
  | ok wrapped =>
    rw [ok_bind, ok_bind]
    cases documentEntry? wrapped with
    | error fault => rfl
    | ok root =>
      cases root with
      | _ => rfl

/-- Building a document judges the pieces of its root. -/
theorem Document.verdict_ofValue {value node : Value} {key : String}
    (rooted : value.root? = .ok (some (key, node))) :
    verdict (Document.ofValue value) = Piece.checkAll (pieces key node) := by
  rw [Document.ofValue_eq, rooted, ← Element.verdict_ofValue key node]
  exact verdict_bind_ok Document.ofRoot

end XmlGraft
