import XmlGraft.Proofs.Document.Edits
import XmlGraft.Proofs.Document.Pieces

/-!
# Faults of writes — where turning data into writes and building from it disagree

Both wrap the data and look for its root first, and are refused alike if its shape is wrong. Beyond
that they differ where structured data holds data that was never wrapped: no element can be built
from it, which is a fault of its shape, while writes are refused for something else
(`writes_shape_iff`).
-/

namespace XmlGraft

open Xml Data XmlGraft.Path

/-- Something is refused if it holds data that was never wrapped, and never for its shape. -/
def RefusesUnwrapped {α : Type _} (unwrapped : Prop) (result : Except Fault α) : Prop :=
  (∃ a, result = .ok a) ∧ ¬unwrapped ∨ ∃ fault, result = .error fault ∧ fault.isShape = false

namespace RefusesUnwrapped

variable {α β : Type _} {unwrapped others : Prop} {result : Except Fault α}

/-- A chain is refused where one of its links is. -/
theorem bind {next : α → Except Fault β} (first : RefusesUnwrapped unwrapped result)
    (rest : ∀ a, RefusesUnwrapped others (next a)) :
    RefusesUnwrapped (unwrapped ∨ others) (result >>= next) := by
  rcases first with ⟨⟨a, rfl⟩, none⟩ | ⟨fault, rfl, other⟩
  · exact (rest a).imp_left fun ⟨given, noOther⟩ => ⟨given, not_or.mpr ⟨none, noOther⟩⟩
  · exact .inr ⟨fault, rfl, other⟩

/-- So is a result that is changed. -/
theorem map (refuses : RefusesUnwrapped unwrapped result) (f : α → β) :
    RefusesUnwrapped unwrapped (result.map f) := by
  rcases refuses with ⟨⟨a, rfl⟩, none⟩ | ⟨fault, rfl, other⟩
  · exact .inl ⟨⟨f a, rfl⟩, none⟩
  · exact .inr ⟨fault, rfl, other⟩

theorem congr (same : unwrapped ↔ others) (refuses : RefusesUnwrapped unwrapped result) :
    RefusesUnwrapped others result := by
  rwa [RefusesUnwrapped, ← same]

/-- A result holds nothing that was never wrapped. -/
theorem ok (a : α) : RefusesUnwrapped False (.ok a) := .inl ⟨⟨a, rfl⟩, not_false⟩

end RefusesUnwrapped

/-! ## Paths -/

namespace Path

/-- A literal is written unless it has both quotes. -/
theorem literal_refuses (value : String) : RefusesUnwrapped False (literal value) := by
  unfold literal
  split
  · split
    · exact .inr ⟨_, rfl, rfl⟩
    · exact .ok _
  · exact .ok _

/-- A part is written unless its literal or its position cannot be. -/
theorem Part.print_refuses (part : Part) : RefusesUnwrapped False part.print := by
  induction part with
  | element name => exact .ok _
  | «attribute» name => exact .ok _
  | filtered name predicate ih => exact ih.map _
  | position index =>
    rw [Part.print, positionText]
    cases Decimal.integer? index with
    | none => exact .inr ⟨_, rfl, rfl⟩
    | some digits => exact .ok digits
  | attributeIs name value => exact (literal_refuses value).map _
  | childIs name value => exact (literal_refuses value).map _

/-- A path is written unless one of its parts cannot be. -/
theorem print_refuses (steps : List Part) : RefusesUnwrapped False (print steps) := by
  induction steps with
  | nil => exact .ok _
  | cons step rest ih =>
    exact (step.print_refuses.bind fun first => ih.map fun others => "/" ++ first ++ others).congr
      or_self_iff

end Path

/-! ## Writes -/

/-- A single write is refused for its path. -/
theorem writeAt_refuses (steps : List Part) (text : Option String) :
    RefusesUnwrapped False (writeAt steps text) := (print_refuses steps).map _

/-- The writes of attributes are refused for their paths. -/
theorem writesOfAttributes_refuses (steps : List Part) (entries : List (String × Value)) :
    RefusesUnwrapped False (writesOfAttributes steps entries) := by
  induction entries with
  | nil => exact .ok _
  | cons entry rest ih =>
    exact ((writeAt_refuses _ _).bind fun first => ih.map (first ++ ·)).congr or_self_iff

/-- Some of the pieces were never wrapped. -/
def SomeUnwrapped (pieces : List Piece) : Prop := ∃ piece ∈ pieces, piece.isUnwrapped = true

theorem someUnwrapped_cons {piece : Piece} {rest : List Piece} :
    SomeUnwrapped (piece :: rest) ↔ piece.isUnwrapped = true ∨ SomeUnwrapped rest :=
  List.exists_mem_cons_iff _ _ _

theorem not_someUnwrapped_nil : ¬SomeUnwrapped [] := fun ⟨_, member, _⟩ => List.not_mem_nil member

theorem someUnwrapped_append {first second : List Piece} :
    SomeUnwrapped (first ++ second) ↔ SomeUnwrapped first ∨ SomeUnwrapped second := by
  simp only [SomeUnwrapped, List.mem_append, or_and_right, exists_or]

/-- Attributes hold scalars. -/
theorem not_someUnwrapped_attributePieces (entries : List (String × Value)) :
    ¬SomeUnwrapped (attributePieces entries) := by
  rintro ⟨piece, member, unwrapped⟩
  obtain ⟨entry, _, rfl⟩ := List.mem_map.mp member
  cases unwrapped

mutual

/-- The writes of a value are refused if it holds data that was never wrapped, and never for its
shape. -/
theorem writesOf_refuses (steps : List Part) (key : String) (value : Value) :
    RefusesUnwrapped (SomeUnwrapped (pieces key value)) (writesOf steps value) := by
  cases value with
  | scalar text =>
    refine (writeAt_refuses steps (someText text)).congr (iff_of_false not_false ?_)
    simp [pieces, someUnwrapped_cons, Piece.isUnwrapped, not_someUnwrapped_nil]
  | mapping entries =>
    have only : SomeUnwrapped (pieces key (.mapping entries)) ↔
        False ∨ SomeUnwrapped (entryPieces entries) ∨ False := by
      simp [pieces, someUnwrapped_cons, someUnwrapped_append, Piece.isUnwrapped,
        not_someUnwrapped_attributePieces]
    refine .congr only.symm ?_
    by_cases empty : entries.isEmpty = true
    · rw [writesOf, if_pos empty, List.isEmpty_iff.mp empty]
      exact (writeAt_refuses steps none).congr
        (iff_of_false not_false (by simp [entryPieces, not_someUnwrapped_nil]))
    · rw [writesOf, if_neg empty]
      refine (writesOfAttributes_refuses steps (Value.attributesOf entries)).bind fun attributes =>
        (writesOfEntries_refuses steps entries).bind fun children => ?_
      split
      · exact writeAt_refuses steps none
      · exact .ok _
  | _ => exact .inr ⟨.noMember _ "attributes", by rw [writesOf] <;> nofun, rfl⟩

/-- So it is with the element entries of a mapping. -/
theorem writesOfEntries_refuses (steps : List Part) (entries : List (String × Value)) :
    RefusesUnwrapped (SomeUnwrapped (entryPieces entries)) (writesOfEntries steps entries) := by
  cases entries with
  | nil => exact (RefusesUnwrapped.ok _).congr (iff_of_false not_false not_someUnwrapped_nil)
  | cons entry rest =>
    obtain ⟨key, value⟩ := entry
    have below := writesOfEntries_refuses steps rest
    by_cases marked : marksAttribute key = true
    · rw [entryPieces_marked value rest marked, (entryEdits_marked value rest marked steps).1]
      exact below
    · rw [entryPieces_unmarked value rest marked]
      refine .congr someUnwrapped_append.symm ?_
      have one (single : ¬value.isSequence = true) :
          RefusesUnwrapped
            (SomeUnwrapped (piecesUnder key value) ∨ SomeUnwrapped (entryPieces rest))
            (writesOfEntries steps ((key, value) :: rest)) := by
        rw [(entryEdits_single value rest marked single steps).1, piecesUnder_single key single]
        exact (writesOf_refuses _ key value).bind fun first => below.map (first ++ ·)
      cases value with
      | sequence items =>
        rw [writesOfEntries, if_neg marked]
        exact (writesOfItems_refuses steps key 1 items).bind fun first => below.map (first ++ ·)
      | _ => exact one Bool.false_ne_true

/-- So it is with the items of a sequence. -/
theorem writesOfItems_refuses (steps : List Part) (key : String) (position : Nat)
    (items : List Value) :
    RefusesUnwrapped (SomeUnwrapped (itemPieces key items))
      (writesOfItems steps key position items) := by
  cases items with
  | nil => exact (RefusesUnwrapped.ok _).congr (iff_of_false not_false not_someUnwrapped_nil)
  | cons item rest =>
    exact ((writesOf_refuses _ key item).bind fun first =>
      (writesOfItems_refuses steps key (position + 1) rest).map (first ++ ·)).congr
        someUnwrapped_append.symm

end

/-! ## Agreement -/

/-- Legible pieces are refused for the first that was never wrapped. -/
theorem Piece.checkAll_of_legible {pieces : List Piece}
    (legible : ∀ piece ∈ pieces, ¬piece.Illegible) :
    checkAll pieces = (pieces.find? isUnwrapped).elim (.ok ()) check := by
  induction pieces with
  | nil => rfl
  | cons piece rest ih =>
    obtain ⟨here, others⟩ := List.forall_mem_cons.mp legible
    rw [checkAll, List.find?_cons]
    by_cases kind : piece.isUnwrapped = true
    · rw [kind]
      cases piece with
      | unwrapped name value =>
        dsimp only [Option.elim]
        rw [check]
        cases value.display with
        | _ => rfl
      | _ => cases kind
    · rw [Bool.not_eq_true] at kind
      rw [kind]
      rcases piece.check_cases kind with ⟨illegible, _⟩ | ⟨_, passes⟩
      · exact absurd illegible here
      · rw [passes, ok_bind, ih others]

/-- A value is turned into writes from its root. -/
theorem Data.Value.writes_eq (value : Value) :
    value.writes = value.root? >>= fun root => root.elim (.ok []) fun entry =>
      writesOf [.element entry.1] entry.2 := by
  rw [Value.writes, Value.root?]
  cases value.wrap with
  | error fault => rfl
  | ok wrapped =>
    rw [ok_bind, ok_bind]
    cases documentEntry? wrapped with
    | error fault => rfl
    | ok root =>
      cases root with
      | _ => rfl

/-- The root of a value holds data that was never wrapped, and the first such data can be shown. -/
def Data.Value.HoldsUnwrapped (value : Value) : Prop :=
  ∃ key node name raw shown, value.root? = .ok (some (key, node)) ∧
    (pieces key node).find? Piece.isUnwrapped = some (.unwrapped name raw) ∧
    raw.display = .ok shown

/-- Where all names and texts are legible, building from a root is refused for its shape exactly if
it holds data that was never wrapped and can be shown. -/
theorem ofValue_shape_iff {value node : Value} {key : String}
    (rooted : value.root? = .ok (some (key, node)))
    (legible : ∀ piece ∈ pieces key node, ¬piece.Illegible) :
    (∃ fault, Document.ofValue value = .error fault ∧ fault.isShape = true) ↔
      value.HoldsUnwrapped := by
  have judged := Document.verdict_ofValue rooted
  rw [Piece.checkAll_of_legible legible] at judged
  constructor
  · rintro ⟨fault, refused, shape⟩
    rw [verdict_eq_error.mpr refused] at judged
    cases found : (pieces key node).find? Piece.isUnwrapped with
    | none =>
      rw [found] at judged
      cases judged
    | some piece =>
      rw [found] at judged
      cases piece with
      | unwrapped name raw =>
        rcases bind_eq_error.mp judged.symm with unshown | ⟨shown, shows, _⟩
        · rw [Value.fault_of_display raw unshown] at shape
          cases shape
        · exact ⟨key, node, name, raw, shown, rooted, found, shows⟩
      | _ => cases List.find?_some found
  · rintro ⟨_, _, name, raw, shown, same, found, shows⟩
    cases rooted.symm.trans same
    rw [found] at judged
    refine ⟨.noElement name shown, verdict_eq_error.mp (judged.trans ?_), rfl⟩
    rw [Option.elim, Piece.check, shows]
    rfl

/-- Where all names and texts are legible, turning data into writes is refused for its shape exactly
if building from it is, unless it holds data that was never wrapped: then building is refused for
its shape, and turning it into writes is not. -/
theorem writes_shape_iff {value : Value}
    (legible : ∀ key node, value.root? = .ok (some (key, node)) → ∀ piece ∈ pieces key node,
      ¬piece.Illegible) :
    ((∃ fault, value.writes = .error fault ∧ fault.isShape = true) ↔
        ∃ fault, Document.ofValue value = .error fault ∧ fault.isShape = true) ↔
      ¬value.HoldsUnwrapped := by
  rw [Value.writes_eq]
  cases rooted : value.root? with
  | error fault =>
    rw [Document.ofValue_eq, rooted]
    refine iff_of_true (by simp only [error_bind, Except.error.injEq]) ?_
    rintro ⟨_, _, _, _, _, none, _⟩
    rw [rooted] at none
    cases none
  | ok root =>
    cases root with
    | none =>
      rw [Document.ofValue_eq, rooted]
      refine iff_of_true (iff_of_false nofun nofun) ?_
      rintro ⟨_, _, _, _, _, none, _⟩
      rw [rooted] at none
      cases none
    | some root =>
      obtain ⟨key, node⟩ := root
      rw [ofValue_shape_iff rooted (legible key node rooted), ok_bind, Option.elim]
      have noShape : ¬∃ fault, writesOf [.element key] node = .error fault ∧
          fault.isShape = true := by
        rintro ⟨fault, refused, shape⟩
        rcases writesOf_refuses [.element key] key node with ⟨⟨_, wrote⟩, _⟩ | ⟨_, other, noShape⟩
        · rw [wrote] at refused
          cases refused
        · cases other.symm.trans refused
          rw [shape] at noShape
          cases noShape
      rw [iff_false_left noShape]

/-- Both go through where everything was wrapped. -/
theorem writes_shape_iff_mapping :
    let value : Value := .mapping
      [("r", .mapping [("@k", .scalar "v"), ("a", .sequence [.scalar "x", .mapping []])])]
    ((∃ fault, value.writes = .error fault ∧ fault.isShape = true) ↔
      ∃ fault, Document.ofValue value = .error fault ∧ fault.isShape = true) := by
  intro value
  have listed {key : String} {node : Value} (rooted : value.root? = .ok (some (key, node))) :
      pieces key node = [.element "r", .attribute "k" "v", .element "a", .text "x",
        .element "a"] := by
    cases rooted
    rfl
  refine (writes_shape_iff fun key node rooted => ?_).mpr ?_
  · rw [listed rooted]
    have passes := Piece.checkAll_eq_ok.mp (rfl : Piece.checkAll [.element "r", .attribute "k" "v",
      .element "a", .text "x", .element "a"] = .ok ())
    exact fun piece member => piece.legible_of_check (passes piece member)
  · rintro ⟨key, node, name, raw, shown, rooted, found, _⟩
    rw [listed rooted] at found
    cases found

/-- It is not so that both are refused for the shape of the same data: a mapping that holds a text
which was never wrapped is refused for its shape only where an element is built from it. -/
theorem not_writes_shape_iff_unwrapped :
    ¬∀ value : Value, (∀ key node, value.root? = .ok (some (key, node)) →
        ∀ piece ∈ pieces key node, ¬piece.Illegible) →
      ((∃ fault, value.writes = .error fault ∧ fault.isShape = true) ↔
        ∃ fault, Document.ofValue value = .error fault ∧ fault.isShape = true) := by
  intro law
  have built : Document.ofValue (.mapping [("r", .text "x")]) = .error (.noElement "r" "'x'") := rfl
  have wrote : (Value.mapping [("r", .text "x")]).writes = .error (.noMember "str" "attributes") :=
    rfl
  have legible : ∀ piece ∈ pieces "r" (.text "x"), ¬piece.Illegible :=
    List.forall_mem_cons.mpr ⟨Piece.legible_of_check _ rfl, List.forall_mem_singleton.mpr not_false⟩
  have disagree := (law (.mapping [("r", .text "x")]) fun key node rooted => by
    cases rooted
    exact legible).mpr ⟨_, built, rfl⟩
  rw [wrote] at disagree
  obtain ⟨_, ⟨⟩, shape⟩ := disagree
  cases shape

end XmlGraft
