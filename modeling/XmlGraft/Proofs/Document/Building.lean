import XmlGraft.Document.OfValue
import XmlGraft.Proofs.Data.Entries
import XmlGraft.Proofs.Outcome

/-!
# Building — what an element that was built was built from

A value that denotes an element is a scalar or a mapping (`ofValue_cases`). The entries of a mapping
and the items of a sequence are taken apart one by one: an attribute entry denotes no element, a
sequence as many as it has items, and any other value one.
-/

namespace XmlGraft

open Xml Data

/-- A mapping without entries, or with one that names the root, stands for a document. -/
theorem Data.documentEntry?_eq_ok {wrapped : Value} {entry : Option (String × Value)}
    (found : documentEntry? wrapped = .ok entry) :
    wrapped = .mapping entry.toList ∧
      ∀ root ∈ entry, ¬marksAttribute root.1 = true ∧ ¬root.2.isSequence = true := by
  unfold documentEntry? at found
  split at found
  · cases found
    exact ⟨rfl, fun _ member => nomatch member⟩
  · split at found
    · cases found
    · next unmarked =>
      split at found
      · cases found
      · next single =>
        cases found
        refine ⟨rfl, ?_⟩
        rintro _ ⟨⟩
        exact ⟨unmarked, single⟩
  · cases found
  · obtain ⟨_, _, none⟩ := bind_eq_ok.mp found
    cases none

namespace Xml.Element

/-- What denotes an element is a text, or a mapping whose attributes and children can be made. -/
theorem ofValue_cases {tag : String} {value : Value} {e : Element}
    (built : ofValue tag value = .ok e) :
    (∃ text, value = .scalar text ∧ ofText tag text = .ok e) ∨
      ∃ entries start marked children, value = .mapping entries ∧ Element.new tag = .ok start ∧
        start.setAttributes (Value.attributesOf entries) = .ok marked ∧
        ofEntries entries = .ok children ∧ e = marked.appendAll children := by
  unfold ofValue at built
  split at built
  · next text => exact Or.inl ⟨text, rfl, built⟩
  · next entries =>
    obtain ⟨start, made, rest⟩ := bind_eq_ok.mp built
    obtain ⟨marked, set, rest⟩ := bind_eq_ok.mp rest
    obtain ⟨children, builtChildren, same⟩ := bind_eq_ok.mp rest
    cases same
    exact Or.inr ⟨entries, start, marked, children, rfl, made, set, builtChildren, rfl⟩
  · obtain ⟨_, _, rest⟩ := bind_eq_ok.mp built
    obtain ⟨_, _, none⟩ := bind_eq_ok.mp rest
    cases none

section Entries

variable {key : String} {value : Value} {items : List Value} {rest : List (String × Value)}
  {children : List Element}

/-- An attribute entry denotes no element. -/
theorem ofEntries_marked (marked : marksAttribute key = true) :
    ofEntries ((key, value) :: rest) = ofEntries rest := by
  cases value with
  | _ => exact if_pos marked

/-- A sequence denotes its items. -/
theorem ofEntries_sequence (unmarked : ¬marksAttribute key = true) :
    ofEntries ((key, .sequence items) :: rest) = .ok children ↔
      ∃ first others, ofItems key items = .ok first ∧ ofEntries rest = .ok others ∧
        children = first ++ others := by
  rw [ofEntries, if_neg unmarked]
  exact both_eq_ok

/-- Any other value is built before the rest is. -/
theorem ofEntries_single_eq (unmarked : ¬marksAttribute key = true)
    (single : ¬value.isSequence = true) :
    ofEntries ((key, value) :: rest) =
      ofValue key value >>= fun first =>
        ofEntries rest >>= fun others => .ok (first :: others) := by
  cases value with
  | sequence items => exact absurd rfl single
  | _ => exact if_neg unmarked

/-- Any other value denotes one element. -/
theorem ofEntries_single (unmarked : ¬marksAttribute key = true)
    (single : ¬value.isSequence = true) :
    ofEntries ((key, value) :: rest) = .ok children ↔
      ∃ first others, ofValue key value = .ok first ∧ ofEntries rest = .ok others ∧
        children = first :: others := by
  rw [ofEntries_single_eq unmarked single]
  exact both_eq_ok

/-- Items denote one element each. -/
theorem ofItems_cons {item : Value} {rest : List Value} :
    ofItems key (item :: rest) = .ok children ↔
      ∃ first others, ofValue key item = .ok first ∧ ofItems key rest = .ok others ∧
        children = first :: others := by
  rw [ofItems]
  exact both_eq_ok

end Entries

end Xml.Element

end XmlGraft
