import XmlGraft.Data.Wrapping
import XmlGraft.Document.OfValue
import XmlGraft.Proofs.Data.Grouping
import XmlGraft.Proofs.Outcome

/-!
# Normal form — what structured data is read back as

Building a tree and reading it back does not give every value again. An attribute given twice has
one value, values of one key come together wherever they were given, a list of one item is the item
and one without items is nothing, and a mapping of which nothing is left is the empty text.
`Value.normalForm` is the value after all this.
-/

namespace XmlGraft.Data

open Xml

/-- The attribute entries of a mapping, with their texts. -/
def attributePairs (entries : List (String × Value)) : List (String × String) :=
  (entries.filter fun entry => marksAttribute entry.1).map fun entry =>
    (entry.1, Element.attributeText entry.2)

/-- A mapping read back: its attributes, each once with the last text given to it, and the values of
its elements, gathered by key. One of which nothing is left is the empty text. -/
def mappingForm (attributes : List (String × String)) (elements : List (String × Value)) : Value :=
  if (Entries.ofPairs attributes).isEmpty && elements.isEmpty then .text ""
  else
    .dict <|
      (Entries.ofPairs attributes).map (fun entry => (.text entry.1, .text entry.2)) ++
        (gather elements).map fun group => (.text group.1, groupValue group.2)

mutual

/-- What the element that a structured value denotes is read back as. -/
def Value.normalForm : Value → Value
  | .scalar text => .text text
  | .mapping entries => mappingForm (attributePairs entries) (elementForms entries)
  | other => other

/-- What the elements that entries denote are read back as, each under its key. -/
def elementForms : List (String × Value) → List (String × Value)
  | [] => []
  | (key, .sequence items) :: rest =>
    if marksAttribute key then elementForms rest
    else (itemForms items).map (fun form => (key, form)) ++ elementForms rest
  | (key, value) :: rest =>
    if marksAttribute key then elementForms rest
    else (key, value.normalForm) :: elementForms rest

/-- What the elements that items denote are read back as. -/
def itemForms : List Value → List Value
  | [] => []
  | item :: rest => item.normalForm :: itemForms rest

end

section Entries

variable {key : String} (value : Value) (rest : List (String × Value))

/-- An attribute entry denotes no element. -/
theorem elementForms_marked (marked : marksAttribute key = true) :
    elementForms ((key, value) :: rest) = elementForms rest := by
  cases value with
  | _ => exact if_pos marked

/-- An entry that is no sequence denotes one element. -/
theorem elementForms_single (unmarked : ¬marksAttribute key = true)
    (single : ¬value.isSequence = true) :
    elementForms ((key, value) :: rest) = (key, value.normalForm) :: elementForms rest := by
  cases value with
  | sequence items => exact absurd rfl single
  | _ => exact if_neg unmarked

/-- A mapping with one element is a dictionary with one entry. -/
theorem normalForm_single (unmarked : ¬marksAttribute key = true)
    (single : ¬value.isSequence = true) :
    (Value.mapping [(key, value)]).normalForm = .dict [(.text key, value.normalForm)] := by
  have noAttributes : attributePairs [(key, value)] = [] := by
    rw [attributePairs, List.map_eq_nil_iff]
    exact List.filter_cons_of_neg unmarked
  rw [Value.normalForm, noAttributes, elementForms_single value [] unmarked single, mappingForm,
    ← grouped_eq_gather]
  rfl

end Entries

end XmlGraft.Data
