import XmlGraft.Data.Equality
import XmlGraft.Data.Show

/-!
# Structured data — wrapping plain data, and unwrapping it

`Value.wrap` wraps plain data: a dictionary becomes a mapping, a list or tuple a sequence, and
anything else a scalar with its text. Data that is structured already stays as it is, whatever it
holds. `Value.unwrap` unwraps: a scalar is its text, a mapping a dictionary, a sequence a list.

What wrapping refuses it refuses in the order of the entries, and a value is wrapped before the
entry that holds it is judged:

- a key that is not a text;
- an attribute that holds anything but a scalar;
- a sequence directly inside a sequence.
-/

namespace XmlGraft.Data

/-- Whether a mapping may hold this entry. -/
def checkEntry (key : String) (value : Value) : Except Fault Unit :=
  if marksAttribute key && !value.isScalar then
    value.display >>= fun shown => .error (.attributeNotScalar key shown)
  else .ok ()

/-- The entries of a mapping made by hand, judged in order. -/
def handEntries : List (Value × Value) → Except Fault (List (String × Value))
  | [] => .ok []
  | (.text key, value) :: rest => do
    checkEntry key value
    let others ← handEntries rest
    return (key, value) :: others
  | (other, _) :: _ => .error (.noMember other.kind "startswith")

/-- A mapping made by hand. -/
def Value.mappingOf (entries : List (Value × Value)) : Except Fault Value :=
  (handEntries entries).map .mapping

/-- A sequence made by hand. -/
def Value.sequenceOf (items : List Value) : Except Fault Value :=
  if items.any Value.isSequence then .error .nestedSequence else .ok (.sequence items)

/-- The key of an entry, which must be a text. -/
def entryKey : Value → Except Fault String
  | .text key => .ok key
  | other => other.display >>= fun shown => .error (.nonTextKey shown)

mutual

/-- A value as structured data. -/
def Value.wrap : Value → Except Fault Value
  | .scalar s => .ok (.scalar s)
  | .mapping entries => .ok (.mapping entries)
  | .sequence items => .ok (.sequence items)
  | .dict entries => (wrapEntries entries).map .mapping
  | .list items => (wrapItems items).map .sequence
  | .tuple items => (wrapItems items).map .sequence
  | other => other.scalarText.map .scalar

/-- The entries of a dictionary as those of a mapping. -/
def wrapEntries : List (Value × Value) → Except Fault (List (String × Value))
  | [] => .ok []
  | (key, item) :: rest => do
    let name ← entryKey key
    let value ← item.wrap
    checkEntry name value
    let others ← wrapEntries rest
    return (name, value) :: others

/-- The items of a list as those of a sequence. -/
def wrapItems : List Value → Except Fault (List Value)
  | [] => .ok []
  | item :: rest => do
    let value ← item.wrap
    if value.isSequence then .error .nestedSequence
    else
      let others ← wrapItems rest
      return value :: others

end

mutual

/-- Structured data as plain data. Plain data that was never wrapped has no such form. -/
def Value.unwrap : Value → Except Fault Value
  | .scalar s => .ok (.text s)
  | .mapping entries =>
    (unwrapEntries entries).map fun plain =>
      .dict ((Entries.ofPairs plain).map fun entry => (.text entry.1, entry.2))
  | .sequence items => (unwrapItems items).map .list
  | other => .error (.noMember other.kind "plain")

/-- The values of a mapping's entries as plain data. -/
def unwrapEntries : List (String × Value) → Except Fault (List (String × Value))
  | [] => .ok []
  | (key, value) :: rest => do
    let first ← value.unwrap
    let others ← unwrapEntries rest
    return (key, first) :: others

/-- The items of a sequence as plain data. -/
def unwrapItems : List Value → Except Fault (List Value)
  | [] => .ok []
  | item :: rest => do
    let first ← item.unwrap
    let others ← unwrapItems rest
    return first :: others

end

end XmlGraft.Data
