import XmlGraft.Data.Value

/-!
# Shown values — a value as one line of text

Two spellings share most of their rules. `Value.display` is unambiguous: texts are quoted.
`Value.text` is what a scalar takes as its text: a text is itself, and nothing is empty.

An integer with more digits than are ever written makes both fail.
-/

namespace XmlGraft.Data

/-- Texts side by side, a comma and a blank between them. -/
def commaList (texts : List String) : String := ", ".intercalate texts

/-- A fixed number of items in round brackets; a single one keeps a comma. -/
def bracketed : List String → String
  | [only] => "(" ++ only ++ ",)"
  | texts => "(" ++ commaList texts ++ ")"

/-- An integer in decimal. -/
def showInteger (i : Int) : Except Fault String :=
  match Decimal.integer? i with
  | some digits => .ok digits
  | none => .error .longInteger

mutual

/-- A value as one line of text. -/
def Value.display : Value → Except Fault String
  | .null => .ok "None"
  | .bool b => .ok (if b then "True" else "False")
  | .int i => showInteger i
  | .float x => .ok (Decimal.plainLayout.float x)
  | .text s => .ok (Text.quoted s)
  | .list items => (showItems items).map fun texts => "[" ++ commaList texts ++ "]"
  | .tuple items => (showItems items).map bracketed
  | .dict entries => (showEntries entries).map fun texts => "\x7b" ++ commaList texts ++ "\x7d"
  | .scalar s => .ok ("<Scalar " ++ Text.quoted s ++ ">")
  | .mapping entries => .ok ("<Mapping " ++ commaList (entries.map (·.1)) ++ ">")
  | .sequence items => .ok ("<Sequence of " ++ toString items.length ++ ">")

/-- The items of a list, each as one line. -/
def showItems : List Value → Except Fault (List String)
  | [] => .ok []
  | item :: rest => do
    let first ← item.display
    let others ← showItems rest
    return first :: others

/-- The entries of a dictionary, each with its key. -/
def showEntries : List (Value × Value) → Except Fault (List String)
  | [] => .ok []
  | (key, item) :: rest => do
    let shownKey ← key.display
    let shownItem ← item.display
    let others ← showEntries rest
    return (shownKey ++ ": " ++ shownItem) :: others

end

/-- A value as text: a text is itself, and any other value as it is shown. -/
def Value.spell : Value → Except Fault String
  | .text s => .ok s
  | value => value.display

/-- The text that a scalar takes from a value: nothing is empty. -/
def Value.scalarText : Value → Except Fault String
  | .null => .ok ""
  | value => value.spell

end XmlGraft.Data
