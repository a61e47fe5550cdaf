import XmlGraft.Decimal.Layout
import XmlGraft.Fault
import XmlGraft.Path.Basic

/-!
# Written paths — parts and paths as text

A path is written with a `/` before each step and no blanks. A literal stands between double quotes,
or between single ones if it holds a double quote; the language has no escape, so a literal with
both quotes cannot be written. The parts are written from left to right, and the first that cannot
be written is the fault of the whole.
-/

namespace XmlGraft.Path

/-- A literal between quotes that it does not hold. -/
def literal (value : String) : Except Fault String :=
  if value.toList.contains '"' then
    if value.toList.contains '\'' then .error (.bothQuotes value)
    else .ok ("'" ++ value ++ "'")
  else .ok ("\"" ++ value ++ "\"")

/-- A position in decimal. -/
def positionText (index : Int) : Except Fault String :=
  (Decimal.integer? index).elim (.error .longInteger) .ok

/-- A part as it stands in a written path. -/
def Part.print : Part → Except Fault String
  | .element name => .ok name
  | .filtered name predicate => predicate.print.map fun inner => name ++ "[" ++ inner ++ "]"
  | .attribute name => .ok ("@" ++ name)
  | .position index => positionText index
  | .attributeIs name value => (literal value).map fun quoted => "@" ++ name ++ "=" ++ quoted
  | .childIs name value => (literal value).map fun quoted => name ++ "=" ++ quoted

/-- A path as text. -/
def print : List Part → Except Fault String
  | [] => .ok ""
  | part :: rest => do
    let first ← part.print
    let others ← print rest
    return "/" ++ first ++ others

/-- A part with the name of its kind, for messages. -/
def Part.display (part : Part) : Except Fault String :=
  part.print.map fun text => "<" ++ part.kind ++ " " ++ text ++ ">"

end XmlGraft.Path
