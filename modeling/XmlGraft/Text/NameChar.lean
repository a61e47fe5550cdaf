import XmlGraft.Text.CodeRange

/-!
# Name characters — what a name without a colon is made of

The name characters of XML 1.0 (fifth edition) without the colon, which separates a namespace
prefix from a local name and is never part of either. Path expressions and markup use the same
class, so a name that one of them reads the other can write.
-/

namespace XmlGraft.Text

/-- The characters that may begin a name, as closed ranges. -/
def nameStartRanges : List (Nat × Nat) := [
  (0x41, 0x5A), (0x5F, 0x5F), (0x61, 0x7A), (0xC0, 0xD6), (0xD8, 0xF6), (0xF8, 0x2FF),
  (0x370, 0x37D), (0x37F, 0x1FFF), (0x200C, 0x200D), (0x2070, 0x218F), (0x2C00, 0x2FEF),
  (0x3001, 0xD7FF), (0xF900, 0xFDCF), (0xFDF0, 0xFFFD), (0x10000, 0xEFFFF)]

/-- The characters that may follow in a name but not begin it, as closed ranges. -/
def nameExtraRanges : List (Nat × Nat) := [
  (0x2D, 0x2E), (0x30, 0x39), (0xB7, 0xB7), (0x300, 0x36F), (0x203F, 0x2040)]

/-- Whether a character may begin a name. -/
def isNameStart (c : Char) : Bool := inRanges nameStartRanges c.toNat

/-- Whether a character may stand in a name after its first. -/
def isNameChar (c : Char) : Bool := isNameStart c || inRanges nameExtraRanges c.toNat

/-- Whether characters form a name without a colon. -/
def isNCName : List Char → Bool
  | [] => false
  | c :: rest => isNameStart c && rest.all isNameChar

/-- The blanks of paths and of markup: space, tab, carriage return and line feed. -/
def isBlank (c : Char) : Bool := c = ' ' || c = '\t' || c = '\r' || c = '\n'

/-- The ten ASCII digits; no other digit belongs to a number. -/
def isDigit (c : Char) : Bool := '0' ≤ c && c ≤ '9'

/-- The number that a run of decimal digits denotes; leading zeros do not count. -/
def digitsValue (digits : List Char) : Nat :=
  digits.foldl (fun value c => 10 * value + (c.toNat - '0'.toNat)) 0

end XmlGraft.Text
