/-!
# Character sets — which characters some bytes are

A character set reads bytes from the left. A byte is a character by itself, or it is one together
with the byte after it. What is neither is not read, and then nothing is.

Sets are laid out in grids: a page of single bytes has rows of sixteen, a set of pairs has rows as
its standard has them. -/

namespace XmlGraft.Text

/-- A way to read bytes as characters: those that are characters by themselves, and those that are
in pairs. A byte of the first kind begins no pair. -/
structure Charset where
  single : Nat → Option Char
  pair : Nat → Nat → Option Char

namespace Charset

/-- The characters that some bytes are. -/
def decode (set : Charset) : List UInt8 → Option (List Char)
  | [] => some []
  | first :: rest =>
    match set.single first.toNat with
    | some c => (set.decode rest).map (c :: ·)
    | none =>
      match rest with
      | [] => none
      | second :: rest =>
        match set.pair first.toNat second.toNat with
        | some c => (set.decode rest).map (c :: ·)
        | none => none

/-- The characters below 128. -/
def asciiChar? (byte : Nat) : Option Char := if byte < 0x80 then some (Char.ofNat byte) else none

/-- ASCII, which has no byte above 127. -/
def ascii : Charset := ⟨asciiChar?, fun _ _ => none⟩

/-- Latin-1, in which each byte is the character with its number. -/
def latin1 : Charset := ⟨fun byte => some (Char.ofNat byte), fun _ _ => none⟩

/-- Characters in rows. -/
structure Grid where
  rows : Array (Array Char)

/-- The grid with given rows, where a full stop leaves a cell empty. -/
def Grid.ofRows (rows : List String) : Grid := ⟨(rows.map fun row => row.toList.toArray).toArray⟩

/-- The character in a cell. -/
def Grid.char? (grid : Grid) (row column : Nat) : Option Char :=
  ((grid.rows[row]?).bind (·[column]?)).filter (· ≠ '.')

/-- A set of single bytes that differs from Latin-1 from some byte on. -/
def page (start : Nat) (rows : List String) : Charset :=
  let cells := (rows.flatMap String.toList).toArray
  { single := fun byte =>
      if byte < start then some (Char.ofNat byte)
      else (cells[byte - start]?).filter (· ≠ '.')
    pair := fun _ _ => none }

end Charset

end XmlGraft.Text
