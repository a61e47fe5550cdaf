import XmlGraft.Text.Charset.Big5Grid
import XmlGraft.Text.Charset.HangulGrid
import XmlGraft.Text.Charset.HanziGrid
import XmlGraft.Text.Charset.JisGrid
import XmlGraft.Text.CodeRange

/-!
# Sets of pairs — character sets of one or two bytes for each character

A byte below 128 is mostly the ASCII character, and the bytes above form pairs. What differs is
where the second byte of a pair may lie, and where a pair lies in the grid of its standard. -/

namespace XmlGraft.Text.Charset

/-- The half-width kana, which some sets have as single bytes. -/
def halfWidthKana? (byte : Nat) : Option Char :=
  if 0xA1 ≤ byte && byte ≤ 0xDF then some (Char.ofNat (0xFF61 + (byte - 0xA1))) else none

/-- The character of two bytes above 160 that are a row and a column of a grid. -/
def Grid.ofHighBytes (grid : Grid) (first second : Nat) : Option Char :=
  if 0xA1 ≤ first && 0xA1 ≤ second then grid.char? (first - 0xA1) (second - 0xA1) else none

/-- The Japanese set of Unix. A kana stands behind a byte that announces it. -/
def eucJapanese : Charset where
  single := asciiChar?
  pair first second :=
    if first = 0x8E then halfWidthKana? second else jisGrid.ofHighBytes first second

/-- The place of a second byte that lies on both sides of 127. -/
def shiftedColumn? (second : Nat) : Option Nat :=
  if 0x40 ≤ second && second ≤ 0x7E then some (second - 0x40)
  else if 0x80 ≤ second && second ≤ 0xFC then some (second - 0x41)
  else none

/-- The character of a pair whose first byte counts two rows of the grid. From 240 on lie characters
for private use. -/
def shiftedPair? (first second : Nat) : Option Char :=
  (shiftedColumn? second).bind fun column =>
    if 0xF0 ≤ first && first ≤ 0xF9 then
      some (Char.ofNat (0xE000 + 188 * (first - 0xF0) + column))
    else
      let double :=
        if 0x81 ≤ first && first ≤ 0x9F then some (first - 0x81)
        else if 0xE0 ≤ first && first ≤ 0xEF then some (first - 0xC1)
        else none
      double.bind fun row => jisGrid.char? (2 * row + column / 94) (column % 94)

/-- The Japanese set that leaves room for kana as single bytes. It has a yen sign and an overline
where ASCII has a backslash and a tilde. -/
def shiftJis : Charset where
  single byte :=
    if byte = 0x5C then some '¥'
    else if byte = 0x7E then some '‾'
    else (asciiChar? byte).or (halfWidthKana? byte)
  pair := shiftedPair?

/-- The signs that Windows has in their full width, or in another form. -/
def fullWidthSigns : List (Char × Char) := [
  ('〜', '～'), ('‖', '∥'), ('−', '－'), ('¢', '￠'), ('£', '￡'), ('¬', '￢')]

/-- The Japanese page of Windows. -/
def windows932 : Charset where
  single byte := (asciiChar? byte).or (halfWidthKana? byte)
  pair first second :=
    (shiftedPair? first second).map fun c => (fullWidthSigns.lookup c).getD c

/-- The character of a pair in a grid of two rows of 95 for each first byte. -/
def hanziPair? (first second : Nat) : Option Char :=
  let column :=
    if 0x40 ≤ second && second ≤ 0x7E then some (second - 0x40)
    else if 0x80 ≤ second then some (second - 0x41)
    else none
  column.bind fun column =>
    if 0x81 ≤ first then hanziGrid.char? (2 * (first - 0x81) + column / 95) (column % 95) else none

/-- The Chinese set that extends the national one to traditional characters. -/
def gbk : Charset := ⟨asciiChar?, hanziPair?⟩

/-- The Chinese page of Windows, which has the euro sign as a single byte. -/
def windows936 : Charset where
  single byte := if byte = 0x80 then some '€' else asciiChar? byte
  pair := hanziPair?

/-- The pairs of `gbk` above 160 that the national set does not have, as closed ranges. -/
def gbkAdditions : List (Nat × Nat) := [(0xA2A1, 0xA2AA), (0xA6E0, 0xA6F5), (0xA8BB, 0xA8C0)]

/-- The Chinese national set. -/
def gb2312 : Charset where
  single := asciiChar?
  pair first second :=
    let code := 256 * first + second
    if first < 0xA1 || second < 0xA1 || inRanges gbkAdditions code then none
    else if code = 0xA1A4 then some '・'
    else if code = 0xA1AA then some '―'
    else hanziPair? first second

/-- The Korean set of Unix. -/
def eucKorean : Charset := ⟨asciiChar?, hangulGrid.ofHighBytes⟩

/-- The set for traditional Chinese. -/
def big5 : Charset where
  single := asciiChar?
  pair first second :=
    let column :=
      if 0x40 ≤ second && second ≤ 0x7E then some (second - 0x40)
      else if 0xA1 ≤ second && second ≤ 0xFE then some (second - 0x62)
      else none
    column.bind fun column =>
      if 0xA1 ≤ first then big5Grid.char? (2 * (first - 0xA1) + column / 79) (column % 79) else none

end XmlGraft.Text.Charset
