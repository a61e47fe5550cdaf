import XmlGraft.Text.Printable

/-!
# Quoted text — one text on one line, between quotes

Messages and listings show a text between quotes. The rule has three parts.

- The quote is `'`, unless the text holds a `'` and no `"`; then it is `"`.
- A backslash, and the quote in use, are written after a backslash; a newline, a carriage return
  and a tab are `\n`, `\r` and `\t`.
- Any other character that is not printable is written by its code in lower-case hexadecimal: `\x`
  and two digits, `\u` and four, or `\U` and eight, the shortest form that holds it.

Everything else stands as itself.
-/

namespace XmlGraft.Text

/-- The quote that a text is shown between. -/
def quoteFor (s : String) : Char :=
  if s.toList.contains '\'' && !s.toList.contains '"' then '"' else '\''

/-- The lower-case hexadecimal digits of a number, filled with zeros to a width. -/
def hexDigits (width code : Nat) : List Char :=
  let digits := Nat.toDigits 16 code
  List.replicate (width - digits.length) '0' ++ digits

/-- The written form of one character between given quotes. -/
def quotedChar (quote c : Char) : List Char :=
  if c = quote || c = '\\' then ['\\', c]
  else if c = '\n' then ['\\', 'n']
  else if c = '\r' then ['\\', 'r']
  else if c = '\t' then ['\\', 't']
  else if printable c then [c]
  else if c.toNat < 0x100 then '\\' :: 'x' :: hexDigits 2 c.toNat
  else if c.toNat < 0x10000 then '\\' :: 'u' :: hexDigits 4 c.toNat
  else '\\' :: 'U' :: hexDigits 8 c.toNat

/-- A text between quotes. -/
def quoted (s : String) : String :=
  let quote := quoteFor s
  String.ofList (quote :: s.toList.flatMap (quotedChar quote) ++ [quote])

end XmlGraft.Text
