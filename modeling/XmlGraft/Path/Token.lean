import XmlGraft.Decimal.Layout
import XmlGraft.Fault
import XmlGraft.Text.NameChar

/-!
# Path tokens — how an expression is cut

An expression is a run of tokens with blanks (space, tab, carriage return, line feed) anywhere
between them: the five marks `/ @ [ ] =`, quoted literals, numerals and names. Each token is the
longest that begins where it does. Offsets count characters from the start of the expression.

`scan` cuts the whole expression; where no token begins it stops and says why. A reader of the
tokens meets that fault only when it has used up the tokens before it, so a fault of the grammar
further left is found first.
-/

namespace XmlGraft.Path

open Text

/-- A token of an expression. A literal is kept without its quotes, a numeral as the number. -/
inductive Token
  | separator
  | at
  | openBracket
  | closeBracket
  | equals
  | literal (value : String)
  | integer (value : Nat)
  | name (text : String)
deriving DecidableEq, Repr

/-- What a token is shown as: itself, the content of a literal, or the number. -/
def Token.shown : Token → String
  | .separator => "/"
  | .at => "@"
  | .openBracket => "["
  | .closeBracket => "]"
  | .equals => "="
  | .literal value => value
  | .integer value => String.ofList (Decimal.decimalDigits value)
  | .name text => text

/-- A token and the offset of its first character. -/
structure Lexeme where
  token : Token
  offset : Nat
deriving DecidableEq, Repr

/-- The literal that a quote opens, the rest after its closing quote, or nothing if it is never
closed. -/
def closeLiteral (quote : Char) (cs : List Char) : Option (List Char × List Char) :=
  match cs.dropWhile (· ≠ quote) with
  | [] => none
  | _ :: rest => some (cs.takeWhile (· ≠ quote), rest)

/-- The token that begins with a given character, how many characters it takes, and the rest. -/
def Token.read (c : Char) (cs : List Char) : Except Fault (Token × Nat × List Char) :=
  if c = '/' then .ok (.separator, 1, cs)
  else if c = '@' then .ok (.at, 1, cs)
  else if c = '[' then .ok (.openBracket, 1, cs)
  else if c = ']' then .ok (.closeBracket, 1, cs)
  else if c = '=' then .ok (.equals, 1, cs)
  else if c = '"' ∨ c = '\'' then
    match closeLiteral c cs with
    | some (value, rest) => .ok (.literal (String.ofList value), value.length + 2, rest)
    | none => .error (.unknownText (String.ofList (c :: cs)))
  else if isDigit c then
    let digits := c :: cs.takeWhile isDigit
    if digits.length ≤ Decimal.digitLimit then
      .ok (.integer (digitsValue digits), digits.length, cs.dropWhile isDigit)
    else .error (.longNumeral digits.length)
  else if isNameStart c then
    let name := c :: cs.takeWhile isNameChar
    .ok (.name (String.ofList name), name.length, cs.dropWhile isNameChar)
  else .error (.unknownText (String.ofList (c :: cs)))

/-- The tokens of an expression up to its end or to the first character where no token begins, and
the fault found there. -/
structure Scan where
  lexemes : List Lexeme
  fault : Option Fault
deriving DecidableEq, Repr

/-- The scan with one more token in front. -/
def Scan.cons (lexeme : Lexeme) (s : Scan) : Scan := ⟨lexeme :: s.lexemes, s.fault⟩

/-- Cuts what is left of an expression from an offset on. Each round takes at least one character,
so as many rounds as characters are enough. -/
def scanFrom : (rounds : Nat) → (offset : Nat) → List Char → Scan
  | _, _, [] => ⟨[], none⟩
  | 0, _, _ :: _ => ⟨[], none⟩
  | rounds + 1, offset, c :: cs =>
    if isBlank c then scanFrom rounds (offset + 1) cs
    else
      match Token.read c cs with
      | .error fault => ⟨[], some fault⟩
      | .ok (token, width, rest) =>
        (scanFrom rounds (offset + width) rest).cons ⟨token, offset⟩

/-- The tokens of an expression. -/
def scan (expression : String) : Scan :=
  scanFrom expression.length 0 expression.toList

end XmlGraft.Path
