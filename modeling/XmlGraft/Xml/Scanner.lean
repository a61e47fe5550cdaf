import XmlGraft.Text.NameChar
import XmlGraft.Xml.Markup

/-!
# Scanning — characters to markup

Cuts the characters of a document into pieces. Every piece begins with `<` or `&`, or is a run of
characters up to one of these. Nothing is known here of nesting or of namespaces: a piece is
refused only for what is wrong inside it, and a name is any name, with colons or without.

Characters that XML does not admit are refused everywhere. Line breaks take one form, but a run of
characters keeps them as they are written. A literal line break or tab in an attribute value becomes
a blank, and one given by a reference stays.

## What is not scanned

A document type declaration (`<!DOCTYPE …>`) is no piece. A document with one is refused, although
it may well be read elsewhere, and with it goes all that such a declaration can bring: entities
beyond the five predefined ones, attributes with default values, types of attributes, and what it
changes in the writing of a tree.

Names, values and runs are of any length. Guards against very long ones are not part of the
language.
-/

namespace XmlGraft.Xml

open Text

/-- The characters that a document may hold. -/
def isXmlChar (c : Char) : Bool := isTextChar c

/-- Line breaks in one form: a carriage return, alone or before a line feed, becomes a line feed. -/
def unifyLineBreaks : List Char → List Char
  | [] => []
  | '\r' :: '\n' :: rest => '\n' :: unifyLineBreaks rest
  | '\r' :: rest => '\n' :: unifyLineBreaks rest
  | c :: rest => c :: unifyLineBreaks rest

/-- The characters after leading blanks. -/
def dropBlanks (cs : List Char) : List Char := cs.dropWhile isBlank

/-- Whether a character may stand in a name that may have colons. -/
def isTagChar (c : Char) : Bool := isNameChar c || c = ':'

/-- The name at the front of some characters, colons included, and the rest. -/
def takeName (cs : List Char) : Option (List Char × List Char) :=
  if cs.head?.any fun c => isNameStart c || c = ':' then
    some (cs.takeWhile isTagChar, cs.dropWhile isTagChar)
  else none

/-- The value of hexadecimal digits. -/
def hexValue (digits : List Char) : Nat :=
  digits.foldl (fun value c => 16 * value +
    (if Text.isDigit c then c.toNat - '0'.toNat
      else if 'a' ≤ c then c.toNat - 'a'.toNat + 10 else c.toNat - 'A'.toNat + 10)) 0

/-- The character with a given code, if a document may hold it. -/
def charOfCode (code : Nat) : Option Char :=
  if h : code.isValidChar then
    let c := Char.ofNatAux code h
    if isXmlChar c then some c else none
  else none

/-- The character that a reference stands for, given what stands between `&` and `;`. -/
def referenced : List Char → Option Char
  | ['l', 't'] => some '<'
  | ['g', 't'] => some '>'
  | ['a', 'm', 'p'] => some '&'
  | ['q', 'u', 'o', 't'] => some '"'
  | ['a', 'p', 'o', 's'] => some '\''
  | '#' :: 'x' :: digits =>
    if !digits.isEmpty && digits.all Uri.isHexDigit then charOfCode (hexValue digits) else none
  | '#' :: digits =>
    if !digits.isEmpty && digits.all Text.isDigit then charOfCode (digitsValue digits) else none
  | _ => none

/-- The characters that an attribute value denotes. Inside a reference, `pending` holds what has
been read of it, the last character first. -/
def valueChars : (pending : Option (List Char)) → List Char → Option (List Char)
  | none, [] => some []
  | some _, [] => none
  | none, c :: rest =>
    if c = '&' then valueChars (some []) rest
    else if c = '<' || !isXmlChar c then none
    else (valueChars none rest).map ((if isBlank c then ' ' else c) :: ·)
  | some read, c :: rest =>
    if c = ';' then
      match referenced read.reverse with
      | some d => (valueChars none rest).map (d :: ·)
      | none => none
    else valueChars (some (c :: read)) rest

/-- The attribute value in quotes at the front of some characters, and the rest. -/
def takeValue : List Char → Option (String × List Char)
  | quote :: cs =>
    if quote = '"' || quote = '\'' then
      match cs.dropWhile (· ≠ quote) with
      | [] => none
      | _ :: rest =>
        (valueChars none (unifyLineBreaks (cs.takeWhile (· ≠ quote)))).map fun value =>
          (String.ofList value, rest)
    else none
  | [] => none

/-- The attribute at the front of some characters, and the rest. -/
def takeAttribute (cs : List Char) : Option ((String × String) × List Char) :=
  match takeName cs with
  | some (name, rest) =>
    match dropBlanks rest with
    | '=' :: rest =>
      (takeValue (dropBlanks rest)).map fun (value, rest) => ((String.ofList name, value), rest)
    | _ => none
  | none => none

/-- What a start tag holds after its name: its attributes, whether it is an empty element's, and the
rest. Each attribute follows a blank. -/
def takeAttributes : (rounds : Nat) → List Char → Option (List (String × String) × Bool × List Char)
  | 0, _ => none
  | rounds + 1, cs =>
    match dropBlanks cs with
    | '>' :: rest => some ([], false, rest)
    | '/' :: '>' :: rest => some ([], true, rest)
    | others =>
      if cs.head?.any isBlank then
        match takeAttribute others with
        | some (entry, rest) =>
          (takeAttributes rounds rest).map fun (entries, empty, rest) =>
            (entry :: entries, empty, rest)
        | none => none
      else none

/-- The characters before a marker, and those after it. -/
def splitAtMarker (marker : List Char) : List Char → Option (List Char × List Char)
  | [] => none
  | c :: rest =>
    if marker.isPrefixOf (c :: rest) then some ([], (c :: rest).drop marker.length)
    else (splitAtMarker marker rest).map fun (before, after) => (c :: before, after)

/-- A comment from its first character on. Two hyphens end it, and must be followed by `>`. -/
def takeComment (cs : List Char) : Option (Markup × List Char) :=
  match splitAtMarker ['-', '-'] cs with
  | some (content, '>' :: rest) =>
    if content.all isXmlChar then some (.comment (String.ofList (unifyLineBreaks content)), rest)
    else none
  | _ => none

/-- A CDATA section from its first character on. -/
def takeCdata (cs : List Char) : Option (Markup × List Char) :=
  match splitAtMarker [']', ']', '>'] cs with
  | some (content, rest) =>
    if content.all isXmlChar then some (.cdata (unifyLineBreaks content), rest) else none
  | none => none

/-- Whether the target of an instruction is kept for the declaration of a document. -/
def isReservedTarget (target : List Char) : Bool :=
  target.map Char.toLower == ['x', 'm', 'l']

/-- A processing instruction from its target on. -/
def takeInstruction (cs : List Char) : Option (Markup × List Char) :=
  match takeName cs with
  | some (target, after) =>
    if isReservedTarget target then none
    else
      match after with
      | '?' :: '>' :: rest => some (.instruction (String.ofList target) none, rest)
      | c :: after =>
        if isBlank c then
          match splitAtMarker ['?', '>'] (dropBlanks after) with
          | some (content, rest) =>
            if content.all isXmlChar then
              let content := String.ofList (unifyLineBreaks content)
              some (.instruction (String.ofList target) (some content), rest)
            else none
          | none => none
        else none
      | [] => none
  | none => none

/-- An end tag from its name on. -/
def takeClosing (cs : List Char) : Option (Markup × List Char) :=
  match takeName cs with
  | some (name, rest) =>
    match dropBlanks rest with
    | '>' :: rest => some (.closing (String.ofList name), rest)
    | _ => none
  | none => none

/-- A start tag from its name on. -/
def takeOpening (rounds : Nat) (cs : List Char) : Option (Markup × List Char) :=
  match takeName cs with
  | some (name, rest) =>
    (takeAttributes rounds rest).map fun (entries, empty, rest) =>
      (.opening (String.ofList name) entries empty, rest)
  | none => none

/-- A reference from its first character on. -/
def takeReference (cs : List Char) : Option (Markup × List Char) :=
  match cs.dropWhile (· ≠ ';') with
  | [] => none
  | _ :: rest => (referenced (cs.takeWhile (· ≠ ';'))).map fun c => (.reference c, rest)

/-- Whether a character may stand for itself between tags. -/
def isOrdinary (c : Char) : Bool := c ≠ '<' && c ≠ '&'

/-- A run of characters as they are written; the end of a CDATA section must not stand in it. -/
def takeRun (cs : List Char) : Option (Markup × List Char) :=
  let run := cs.takeWhile isOrdinary
  if run.all isXmlChar && (splitAtMarker [']', ']', '>'] run).isNone then
    some (.chars run, cs.dropWhile isOrdinary)
  else none

/-- The piece at the front of some characters, and the rest. A document type declaration is none.
The rounds bound the attributes of a tag; as many as there are characters are enough. -/
def takeMarkup (rounds : Nat) : List Char → Option (Markup × List Char)
  | '<' :: '!' :: '-' :: '-' :: rest => takeComment rest
  | '<' :: '!' :: '[' :: 'C' :: 'D' :: 'A' :: 'T' :: 'A' :: '[' :: rest => takeCdata rest
  | '<' :: '?' :: rest => takeInstruction rest
  | '<' :: '/' :: rest => takeClosing rest
  | '<' :: rest => takeOpening rounds rest
  | '&' :: rest => takeReference rest
  | cs => takeRun cs

/-- Cuts characters into pieces. Each round takes at least one character, so as many rounds as
characters are enough. -/
def scanMarkup : (rounds : Nat) → List Char → Option (List Markup)
  | _, [] => some []
  | 0, _ :: _ => none
  | rounds + 1, c :: rest =>
    match takeMarkup (rounds + 1) (c :: rest) with
    | some (piece, rest) => (scanMarkup rounds rest).map (piece :: ·)
    | none => none

/-- The pieces of some characters. -/
def Markup.scan (cs : List Char) : Option (List Markup) := scanMarkup cs.length cs

end XmlGraft.Xml
