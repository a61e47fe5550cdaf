import XmlGraft.Xml.Builder
import XmlGraft.Xml.Encoding

/-!
# Reading documents — bytes to a root element

A document is given as a text, whose UTF-8 bytes are what is read. Its declaration, if it has one,
stands at the very start and may name another encoding; the bytes are then decoded by that one. A
byte order mark before everything is skipped, and says that the bytes are UTF-8 whatever the
declaration says, even where it names an encoding that is not known.

## What is not read

Only documents without a document type declaration are read. With one, a document is refused
(`takeMarkup`), so what is said of every document that was read is said of those without. Apart from
the depth of its elements, nothing limits a document: neither its size, nor that of its names and
texts, nor how many remarks it calls for.
-/

namespace XmlGraft.Xml

open Text

/-- The value of a pseudo-attribute of a declaration, in quotes after a sign of equality, and the
rest. -/
def takeSetting (cs : List Char) : Option (List Char × List Char) :=
  match dropBlanks cs with
  | '=' :: rest =>
    match dropBlanks rest with
    | quote :: rest =>
      if quote = '"' || quote = '\'' then
        match rest.dropWhile (· ≠ quote) with
        | [] => none
        | _ :: after => some (rest.takeWhile (· ≠ quote), after)
      else none
    | [] => none
  | _ => none

/-- What follows a keyword that stands after blanks. -/
def afterKeyword (keyword : String) (cs : List Char) : Option (List Char) :=
  if cs.head?.any isBlank && keyword.toList.isPrefixOf (dropBlanks cs) then
    some ((dropBlanks cs).drop keyword.length)
  else none

/-- A version of the language that is read: `1.` and digits. -/
def isVersion : List Char → Bool
  | '1' :: '.' :: digits => digits.all isDigit
  | _ => false

/-- The name of an encoding: an ASCII letter, and then letters, digits and `.`, `_`, `-`. -/
def isEncodingName : List Char → Bool
  | [] => false
  | c :: rest =>
    Uri.isLetter c &&
      rest.all fun c => Uri.isLetter c || isDigit c || c = '.' || c = '_' || c = '-'

/-- The name of the encoding in a declaration, if there is one, and the rest. -/
def takeEncoding (cs : List Char) : Option (Option String × List Char) :=
  match afterKeyword "encoding" cs with
  | none => some (none, cs)
  | some rest =>
    match takeSetting rest with
    | some (name, rest) =>
      if isEncodingName name then some (some (String.ofList name), rest) else none
    | none => none

/-- What follows the standalone setting of a declaration, if there is one. -/
def dropStandalone (cs : List Char) : Option (List Char) :=
  match afterKeyword "standalone" cs with
  | none => some cs
  | some rest =>
    match takeSetting rest with
    | some (value, rest) =>
      if value = "yes".toList || value = "no".toList then some rest else none
    | none => none

/-- The name of the encoding in the declaration of a document, and what follows the declaration. -/
def takeDeclaration (cs : List Char) : Option (Option String × List Char) := do
  let rest ← afterKeyword "version" cs
  let (version, rest) ← takeSetting rest
  if !isVersion version then none
  else
    let (encoding, rest) ← takeEncoding rest
    let rest ← dropStandalone rest
    match dropBlanks rest with
    | '?' :: '>' :: rest => some (encoding, rest)
    | _ => none

/-- The encoding of a document, given whether a byte order mark stands before it and what its
declaration names. -/
def encodingOf? (marked : Bool) (declared : Option String) : Option Encoding :=
  match marked, declared with
  | true, _ | _, none => some .utf8
  | false, some name => Encoding.ofName? name

/-- The characters of a document after its declaration, decoded. -/
def decodeDocument (cs : List Char) : Option (List Char) :=
  let (marked, cs) := match cs with
    | '\ufeff' :: rest => (true, rest)
    | _ => (false, cs)
  match cs with
  | '<' :: '?' :: 'x' :: 'm' :: 'l' :: c :: rest =>
    if isBlank c then do
      let (declared, rest) ← takeDeclaration (c :: rest)
      (← encodingOf? marked declared).decode rest
    else some cs
  | _ => some cs

/-- The root element of a document. -/
def Element.read (mode : ReadingMode) (document : String) : Option Element := do
  let cs ← decodeDocument document.toList
  let pieces ← Markup.scan cs
  Element.ofMarkup mode pieces

end XmlGraft.Xml
