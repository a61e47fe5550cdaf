import XmlGraft.Text.NameChar

/-!
# URI references — which texts can name a namespace

A namespace is named by a URI reference. This module decides whether characters form one, by the
generic syntax: an optional scheme, an optional authority, a path, and an optional query and
fragment, each with its own characters. Everything is ASCII; other characters must be
percent-encoded. A reference with a scheme is absolute.

The parts are taken in their order from the front. Each takes the characters that it can, and what
is left is for the next, so that only what ends a part separates it from the next: between the
brackets of an address any character may stand, a slash included. At the end nothing may be left.
An address of four numbers is a name like any other.
-/

namespace XmlGraft.Xml.Uri

open Text (isDigit digitsValue)

/-- An ASCII letter. -/
def isLetter (c : Char) : Bool := ('a' ≤ c && c ≤ 'z') || ('A' ≤ c && c ≤ 'Z')

/-- A hexadecimal digit. -/
def isHexDigit (c : Char) : Bool :=
  isDigit c || ('a' ≤ c && c ≤ 'f') || ('A' ≤ c && c ≤ 'F')

/-- The characters that stand for themselves in every component. -/
def isPlain (c : Char) : Bool :=
  isLetter c || isDigit c ||
    ['-', '.', '_', '~', '!', '$', '&', '\'', '(', ')', '*', '+', ',', ';', '='].contains c

/-- What is left after all characters in front that are plain, percent-encoded, or among some extra
ones. -/
def afterComponent (extra : List Char) : List Char → List Char
  | [] => []
  | '%' :: a :: b :: rest =>
    if isHexDigit a && isHexDigit b then afterComponent extra rest else '%' :: a :: b :: rest
  | c :: rest => if isPlain c || extra.contains c then afterComponent extra rest else c :: rest

/-- What is left after a scheme and its colon. -/
def afterScheme? : List Char → Option (List Char)
  | [] => none
  | c :: rest =>
    if isLetter c then
      match rest.dropWhile fun c => isLetter c || isDigit c || c = '+' || c = '-' || c = '.' with
      | ':' :: rest => some rest
      | _ => none
    else none

/-- What is left after a host, which is an address in brackets or a name, perhaps an empty one. -/
def afterHost? : List Char → Option (List Char)
  | '[' :: rest =>
    match rest.dropWhile (· ≠ ']') with
    | [] => none
    | _ :: rest => some rest
  | cs => some (afterComponent [] cs)

/-- The first number that is too great for a port. -/
def portLimit : Nat := 0x80000000

/-- What is left after a port, if there is a colon before one. -/
def afterPort? : List Char → Option (List Char)
  | ':' :: rest =>
    let port := rest.takeWhile isDigit
    if !port.isEmpty && digitsValue port < portLimit then some (rest.dropWhile isDigit) else none
  | cs => some cs

/-- What is left after an authority: optional user information before an `@`, a host, and an
optional port. -/
def afterAuthority? (cs : List Char) : Option (List Char) :=
  let server := match afterComponent [':'] cs with
    | '@' :: server => server
    | _ => cs
  (afterHost? server).bind afterPort?

/-- What is left after segments of a path, each with a slash before it. -/
def afterSegments : List Char → List Char
  | '/' :: rest => afterComponent [':', '@', '/'] rest
  | cs => cs

/-- What is left after an authority and a path, or after a path alone, given the extra characters of
its first segment. -/
def afterHierarchy? (extra : List Char) : List Char → Option (List Char)
  | '/' :: '/' :: authority => (afterAuthority? authority).map afterSegments
  | path => some (afterSegments (afterComponent extra path))

/-- What is left after a component that a mark stands before, if the mark is there. -/
def afterMarked (mark : Char) (extra : List Char) : List Char → List Char
  | [] => []
  | c :: rest => if c = mark then afterComponent extra rest else c :: rest

/-- Whether characters are an optional query and an optional fragment. -/
def isTrailer (cs : List Char) : Bool :=
  let fragment := afterMarked '?' [':', '@', '/', '?'] cs
  (afterMarked '#' [':', '@', '/', '?', '[', ']'] fragment).isEmpty

/-- Whether characters form a URI reference with a scheme. -/
def isAbsolute (cs : List Char) : Bool :=
  ((afterScheme? cs).bind (afterHierarchy? [':', '@'])).any isTrailer

/-- Whether characters form a URI reference. Without a scheme, the first segment of a path holds no
colon. -/
def isReference (cs : List Char) : Bool :=
  isAbsolute cs || (afterHierarchy? ['@'] cs).any isTrailer

end XmlGraft.Xml.Uri
