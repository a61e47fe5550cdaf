import XmlGraft.Fault
import XmlGraft.Text.NameChar
import XmlGraft.Xml.Uri

/-!
# Names — what elements and attributes are called

A name is a namespace and a label; the namespace is empty for a name without one. As one text a
name is its label, or the namespace in braces and the label.

A text is turned into a name in two steps with faults of their own. `Name.ofText` only takes the
text apart; the element or attribute that gets the name also asks that the label is a name without a
colon, and an element that its namespace is a URI reference. -/

namespace XmlGraft.Xml

/-- The name of an element or attribute. -/
structure Name where
  uri : String
  label : String
deriving DecidableEq, Repr, Inhabited

/-- A name as one text. -/
def Name.text (n : Name) : String :=
  if n.uri = "" then n.label else "\x7b" ++ n.uri ++ "\x7d" ++ n.label

/-- A name without a namespace. -/
def Name.bare (label : String) : Name := ⟨"", label⟩

/-- The characters that texts and names may hold: no control character but tab, line feed and
carriage return, and neither of the two last code points of the basic plane. -/
def isTextChar (c : Char) : Bool :=
  (0x20 ≤ c.toNat || c = '\t' || c = '\n' || c = '\r') && c.toNat ≠ 0xFFFE && c.toNat ≠ 0xFFFF

/-- Whether a text can stand in markup. -/
def compatible (s : String) : Bool := s.toList.all isTextChar

/-- Refuses a text that cannot stand in markup. -/
def checkText (s : String) : Except Fault Unit :=
  if compatible s then .ok () else .error .forbiddenText

/-- Takes a text apart into namespace and label. -/
def Name.ofText (s : String) : Except Fault Name :=
  if compatible s then
    match s.toList with
    | [] => .error .emptyName
    | '\x7b' :: rest =>
      match rest.dropWhile (· ≠ '\x7d') with
      | [] => .error .unclosedNamespace
      | [_] => .error .emptyName
      | _ :: label => .ok ⟨String.ofList (rest.takeWhile (· ≠ '\x7d')), String.ofList label⟩
    | _ => .ok (.bare s)
  else .error .forbiddenText

/-- Whether a text is a name without a colon. -/
def isNCName (s : String) : Bool := Text.isNCName s.toList

/-- The name of a new element. -/
def elementName (s : String) : Except Fault Name := do
  let name ← Name.ofText s
  if !isNCName name.label then .error (.badElementName name.label)
  else if name.uri ≠ "" && !Uri.isReference name.uri.toList then .error (.badNamespace name.uri)
  else .ok name

/-- The name of an attribute to be set. -/
def attributeName (s : String) : Except Fault Name := do
  let name ← Name.ofText s
  if !isNCName name.label then .error (.badAttributeName name.label) else .ok name

/-- What the children of an element are looked up by: a namespace and a label, either of which may
be left open. -/
structure NamePattern where
  uri : Option String
  label : Option String
deriving DecidableEq, Repr

/-- Whether a name fits a pattern. -/
def NamePattern.fits (p : NamePattern) (n : Name) : Bool :=
  (p.uri.all fun uri => uri == n.uri) && p.label.all fun label => label == n.label

/-- The pattern that fits every name. -/
def NamePattern.any : NamePattern := ⟨none, none⟩

/-- The pattern that a text stands for. A star leaves the label open, and in braces the namespace; a
star alone leaves both open. A label alone asks for a name without a namespace. -/
def NamePattern.ofText (s : String) : Except Fault NamePattern :=
  if s = "*" then .ok .any
  else do
    let name ← Name.ofText s
    return ⟨if name.uri = "*" then none else some name.uri,
      if name.label = "*" then none else some name.label⟩

end XmlGraft.Xml
