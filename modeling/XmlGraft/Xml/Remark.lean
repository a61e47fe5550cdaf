import XmlGraft.Xml.Scanner
import XmlGraft.Xml.Scope

/-!
# Remarks — what is noticed about a document that is well-formed

A well-formed document can still break a rule of namespaces or of identifiers. That is an
*objection*. Some other things are allowed but not advisable, and call for a *caution*: a default
namespace with a relative name, an unknown value of `xml:space`, an instruction whose name begins
like a reserved one.

Remarks are made in the order of reading, and the last one decides whether the document stands: it
is refused if that is an objection. A caution that comes later thus outweighs every objection before
it. However many remarks there are, each is made; a parser that stops after some number of them may
judge a document with more of them otherwise. -/

namespace XmlGraft.Xml

/-- Something to say about a well-formed document. -/
inductive Remark
  | caution
  | objection
deriving DecidableEq, Repr

/-- Whether a document stands, given the last remark about it. -/
def stands (last : Option Remark) : Bool := last ≠ some .objection

/-- The prefix and the label of a qualified name, whose prefix is empty where it has no colon.
Characters that are not a qualified name have none. -/
def splitQualified (name : List Char) : Option (List Char × List Char) :=
  match name.dropWhile (· ≠ ':') with
  | [] => if Text.isNCName name then some ([], name) else none
  | _ :: label =>
    let nsPrefix := name.takeWhile (· ≠ ':')
    if Text.isNCName nsPrefix && Text.isNCName label then some (nsPrefix, label) else none

/-- The remark on the name of an element or attribute as it is written: it should be a qualified
name. -/
def remarkOnName? (written : String) : Option Remark :=
  if (splitQualified written.toList).isSome then none else some .objection

/-- Names of instructions that begin like reserved ones and are in common use. -/
def customaryTargets : List String := ["xml-stylesheet", "xml-model"]

/-- The remark on the name of an instruction: it should hold no colon, and should not begin with
`xml`. -/
def remarkOnTarget? (target : String) : Option Remark :=
  if target.toList.contains ':' then some .objection
  else if isReservedTarget (target.toList.take 3) && !customaryTargets.contains target then
    some .caution
  else none

/-- The namespace that names of declarations belong to, which no declaration may bind. -/
def declarationNamespace : String := web "www.w3.org/2000/xmlns/"

/-- Whether a declaration binds its prefix. The prefixes `xml` and `xmlns` and their namespaces are
taken, and only the default namespace can be bound to nothing. -/
def Declaration.takesEffect (d : Declaration) : Bool :=
  d.nsPrefix ≠ "xml" && d.nsPrefix ≠ "xmlns" && d.uri ≠ xmlNamespace &&
    d.uri ≠ declarationNamespace && (d.uri ≠ "" || d.nsPrefix = "")

/-- The remark on a declaration. To declare `xml` as what it is has no effect and calls for none.
The name of a namespace should be a URI reference, and that of a default namespace an absolute one.
-/
def Declaration.remark? (d : Declaration) : Option Remark :=
  if d.nsPrefix = "xml" && d.uri = xmlNamespace then none
  else if !d.takesEffect then some .objection
  else if d.uri = "" then none
  else if !Uri.isReference d.uri.toList then some .objection
  else if d.nsPrefix = "" && !Uri.isAbsolute d.uri.toList then some .caution
  else none

/-- The remark on an attribute: `xml:space` has two values. -/
def remarkOnValue? (entry : String × String) : Option Remark :=
  if entry.1 = "xml:space" && entry.2 ≠ "default" && entry.2 ≠ "preserve" then some .caution
  else none

/-- Whether a text can identify an element: a name without a colon, with or without blanks around
it. -/
def isIdentifier (value : String) : Bool :=
  let cs := dropBlanks value.toList
  Text.isNCName (cs.takeWhile Text.isNameChar) && (cs.dropWhile Text.isNameChar).all Text.isBlank

/-- The remark on an identifier, given those before it: each should stand once. -/
def remarkOnIdentifier? (earlier : List String) (value : String) : Option Remark :=
  if isIdentifier value && !earlier.contains value then none else some .objection

end XmlGraft.Xml
