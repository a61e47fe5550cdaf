import XmlGraft.Xml.Tree

/-!
# Scopes — which prefixes stand for a namespace at some place

What surrounds a place is its scope: one frame for each element around it, the innermost first. A
frame holds the bindings that its element makes: the namespaces that it declares, and the one that
its own name is written with, which need not be among them.

A prefix for a namespace is searched for from the innermost element upwards, and at each element
among its declarations before its own name. The own name of the element where the search begins does
not count. There are two ways to judge whether a binding that is found is in force.

* It is *visible* if no element below the one that makes it declares the same prefix
  (`Scope.visible`). This serves a namespace that is declared anew inside its own scope.
* It is *met first* if the search for its prefix, by the same order, ends at it (`Scope.binding?`).
  This serves the name of an attribute.
-/

namespace XmlGraft.Xml

/-- The URI of a resource on the web, which many namespaces are named after. -/
def web (place : String) : String := "http:" ++ "//" ++ place

/-- The namespace that the prefix `xml` is bound to without a declaration. -/
def xmlNamespace : String := web "www.w3.org/XML/1998/namespace"

/-- The bindings that an element makes for what is inside it. -/
structure Frame where
  declarations : List Declaration
  own : Option Declaration
deriving DecidableEq, Repr

/-- All bindings of a frame, in the order of the search. -/
def Frame.bindings (f : Frame) : List Declaration := f.declarations ++ f.own.toList

/-- The binding that the name of an element is written with; none for a name without namespace. -/
def Head.own (head : Head) : Option Declaration :=
  if head.name.uri = "" then none else some ⟨head.nsPrefix, head.name.uri⟩

/-- The bindings that an element makes. -/
def Head.frame (head : Head) : Frame := ⟨head.declarations, head.own⟩

/-- The frames of the elements around a place, the innermost first. -/
abbrev Scope := List Frame

namespace Scope

/-- The bindings that a search meets, in its order. -/
def bindings : Scope → List Declaration
  | [] => []
  | start :: above => start.declarations ++ above.flatMap Frame.bindings

/-- The binding of a prefix that a search meets first. -/
def binding? (nsPrefix : String) (scope : Scope) : Option Declaration :=
  scope.bindings.find? fun d => d.nsPrefix == nsPrefix

/-- The bindings of some elements that are left visible below, where some prefixes are declared. -/
def visibleBelow : (declared : List String) → Scope → List Declaration
  | _, [] => []
  | declared, frame :: above =>
    frame.bindings.filter (fun d => !declared.contains d.nsPrefix) ++
      visibleBelow (frame.declarations.map (·.nsPrefix) ++ declared) above

/-- The bindings that no nearer declaration hides, in the order of the search. -/
def visible : Scope → List Declaration
  | [] => []
  | start :: above =>
    start.declarations ++ visibleBelow (start.declarations.map (·.nsPrefix)) above

/-- The prefix for the name of an element in a namespace, if one is in force. The empty prefix is
that of the default namespace. -/
def prefixForElement? (uri : String) (scope : Scope) : Option String :=
  if uri = xmlNamespace then some "xml"
  else (scope.visible.find? fun d => d.uri == uri).map (·.nsPrefix)

/-- The prefix for the name of an attribute in a namespace, if one is in force. The default
namespace does not serve attributes. -/
def prefixForAttribute? (uri : String) (scope : Scope) : Option String :=
  if uri = xmlNamespace then some "xml"
  else
    (scope.bindings.find? fun d =>
      d.uri == uri && d.nsPrefix ≠ "" && scope.binding? d.nsPrefix == some d).map (·.nsPrefix)

/-- Whether a prefix is bound in a scope. -/
def binds (nsPrefix : String) (scope : Scope) : Bool := (scope.binding? nsPrefix).isSome

/-- The prefix that is made up for a namespace after some others: `ns` and the first number from
theirs on that is not taken. One more candidate than there are bindings is enough. It comes with the
count of prefixes made up by then, the candidates passed over included. -/
def freshPrefix (made : Nat) (scope : Scope) : String × Nat :=
  let number := ((List.range' made (scope.bindings.length + 1)).find?
    fun n => !scope.binds ("ns" ++ toString n)).getD made
  ("ns" ++ toString number, number + 1)

/-- The preferred prefix if a scope leaves it free, and else one that is made up, with the count of
those. -/
def prefixOr (preferred : Option String) (made : Nat) (scope : Scope) : String × Nat :=
  match preferred with
  | some p => if scope.binds p then scope.freshPrefix made else (p, made)
  | none => scope.freshPrefix made

end Scope

/-- The customary prefixes of well-known namespaces. -/
def customaryPrefixes : List (String × String) := [
  (web "www.w3.org/1999/xhtml", "html"),
  (web "www.w3.org/1999/XSL/Transform", "xsl"),
  (web "www.w3.org/1999/02/22-rdf-syntax-ns#", "rdf"),
  (web "schemas.xmlsoap.org/wsdl/", "wsdl"),
  (web "www.w3.org/2001/XMLSchema", "xs"),
  (web "www.w3.org/2001/XMLSchema-instance", "xsi"),
  (web "purl.org/dc/elements/1.1/", "dc")]

/-- The prefix that a new declaration of a namespace takes: the customary one, or else the first of
`ns0`, `ns1`, `ns2`, … that is not taken. -/
def Scope.newPrefix (scope : Scope) (uri : String) : String :=
  (scope.prefixOr ((customaryPrefixes.find? fun entry => entry.1 == uri).map (·.2)) 0).1

end XmlGraft.Xml
