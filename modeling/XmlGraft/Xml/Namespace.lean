import XmlGraft.Xml.Scope

/-!
# Namespaces — which prefix a name is written with

A name is written with a prefix that is in force for its namespace. A new element declares what it
needs: its own namespace first, then those of its attributes, under the customary prefix of a
well-known namespace or else the first unused of `ns0`, `ns1`, `ns2`, ….

When an element is appended, `Element.settle` drops each declaration of the moved tree for whose
namespace a binding is visible from above, and its names take over the prefix found there, even
where nearer declarations have given that prefix another meaning for their readers. An attribute
never comes under the default namespace, since an attribute without a prefix has no namespace; it
gets a prefix of its own instead. Prefixes that are made up for this are counted, so that a document
does not make one up twice.

A tree without namespaces settles as it is.
-/

namespace XmlGraft.Xml

/-- The head of a new element inside a scope: empty but for its name, and for the declaration of its
namespace where the scope has none. -/
def Head.new (scope : Scope) (name : Name) : Head :=
  if name.uri = "" then ⟨name, "", [], [], none⟩
  else
    let scope : Scope := ⟨[], none⟩ :: scope
    match scope.prefixForElement? name.uri with
    | some p => ⟨name, p, [], [], none⟩
    | none =>
      let p := scope.newPrefix name.uri
      ⟨name, p, [⟨p, name.uri⟩], [], none⟩

/-- The list of attributes after one is set: in its place if its name is there already, and else
last. -/
def putAttribute (given : Attribute) : List Attribute → List Attribute
  | [] => [given]
  | a :: rest =>
    if a.name = given.name then { a with value := given.value } :: rest
    else a :: putAttribute given rest

/-- The head after an attribute is set, in a scope that begins above the element. -/
def Head.putAttribute (above : Scope) (name : Name) (value : String) (head : Head) : Head :=
  if name.uri = "" then
    { head with attributes := Xml.putAttribute ⟨name, "", value⟩ head.attributes }
  else
    let scope : Scope := head.frame :: above
    match scope.prefixForAttribute? name.uri with
    | some p => { head with attributes := Xml.putAttribute ⟨name, p, value⟩ head.attributes }
    | none =>
      let p := scope.newPrefix name.uri
      { head with
        declarations := head.declarations ++ [⟨p, name.uri⟩],
        attributes := Xml.putAttribute ⟨name, p, value⟩ head.attributes }

/-- What became of the declarations of a moved tree: each with the prefix that replaces its own. -/
abbrev Moves := List (Declaration × String)

/-- The prefix that replaces the one of a declaration, if the declaration was moved or kept. -/
def Moves.find? (moves : Moves) (d : Declaration) : Option String :=
  (List.find? (fun (move : Declaration × String) => move.1 == d) moves).map (·.2)

/-- The prefix that a scope has for the namespace of a declaration, which makes the declaration
superfluous there. -/
def Declaration.replacement? (scope : Scope) (d : Declaration) : Option String :=
  (scope.visible.find? fun other => other.uri == d.uri).map (·.nsPrefix)

/-- The declarations of a head in new surroundings: each with the prefix that the scope has for its
namespace, or its own where it is kept. -/
def Head.moves (scope : Scope) (head : Head) : Moves :=
  head.declarations.map fun d => (d, (d.replacement? scope).getD d.nsPrefix)

/-- The declarations of a head that new surroundings do not make superfluous. -/
def Head.kept (scope : Scope) (head : Head) : List Declaration :=
  head.declarations.filter fun d => (d.replacement? scope).isNone

/-- An attribute in new surroundings, with the declaration that it needs there if its own became the
default namespace. The scope begins at its element. -/
def Attribute.settle (scope : Scope) (moves : Moves) (made : Nat) (a : Attribute) :
    Attribute × List Declaration × Nat :=
  if a.name.uri = "" then (a, [], made)
  else
    match moves.find? ⟨a.nsPrefix, a.name.uri⟩ with
    | none => (a, [], made)
    | some "" =>
      match scope.prefixForAttribute? a.name.uri with
      | some p => ({ a with nsPrefix := p }, [], made)
      | none =>
        let (p, made) := scope.prefixOr (some a.nsPrefix) made
        ({ a with nsPrefix := p }, [⟨p, a.name.uri⟩], made)
    | some p => ({ a with nsPrefix := p }, [], made)

/-- The attributes of an element in new surroundings, in order, after those declarations of the
element that are kept or added by then; with the declarations that they add. -/
def settleAttributes (above : Scope) (moves : Moves) (declared : List Declaration) (made : Nat) :
    List Attribute → List Attribute × List Declaration × Nat
  | [] => ([], [], made)
  | a :: rest =>
    let (first, added, made) := a.settle (⟨declared, none⟩ :: above) moves made
    let (others, more, made) := settleAttributes above moves (declared ++ added) made rest
    (first :: others, added ++ more, made)

/-- A head in new surroundings, where `moves` says what became of the declarations above it in the
moved tree and of its own. -/
def Head.settle (scope : Scope) (moves : Moves) (made : Nat) (head : Head) : Head × Nat :=
  let kept := head.kept scope
  let (attributes, added, made) := settleAttributes scope moves kept made head.attributes
  ({ head with
      nsPrefix :=
        if head.name.uri = "" then head.nsPrefix
        else (moves.find? ⟨head.nsPrefix, head.name.uri⟩).getD head.nsPrefix
      declarations := kept ++ added
      attributes := attributes }, made)

mutual

/-- A node moved to a place with a given scope, and the count of prefixes made up by then. -/
def Node.settle (scope : Scope) (moves : Moves) (made : Nat) : Node → Node × Nat
  | .element head children tail =>
    let moves := head.moves scope ++ moves
    let (head, made) := head.settle scope moves made
    let (children, made) := settleAll (head.frame :: scope) moves made children
    (.element head children tail, made)
  | node => (node, made)

/-- Nodes side by side, moved together. -/
def settleAll (scope : Scope) (moves : Moves) (made : Nat) : List Node → List Node × Nat
  | [] => ([], made)
  | node :: rest =>
    let (first, made) := node.settle scope moves made
    let (others, made) := settleAll scope moves made rest
    (first :: others, made)

end

/-- An element moved to a place with a given scope, where some prefixes have been made up; with the
count of those after it. -/
def Element.settle (scope : Scope) (made : Nat) (e : Element) : Element × Nat :=
  let moves := e.head.moves scope
  let (head, made) := e.head.settle scope moves made
  let (children, made) := settleAll (head.frame :: scope) moves made e.children
  (⟨head, children⟩, made)

/-- An element that has no surroundings yet, with another appended to its children. -/
def Element.append (e child : Element) : Element :=
  ⟨e.head, e.children ++ [(child.settle [e.head.frame] 0).1.node]⟩

/-- A new element, which has no surroundings yet. -/
def Element.new (name : String) : Except Fault Element := do
  let name ← elementName name
  return ⟨Head.new [] name, []⟩

/-- Sets an attribute of an element. The name is judged before the value. -/
def Element.setAttribute (above : Scope) (key value : String) (e : Element) :
    Except Fault Element := do
  let name ← attributeName key
  checkText value
  return { e with head := e.head.putAttribute above name value }

end XmlGraft.Xml
