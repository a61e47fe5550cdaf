import XmlGraft.Xml.Remark

/-!
# Start tags — from what is written to what it denotes

A start tag holds a name and attributes, some of which declare namespaces. Here the names are
resolved: a prefix stands for the namespace that it is declared for, on the tag itself or around it.
A prefix that is not declared is no prefix: it stays a part of the label, and the name has no
namespace. A name that is not a qualified name is likewise all label.

What is wrong with names and declarations is remarked on, in the order of the tag: its name, its
attributes one by one, and then whatever shows only when all are known. A tag with two attributes
written alike, or two declarations of one prefix that both take effect, is refused.
-/

namespace XmlGraft.Xml

/-- The namespace that a prefix is declared for; the empty prefix always has one, which may be none.
-/
def namespaceOf? (declared : List Declaration) (nsPrefix : String) : Option String :=
  if nsPrefix = "xml" then some xmlNamespace
  else
    match declared.find? fun d => d.nsPrefix == nsPrefix with
    | some d => some d.uri
    | none => if nsPrefix = "" then some "" else none

/-- The declaration that an attribute makes, if it makes one. -/
def declaration? (entry : String × String) : Option Declaration :=
  if entry.1 = "xmlns" then some ⟨"", entry.2⟩
  else
    match splitQualified entry.1.toList with
    | some (nsPrefix, label) =>
      if nsPrefix = "xmlns".toList then some ⟨String.ofList label, entry.2⟩ else none
    | none => none

/-- The prefix of a written name and the name that it denotes, if its prefix is declared. An
attribute without a prefix is not in the default namespace. -/
def nameOf? (declared : List Declaration) (isAttribute : Bool) (written : String) :
    Option (String × Name) :=
  match splitQualified written.toList with
  | some (c :: nsPrefix, label) =>
    let nsPrefix := String.ofList (c :: nsPrefix)
    (namespaceOf? declared nsPrefix).map fun uri => (nsPrefix, ⟨uri, String.ofList label⟩)
  | _ =>
    if isAttribute then some ("", .bare written)
    else (namespaceOf? declared "").map fun uri => ("", ⟨uri, written⟩)

/-- The prefix of a written name and the name that it denotes: all label if its prefix is not
declared. -/
def nameOf (declared : List Declaration) (isAttribute : Bool) (written : String) : String × Name :=
  (nameOf? declared isAttribute written).getD ("", .bare written)

/-- Whether no two members of a list are equal. -/
def allDifferent {α : Type _} [BEq α] : List α → Bool
  | [] => true
  | x :: rest => !rest.contains x && allDifferent rest

/-- The remarks on an attribute by itself, in order. -/
def remarksOnEntry (entry : String × String) : List Remark :=
  (remarkOnName? entry.1).toList ++ (remarkOnValue? entry).toList ++
    ((declaration? entry).bind Declaration.remark?).toList

/-- The head that a start tag denotes among some declarations, and the remarks on the tag. -/
def Head.ofTag (above : List Declaration) (tag : String) (entries : List (String × String)) :
    Option (Head × List Remark) :=
  let declarations := (entries.filterMap declaration?).filter Declaration.takesEffect
  let declared := declarations ++ above
  let plain := entries.filter fun entry => (declaration? entry).isNone
  let attributes := plain.map fun (written, value) =>
    let (nsPrefix, name) := nameOf declared true written
    (⟨name, nsPrefix, value⟩ : Attribute)
  let (nsPrefix, name) := nameOf declared false tag
  let allResolved := (nameOf? declared false tag).isSome &&
    plain.all fun (written, _) => (nameOf? declared true written).isSome
  if allDifferent (declarations.map (·.nsPrefix)) && allDifferent (plain.map (·.1)) then
    some (⟨name, nsPrefix, declarations, attributes, none⟩,
      (remarkOnName? tag).toList ++ entries.flatMap remarksOnEntry ++
        if allResolved && allDifferent (attributes.map (·.name)) then [] else [.objection])
  else none

/-- The text that identifies an element. -/
def Head.identifier? (head : Head) : Option String :=
  (head.attributes.find? fun a => a.name == ⟨xmlNamespace, "id"⟩).map (·.value)

end XmlGraft.Xml
