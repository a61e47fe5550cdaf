import XmlGraft.Proofs.Document.Names
import XmlGraft.Proofs.Xml.Denoted

/-!
# Simple trees — trees whose names could be given to new nodes

A tree that stands for markup has names without a colon, except that a prefix that was never
declared becomes part of a label. If no name in it has a namespace or a colon, then each is one that
a new element or attribute can have, and what its texts hold can be set (`Element.Obeys.simple`).
-/

namespace XmlGraft.Xml

/-- A name without a namespace and without a colon. -/
def Name.Simple (name : Name) : Prop := name.uri = "" ∧ ':' ∉ name.label.toList

instance (name : Name) : Decidable name.Simple :=
  inferInstanceAs (Decidable (name.uri = "" ∧ ':' ∉ name.label.toList))

/-- A head whose names and attributes could be those of a new element. -/
structure Head.Simple (head : Head) : Prop where
  name : head.name.uri = "" ∧ isNCName head.name.label = true
  plain : ∀ a ∈ head.attributes,
    (a.name.uri = "" ∧ isNCName a.name.label = true) ∧ compatible a.value = true
  once : (head.attributes.map (·.name)).Nodup

/-- The law of trees whose elements and attributes could be made anew. -/
def simpleLaw : Law where
  head _ head := head.Simple
  text := Writable
  text_none := writable_none
  comment _ := True
  instruction _ _ := True

/-- An attribute with a new name is set behind the others. -/
theorem putAttribute_new {given : Attribute} {attributes : List Attribute}
    (absent : ∀ a ∈ attributes, a.name ≠ given.name) :
    putAttribute given attributes = attributes ++ [given] := by
  rcases putAttribute_cases given attributes with ⟨before, a, after, rfl, named, _⟩ | ⟨_, put⟩
  · exact absurd named (absent a (List.mem_append_right _ List.mem_cons_self))
  · exact put

/-- An attribute with a simple name may be set. -/
theorem Head.Simple.put {head : Head} (simple : head.Simple) {key value : String}
    (isName : isNCName key = true) (writable : compatible value = true) :
    ({ head with attributes := Xml.putAttribute ⟨.bare key, "", value⟩ head.attributes } :
      Head).Simple := by
  rcases putAttribute_cases ⟨.bare key, "", value⟩ head.attributes with
    ⟨before, a, after, spelled, named, put⟩ | ⟨absent, put⟩
  · obtain ⟨name, plain, once⟩ := simple
    rw [spelled] at plain once
    obtain ⟨atFront, rest⟩ := List.forall_mem_append.mp plain
    obtain ⟨here, atEnd⟩ := List.forall_mem_cons.mp rest
    rw [put]
    refine ⟨name, List.forall_mem_append.mpr
      ⟨atFront, List.forall_mem_cons.mpr ⟨⟨here.1, writable⟩, atEnd⟩⟩, ?_⟩
    simpa only [List.map_append, List.map_cons] using once
  · rw [put]
    refine ⟨simple.name, List.forall_mem_append.mpr
      ⟨simple.plain, List.forall_mem_singleton.mpr ⟨⟨rfl, isName⟩, writable⟩⟩, ?_⟩
    rw [List.map_append]
    refine List.nodup_append.mpr ⟨simple.once, List.nodup_singleton _, ?_⟩
    intro name member _ isKey same
    obtain ⟨a, inside, rfl⟩ := List.mem_map.mp member
    exact absent a inside (same.trans (List.mem_singleton.mp isKey))

/-- A new element with a simple name is simple. -/
theorem Head.simple_blank {name : String} (isName : isNCName name = true) :
    (Element.blank name).head.Simple :=
  ⟨⟨rfl, isName⟩, fun _ member => absurd member List.not_mem_nil, List.nodup_nil⟩

/-- Simple trees stay simple where they are edited. -/
theorem closed_simpleLaw : simpleLaw.Closed where
  text _ simple := { simple with }
  filled _ writable := writable_some writable
  put isName writable simple := simple.put isName writable
  root isName := Head.simple_blank isName
  child _ _ _ isName := Head.simple_blank isName

/-- A name of a tag without a colon is a name without a colon. -/
theorem isNCName_of_tagName {name : String} (isTag : TagName name) (noColon : ':' ∉ name.toList) :
    isNCName name = true := by
  obtain ⟨c, rest, spelled, start⟩ := isTag.start
  have noColons : ∀ d ∈ name.toList, d ≠ ':' := fun d member same => noColon (same ▸ member)
  refine Path.isNCName_eq_true_iff.mpr ⟨c, rest, spelled, ?_, fun d member => ?_⟩
  · have notColon := noColons c (spelled ▸ List.mem_cons_self)
    rwa [decide_eq_false notColon, Bool.or_false] at start
  · have inName : d ∈ name.toList := spelled ▸ List.mem_cons_of_mem c member
    have either := isTag.all d inName
    rwa [isTagChar, decide_eq_false (noColons d inName), Bool.or_false] at either

/-- A simple name that a tag or an attribute denotes is a name without a colon, and was written as
it is. -/
theorem Name.Simple.of_nameOf {declared : List Declaration}
    (effective : ∀ d ∈ declared, d.takesEffect = true) {isAttribute : Bool}
    {written nsPrefix : String} (isTag : TagName written) {name : Name}
    (denotes : nameOf declared isAttribute written = (nsPrefix, name)) (simple : name.Simple) :
    name = .bare written ∧ isNCName written = true := by
  obtain ⟨_, rfl⟩ := nameOf_bare effective denotes simple.1
  exact ⟨rfl, isNCName_of_tagName isTag simple.2⟩

/-- A head that stands for a start tag is simple if its names are. -/
theorem Head.Denoted.simple {above : List Declaration} {head : Head}
    (denoted : head.Denoted above) (simple : ∀ name ∈ head.names, name.Simple) : head.Simple := by
  obtain ⟨simpleName, simplePlain⟩ := List.forall_mem_cons.mp simple
  have attributes : ∀ a ∈ head.attributes,
      a.name = .bare a.entry.1 ∧ isNCName a.entry.1 = true := fun a member =>
    (simplePlain a.name (List.mem_map_of_mem member)).of_nameOf denoted.effective
      (denoted.entries a.entry (List.mem_append_right _ (List.mem_map_of_mem member))).1
      (denoted.plain a member).1
  refine ⟨?_, fun a member => ?_, ?_⟩
  · obtain ⟨named, isName⟩ := simpleName.of_nameOf denoted.effective denoted.tag denoted.name
    rw [named]
    exact ⟨rfl, isName⟩
  · obtain ⟨named, isName⟩ := attributes a member
    have entry := denoted.entries a.entry (List.mem_append_right _ (List.mem_map_of_mem member))
    rw [named]
    exact ⟨⟨rfl, isName⟩, entry.2⟩
  · have names : head.attributes.map (·.name) =
        (head.attributes.map fun a => a.entry.1).map Name.bare := by
      rw [List.map_map]
      exact List.map_congr_left fun a member => (attributes a member).1
    rw [names]
    exact denoted.written.map fun _ _ same => congrArg Name.label same

mutual

/-- A node that stands for markup is simple if its names are. -/
theorem Node.Obeys.simple (node : Node) {above : List Declaration}
    (obeys : node.Obeys denotedLaw above) (simple : ∀ name ∈ node.names, name.Simple) :
    node.Obeys simpleLaw above := by
  cases node with
  | element head children tail =>
    obtain ⟨⟨denoted, text, inside⟩, writable⟩ := obeys
    obtain ⟨own, others⟩ := List.forall_mem_append.mp simple
    exact ⟨⟨denoted.simple own, text, AllObey.simple children inside others⟩, writable⟩
  | comment content tail => exact ⟨trivial, obeys.2⟩
  | instruction target content tail => exact ⟨trivial, obeys.2⟩

/-- So are nodes side by side. -/
theorem AllObey.simple (nodes : List Node) {above : List Declaration}
    (obey : AllObey denotedLaw above nodes) (simple : ∀ name ∈ namesAll nodes, name.Simple) :
    AllObey simpleLaw above nodes := by
  cases nodes with
  | nil => trivial
  | cons node rest =>
    obtain ⟨first, others⟩ := List.forall_mem_append.mp simple
    exact ⟨Node.Obeys.simple node obey.1 first, AllObey.simple rest obey.2 others⟩

end

/-- An element that stands for markup is simple if its names are. -/
theorem Element.Obeys.simple {e : Element} {above : List Declaration}
    (obeys : e.Obeys denotedLaw above) (simple : ∀ name ∈ e.names, name.Simple) :
    e.Obeys simpleLaw above :=
  obeys_node.mp (Node.Obeys.simple e.node (obeys_node.mpr obeys) simple)

end XmlGraft.Xml
