import Mathlib.Data.List.Nodup
import XmlGraft.Proofs.Xml.Law
import XmlGraft.Proofs.Xml.StartTag

/-!
# Denoted trees — the law of what markup denotes

The heads of a tree that was read stand for start tags, and its comments and instructions hold
nothing that would end them. Trees go on to be like that where they are edited (`denotedLaw`): what
a new name without a namespace denotes is itself, since inside an element whose name has no
namespace no default namespace is in force.

There is one exception. An edit may set an attribute called `xmlns`, and no tag denotes one. So the
law of what was read (`readLaw`) asks for more, and an edited tree obeys it if it lacks such
attributes (`Node.Obeys.read`).
-/

namespace XmlGraft.Xml

/-- The law of trees that markup denotes, but for attributes called `xmlns`. -/
def denotedLaw : Law where
  head above head := head.Denoted above
  text := Writable
  text_none := writable_none
  comment := IsComment
  instruction := IsInstruction

/-- The law of trees that markup denotes. -/
def readLaw : Law where
  head above head := head.Denoted above ∧ head.Lacks (.bare "xmlns")
  text := Writable
  text_none := writable_none
  comment := IsComment
  instruction := IsInstruction

mutual

/-- No attribute in a node has some name. -/
def Node.Lacks (name : Name) : Node → Prop
  | .element head children _ => head.Lacks name ∧ AllLack name children
  | .comment _ _ | .instruction _ _ _ => True

/-- No attribute in some nodes has some name. -/
def AllLack (name : Name) : List Node → Prop
  | [] => True
  | node :: rest => node.Lacks name ∧ AllLack name rest

end

/-- No attribute in an element has some name. -/
def Element.Lacks (name : Name) (e : Element) : Prop := e.head.Lacks name ∧ AllLack name e.children

/-- Setting an attribute gives another value to one that there is, or appends it. -/
theorem putAttribute_cases (given : Attribute) (attributes : List Attribute) :
    (∃ before a after, attributes = before ++ a :: after ∧ a.name = given.name ∧
        putAttribute given attributes = before ++ { a with value := given.value } :: after) ∨
      (∀ a ∈ attributes, a.name ≠ given.name) ∧
        putAttribute given attributes = attributes ++ [given] := by
  induction attributes with
  | nil => exact .inr ⟨fun _ member => absurd member List.not_mem_nil, rfl⟩
  | cons a rest ih =>
    rw [putAttribute]
    by_cases same : a.name = given.name
    · rw [if_pos same]
      exact .inl ⟨[], a, rest, rfl, same, rfl⟩
    · rw [if_neg same]
      rcases ih with ⟨before, b, after, rfl, named, put⟩ | ⟨absent, put⟩
      · exact .inl ⟨a :: before, b, after, rfl, named, by rw [put]; rfl⟩
      · exact .inr ⟨List.forall_mem_cons.mpr ⟨same, absent⟩, by rw [put]; rfl⟩

namespace Head

variable {above : List Declaration} {head : Head}

/-- A new element without a namespace stands for a start tag where no default namespace is in
force. -/
theorem denoted_blank (around : ∀ d ∈ above, d.takesEffect = true)
    (noDefault : namespaceOf? above "" = some "") {name : String} (isName : isNCName name = true) :
    (Element.blank name).head.Denoted above where
  around := around
  tag := tagName_of_isNCName isName
  name := nameOf_element isName noDefault
  declared _ member := absurd member List.not_mem_nil
  prefixes := List.nodup_nil
  entries _ member := absurd member List.not_mem_nil
  plain _ member := absurd member List.not_mem_nil
  written := List.nodup_nil

/-- Inside an element without a namespace, no default namespace is in force. -/
theorem Denoted.noDefault (denoted : head.Denoted above) {name : String}
    (named : head.name = .bare name) (isName : isNCName name = true) :
    namespaceOf? (head.declarations ++ above) "" = some "" := by
  obtain ⟨noPrefix, spelled⟩ := nameOf_bare denoted.effective denoted.name (named ▸ rfl)
  have tag : head.tag = name := by
    rw [Head.tag, noPrefix, named]
    rfl
  have name := denoted.name
  rw [tag, named] at name
  exact noDefault_of_nameOf isName name

/-- An attribute may have another value. -/
theorem Denoted.revalued (denoted : head.Denoted above) {before after : List Attribute}
    {a : Attribute} (spelled : head.attributes = before ++ a :: after) {value : String}
    (writable : compatible value = true) :
    ({ head with attributes := before ++ { a with value := value } :: after } :
      Head).Denoted above := by
  -- only a value changes, and no condition but one depends on values
  have same : (before ++ { a with value := value } :: after).map (fun a => a.entry.1) =
      head.attributes.map fun a => a.entry.1 := by
    rw [spelled, List.map_append, List.map_append]
    rfl
  have isOld : a ∈ head.attributes := by
    rw [spelled]
    exact List.mem_append_right _ List.mem_cons_self
  have isOther : ∀ b ∈ before ++ { a with value := value } :: after,
      b ∈ head.attributes ∨ b = { a with value := value } := by
    rw [spelled]
    simp only [List.mem_append, List.mem_cons]
    rintro b (member | rfl | member)
    · exact .inl (.inl member)
    · exact .inr rfl
    · exact .inl (.inr (.inr member))
  refine ⟨denoted.around, denoted.tag, denoted.name, denoted.declared, denoted.prefixes, ?_, ?_,
    same ▸ denoted.written⟩
  · intro entry member
    rcases List.mem_append.mp member with member | member
    · exact denoted.entries entry (List.mem_append_left _ member)
    · obtain ⟨b, inside, rfl⟩ := List.mem_map.mp member
      rcases isOther b inside with old | rfl
      · exact denoted.entries _ (List.mem_append_right _ (List.mem_map_of_mem old))
      · exact ⟨(denoted.entries _ (List.mem_append_right _ (List.mem_map_of_mem isOld))).1,
          writable⟩
  · intro b inside
    rcases isOther b inside with old | rfl
    · exact denoted.plain b old
    · obtain ⟨denotes, notDeclaration⟩ := denoted.plain a isOld
      refine ⟨denotes, fun other => ?_⟩
      have either := isSome_declaration? a.entry.1 value a.value
      rw [show (a.entry.1, a.value) = a.entry from rfl, notDeclaration other] at either
      exact Option.isNone_iff_eq_none.mp (Option.isSome_eq_false_iff.mp either)

/-- A new attribute may stand behind the others. -/
theorem Denoted.extended (denoted : head.Denoted above) {key value : String}
    (isName : isNCName key = true) (writable : compatible value = true)
    (absent : ∀ a ∈ head.attributes, a.name ≠ .bare key) :
    ({ head with attributes := head.attributes ++ [⟨.bare key, "", value⟩] } :
      Head).Denoted above := by
  have denotes := nameOf_attribute isName
  refine ⟨denoted.around, denoted.tag, denoted.name, denoted.declared, denoted.prefixes, ?_, ?_,
    ?_⟩
  · rw [Head.entries, List.map_append, ← List.append_assoc]
    exact List.forall_mem_append.mpr ⟨denoted.entries,
      List.forall_mem_singleton.mpr ⟨tagName_of_isNCName isName, writable⟩⟩
  · refine List.forall_mem_append.mpr ⟨denoted.plain, List.forall_mem_singleton.mpr ⟨?_, ?_⟩⟩
    · exact denotes _
    · exact fun other => declaration?_eq_none isName (fun same => other (same ▸ rfl)) value
  · rw [List.map_append]
    refine List.nodup_append.mpr ⟨denoted.written, List.nodup_singleton _, ?_⟩
    intro written member _ isKey same
    rw [List.mem_map] at member
    obtain ⟨a, inside, rfl⟩ := member
    have isKey : a.entry.1 = key := same.trans (List.mem_singleton.mp isKey)
    have denotesToo := (denoted.plain a inside).1
    rw [isKey, denotes] at denotesToo
    exact absent a inside (congrArg Prod.snd denotesToo).symm

/-- An attribute may be set that has no namespace. -/
theorem Denoted.put (denoted : head.Denoted above) {key value : String}
    (isName : isNCName key = true) (writable : compatible value = true) :
    ({ head with attributes := Xml.putAttribute ⟨.bare key, "", value⟩ head.attributes } :
      Head).Denoted above := by
  rcases Xml.putAttribute_cases ⟨.bare key, "", value⟩ head.attributes with
    ⟨before, a, after, spelled, _, put⟩ | ⟨absent, put⟩
  · rw [put]
    exact denoted.revalued spelled writable
  · rw [put]
    exact denoted.extended isName writable absent

end Head

/-- Trees that markup denotes go on to do so where they are edited. -/
theorem closed_denotedLaw : denotedLaw.Closed where
  text _ denoted := { denoted with }
  filled _ writable := writable_some writable
  put isName writable denoted := denoted.put isName writable
  root isName :=
    Head.denoted_blank (fun _ member => absurd member List.not_mem_nil) rfl isName
  child denoted named isParent isName :=
    Head.denoted_blank denoted.effective (denoted.noDefault named isParent) isName

mutual

/-- What stands for markup, and lacks attributes called `xmlns`, obeys the law of what was read. -/
theorem Node.Obeys.read (node : Node) (lacks : node.Lacks (.bare "xmlns"))
    {above : List Declaration} (obeys : node.Obeys denotedLaw above) :
    node.Obeys readLaw above := by
  cases node with
  | element head children tail =>
    obtain ⟨⟨denoted, text, inside⟩, writable⟩ := obeys
    exact ⟨⟨⟨denoted, lacks.1⟩, text, AllObey.read children lacks.2 inside⟩, writable⟩
  | comment content tail => exact obeys
  | instruction target content tail => exact obeys

/-- So do nodes side by side. -/
theorem AllObey.read (nodes : List Node) (lack : AllLack (.bare "xmlns") nodes)
    {above : List Declaration} (obey : AllObey denotedLaw above nodes) :
    AllObey readLaw above nodes := by
  cases nodes with
  | nil => trivial
  | cons node rest => exact ⟨Node.Obeys.read node lack.1 obey.1, AllObey.read rest lack.2 obey.2⟩

end

mutual

/-- What was read lacks attributes called `xmlns`. -/
theorem Node.Obeys.lacks (node : Node) {above : List Declaration}
    (obeys : node.Obeys readLaw above) : node.Lacks (.bare "xmlns") := by
  cases node with
  | element head children tail => exact ⟨obeys.1.1.2, AllObey.lack children obeys.1.2.2⟩
  | comment content tail => trivial
  | instruction target content tail => trivial

/-- So do nodes side by side. -/
theorem AllObey.lack (nodes : List Node) {above : List Declaration}
    (obey : AllObey readLaw above nodes) : AllLack (.bare "xmlns") nodes := by
  cases nodes with
  | nil => trivial
  | cons node rest => exact ⟨Node.Obeys.lacks node obey.1, AllObey.lack rest obey.2⟩

end

namespace Element

variable {e : Element} {above : List Declaration}

/-- What was read lacks attributes called `xmlns`. -/
theorem Obeys.lacks (obeys : e.Obeys readLaw above) : e.Lacks (.bare "xmlns") :=
  Node.Obeys.lacks e.node (obeys_node.mpr obeys)

/-- An element that lacks attributes called `xmlns` obeys the law of what was read. -/
theorem Obeys.read (lacks : e.Lacks (.bare "xmlns")) (obeys : e.Obeys denotedLaw above) :
    e.Obeys readLaw above :=
  obeys_node.mp (Node.Obeys.read e.node lacks (obeys_node.mpr obeys))

/-- What was read stands for markup. -/
theorem Obeys.denoted (obeys : e.Obeys readLaw above) : e.Obeys denotedLaw above := by
  refine obeys_node.mp (Node.Obeys.imp e.node ?_ ?_ ?_ ?_ (obeys_node.mpr obeys))
  · exact fun _ _ obeys => obeys.1
  · exact fun _ writable => writable
  · exact fun _ comment => comment
  · exact fun _ _ instruction => instruction

end Element

end XmlGraft.Xml
