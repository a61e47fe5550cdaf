import XmlGraft.Proofs.Data.Tidy
import XmlGraft.Proofs.Document.Building
import XmlGraft.Proofs.Document.Reading
import XmlGraft.Proofs.Xml.Name

/-!
# Reading back — a document built from a value is read as its normal form

Setting attributes one by one leaves what giving their pairs in order does
(`setAttributes_keys`), children are read in the order in which they were appended, and elements
that were built are read as normal forms, by induction over the value (`value_ofValue`). So a
document is read as the normal form of the value that it was built from, and plain data that is
tidy comes back as it was (`toValue_ofValue`).
-/

namespace XmlGraft

open Xml Data

namespace Data

mutual

/-- No key anywhere in a structured value gives an empty namespace in braces. -/
def Value.Spelled : Value → Prop
  | .mapping entries => SpelledEntries entries
  | .sequence items => SpelledItems items
  | _ => True

/-- No key of some entries, or in them, gives an empty namespace in braces. -/
def SpelledEntries : List (String × Value) → Prop
  | [] => True
  | (key, value) :: rest =>
    ¬hasEmptyNamespace (entryName key) = true ∧ value.Spelled ∧ SpelledEntries rest

/-- No key in some items gives an empty namespace in braces. -/
def SpelledItems : List Value → Prop
  | [] => True
  | item :: rest => item.Spelled ∧ SpelledItems rest

end

/-- No attribute entry gives an empty namespace in braces. -/
theorem SpelledEntries.attributesOf {entries : List (String × Value)}
    (spelled : SpelledEntries entries) :
    ∀ a ∈ Value.attributesOf entries, ¬hasEmptyNamespace a.1 = true := by
  induction entries with
  | nil => exact fun _ member => absurd member List.not_mem_nil
  | cons entry rest ih =>
    obtain ⟨key, value⟩ := entry
    obtain ⟨here, _, others⟩ := spelled
    intro a member
    by_cases marked : marksAttribute key = true
    · rw [Value.attributesOf_marked marked] at member
      rcases List.mem_cons.mp member with rfl | member
      · rw [entryName, if_pos marked] at here
        exact here
      · exact ih others a member
    · rw [Value.attributesOf_unmarked marked] at member
      exact ih others a member

/-- The attribute entries of a mapping are its attributes under their keys. -/
theorem attributePairs_eq (entries : List (String × Value)) :
    attributePairs entries = (Value.attributesOf entries).map fun a =>
      ("@" ++ a.1, Element.attributeText a.2) := by
  rw [attributePairs, Value.attributesOf, List.map_map]
  refine List.map_congr_left ?_
  intro entry member
  obtain ⟨_, marked⟩ := List.mem_filter.mp member
  exact congrArg (·, Element.attributeText entry.2) (mark_attributeName marked).symm

end Data

namespace Xml

/-! ## Names -/

/-- The name of a new element is read back. -/
theorem text_elementName {s : String} (spelled : ¬hasEmptyNamespace s = true) {n : Name}
    (judged : elementName s = .ok n) : n.text = s := by
  obtain ⟨name, read, rest⟩ := bind_eq_ok.mp judged
  split at rest
  · cases rest
  · split at rest
    · cases rest
    · cases rest
      exact Name.text_ofText spelled read

/-- The name of an attribute that is set is read back. -/
theorem text_attributeName {s : String} (spelled : ¬hasEmptyNamespace s = true) {n : Name}
    (judged : Xml.attributeName s = .ok n) : n.text = s ∧ Name.ofText n.text = .ok n := by
  obtain ⟨name, read, rest⟩ := bind_eq_ok.mp judged
  split at rest
  · cases rest
  · cases rest
    have same := Name.text_ofText spelled read
    exact ⟨same, same.symm ▸ read⟩

/-! ## Attributes -/

/-- Attributes whose names differ and are read back. -/
structure Readable (attributes : List Attribute) : Prop where
  once : (attributes.map (·.name)).Nodup
  readBack : ∀ a ∈ attributes, Name.ofText a.name.text = .ok a.name

/-- What attributes are read as, under their keys. -/
def attributeKeys (attributes : List Attribute) : List (String × String) :=
  attributes.map fun a => (a.key, a.value)

/-- Attributes whose names are read back have the same key only if they have the same name. -/
theorem key_eq_iff {a b : Attribute} (readA : Name.ofText a.name.text = .ok a.name)
    (readB : Name.ofText b.name.text = .ok b.name) : a.key = b.key ↔ a.name = b.name := by
  constructor
  · intro same
    have texts : a.name.text = b.name.text := by
      have lists := congrArg String.toList same
      rw [Attribute.key, Attribute.key, String.toList_append, String.toList_append] at lists
      exact String.toList_inj.mp (List.append_cancel_left lists)
    rw [texts, readB] at readA
    exact (Except.ok.inj readA).symm
  · intro same
    rw [Attribute.key, Attribute.key, same]

/-- Setting an attribute adds its name or none. -/
theorem mem_names_putAttribute {given : Attribute} {attributes : List Attribute} {name : Name}
    (member : name ∈ (Xml.putAttribute given attributes).map (·.name)) :
    name = given.name ∨ name ∈ attributes.map (·.name) := by
  induction attributes with
  | nil => exact Or.inl (List.mem_singleton.mp member)
  | cons a rest ih =>
    by_cases same : a.name = given.name
    · rw [Xml.putAttribute, if_pos same] at member
      exact Or.inr member
    · rw [Xml.putAttribute, if_neg same, List.map_cons] at member
      rcases List.mem_cons.mp member with rfl | member
      · exact Or.inr List.mem_cons_self
      · exact (ih member).imp id (List.mem_cons_of_mem _)

/-- Setting an attribute puts its value under its key. -/
theorem Readable.putAttribute {attributes : List Attribute} (readable : Readable attributes)
    {given : Attribute} (read : Name.ofText given.name.text = .ok given.name) :
    Readable (Xml.putAttribute given attributes) ∧
      attributeKeys (Xml.putAttribute given attributes) =
        Entries.put given.key given.value (attributeKeys attributes) := by
  induction attributes with
  | nil =>
    have once : [given.name].Nodup := List.nodup_cons.mpr ⟨List.not_mem_nil, List.nodup_nil⟩
    exact ⟨⟨once, List.forall_mem_singleton.mpr read⟩, rfl⟩
  | cons a rest ih =>
    obtain ⟨notAgain, onceRest⟩ := List.nodup_cons.mp readable.once
    obtain ⟨readA, readRest⟩ := List.forall_mem_cons.mp readable.readBack
    have keys : attributeKeys (a :: rest) = (a.key, a.value) :: attributeKeys rest := rfl
    rw [Xml.putAttribute, keys, Entries.put]
    by_cases same : a.name = given.name
    · have sameKey := (key_eq_iff readA read).mpr same
      rw [if_pos same, if_pos (beq_iff_eq.mpr sameKey)]
      exact ⟨⟨readable.once, List.forall_mem_cons.mpr ⟨readA, readRest⟩⟩, rfl⟩
    · have otherKey : ¬(a.key == given.key) = true := by
        rw [beq_iff_eq, key_eq_iff readA read]
        exact same
      obtain ⟨⟨oncePut, readPut⟩, put⟩ := ih ⟨onceRest, readRest⟩
      rw [if_neg same, if_neg otherKey, ← put]
      refine ⟨⟨List.nodup_cons.mpr ⟨?_, oncePut⟩, List.forall_mem_cons.mpr ⟨readA, readPut⟩⟩, rfl⟩
      intro member
      rcases mem_names_putAttribute member with equal | member
      · exact same equal
      · exact notAgain member

/-- The first attributes of each name are all, if no name is there twice. -/
theorem firstOfEachName_eq {attributes : List Attribute}
    (once : (attributes.map (·.name)).Nodup) : firstOfEachName attributes = attributes := by
  induction attributes with
  | nil => rfl
  | cons a rest ih =>
    obtain ⟨notAgain, onceRest⟩ := List.nodup_cons.mp once
    rw [firstOfEachName, ih onceRest, List.filter_eq_self.mpr]
    intro b member
    refine decide_eq_true ?_
    intro same
    exact notAgain (List.mem_map.mpr ⟨b, member, same⟩)

/-- Setting an attribute of a head sets it under some prefix, and leaves its name and text alone. -/
theorem Head.putAttribute_eq (above : Scope) (name : Name) (value : String) (head : Head) :
    ∃ nsPrefix,
      (head.putAttribute above name value).attributes =
          Xml.putAttribute ⟨name, nsPrefix, value⟩ head.attributes ∧
        (head.putAttribute above name value).name = head.name ∧
        (head.putAttribute above name value).text = head.text := by
  rw [Head.putAttribute]
  by_cases plain : name.uri = ""
  · rw [if_pos plain]
    exact ⟨"", rfl, rfl, rfl⟩
  · rw [if_neg plain]
    dsimp only
    cases Scope.prefixForAttribute? name.uri (head.frame :: above) with
    | some p => exact ⟨p, rfl, rfl, rfl⟩
    | none => exact ⟨_, rfl, rfl, rfl⟩

namespace Element

/-- Setting an attribute of an element puts its value under its key, and leaves the rest alone. -/
theorem setAttribute_keys {name value : String} (spelled : ¬hasEmptyNamespace name = true)
    {e left : Element} (readable : Readable e.head.attributes)
    (set : e.setAttribute [] name value = .ok left) :
    Readable left.head.attributes ∧
      attributeKeys left.head.attributes =
        Entries.put ("@" ++ name) value (attributeKeys e.head.attributes) ∧
      left.head.name = e.head.name ∧ left.head.text = e.head.text ∧ left.children = e.children := by
  obtain ⟨given, judged, rest⟩ := bind_eq_ok.mp set
  obtain ⟨_, _, same⟩ := bind_eq_ok.mp rest
  cases same
  obtain ⟨text, read⟩ := text_attributeName spelled judged
  obtain ⟨nsPrefix, attributes, named, kept⟩ := e.head.putAttribute_eq [] given value
  have readGiven : Name.ofText (Attribute.mk given nsPrefix value).name.text =
      .ok (Attribute.mk given nsPrefix value).name := read
  have put := readable.putAttribute readGiven
  rw [← attributes] at put
  refine ⟨put.1, put.2.trans ?_, named, kept, rfl⟩
  rw [Attribute.key, text]

/-- Setting attributes one by one puts their values under their keys. -/
theorem setAttributes_keys {attributes : List (String × Value)}
    (spelled : ∀ a ∈ attributes, ¬hasEmptyNamespace a.1 = true) {e left : Element}
    (readable : Readable e.head.attributes) (set : e.setAttributes attributes = .ok left) :
    Readable left.head.attributes ∧
      attributeKeys left.head.attributes =
        attributes.foldl
          (fun entries a => Entries.put ("@" ++ a.1) (attributeText a.2) entries)
          (attributeKeys e.head.attributes) ∧
      left.head.name = e.head.name ∧ left.head.text = e.head.text ∧ left.children = e.children := by
  induction attributes generalizing e with
  | nil =>
    cases set
    exact ⟨readable, rfl, rfl, rfl, rfl⟩
  | cons entry rest ih =>
    obtain ⟨name, value⟩ := entry
    obtain ⟨next, setFirst, setOthers⟩ := bind_eq_ok.mp set
    obtain ⟨readableNext, keys, named, text, children⟩ :=
      setAttribute_keys (spelled (name, value) List.mem_cons_self) readable setFirst
    obtain ⟨readableLeft, keysLeft, namedLeft, textLeft, childrenLeft⟩ :=
      ih (fun a member => spelled a (List.mem_cons_of_mem _ member)) readableNext setOthers
    refine ⟨readableLeft, ?_, namedLeft.trans named, textLeft.trans text,
      childrenLeft.trans children⟩
    rw [keysLeft, keys]
    rfl

/-- A new element is empty but for its name. -/
theorem new_eq_ok {tag : String} {e : Element} (made : Element.new tag = .ok e) :
    elementName tag = .ok e.name ∧ e.head.attributes = [] ∧ e.head.text = none ∧
      e.children = [] := by
  obtain ⟨name, judged, same⟩ := bind_eq_ok.mp made
  cases same
  have head : (Head.new [] name).name = name ∧ (Head.new [] name).attributes = [] ∧
      (Head.new [] name).text = none := by
    rw [Head.new]
    by_cases plain : name.uri = ""
    · rw [if_pos plain]
      exact ⟨rfl, rfl, rfl⟩
    · rw [if_neg plain]
      dsimp only
      cases Scope.prefixForElement? name.uri [⟨[], none⟩] with
      | some p => exact ⟨rfl, rfl, rfl⟩
      | none => exact ⟨rfl, rfl, rfl⟩
  refine ⟨judged.trans (congrArg Except.ok head.1.symm), head.2.1, head.2.2, rfl⟩

/-! ## Values -/

/-- A new element with a text is read as the text. -/
theorem value_ofText {tag text : String} (spelled : ¬hasEmptyNamespace tag = true) {e : Element}
    (built : ofText tag text = .ok e) : e.name.text = tag ∧ e.value = .text text := by
  obtain ⟨start, made, rest⟩ := bind_eq_ok.mp built
  obtain ⟨_, _, same⟩ := bind_eq_ok.mp rest
  cases same
  obtain ⟨judged, attributes, _, children⟩ := new_eq_ok made
  refine ⟨text_elementName spelled judged, ?_⟩
  have none : namedValues (start.withText text).children = [] := by
    rw [withText, children]
    rfl
  have noAttributes : (start.withText text).head.attributes = [] := attributes
  rw [value, ownText_withText, none, Head.value, noAttributes]
  rfl

/-- What a mapping builds is read as the mapping's form. -/
theorem value_ofMapping {tag : String} {entries : List (String × Value)}
    (spelled : SpelledEntries entries) {start marked : Element} {children : List Element}
    (made : Element.new tag = .ok start)
    (set : start.setAttributes (Value.attributesOf entries) = .ok marked)
    (values : children.map (fun child => (child.name.text, child.value)) = elementForms entries) :
    (marked.appendAll children).name = start.name ∧
      (marked.appendAll children).value =
        mappingForm (attributePairs entries) (elementForms entries) := by
  obtain ⟨_, noAttributes, noText, noChildren⟩ := new_eq_ok made
  have readable : Readable start.head.attributes := by
    rw [noAttributes]
    exact ⟨List.nodup_nil, fun _ member => absurd member List.not_mem_nil⟩
  obtain ⟨readableMarked, keys, named, text, childrenMarked⟩ :=
    setAttributes_keys spelled.attributesOf readable set
  obtain ⟨sameHead, read, sameText⟩ := marked.namedValues_appendAll children
  refine ⟨(congrArg Head.name sameHead).trans named, ?_⟩
  have emptyText : (marked.appendAll children).ownText = "" := by
    rw [sameText, ownText, childrenMarked, noChildren, text, noText]
    rfl
  have forms : namedValues (marked.appendAll children).children = elementForms entries := by
    rw [read, childrenMarked, noChildren, values]
    rfl
  have pairs : attributeKeys marked.head.attributes = Entries.ofPairs (attributePairs entries) := by
    rw [keys, noAttributes, attributePairs_eq, Entries.ofPairs, List.foldl_map]
    rfl
  have sameEmpty := congrArg List.isEmpty pairs
  rw [attributeKeys, List.isEmpty_map] at sameEmpty
  rw [value, sameHead, emptyText, forms, Head.value, firstOfEachName_eq readableMarked.once,
    sameEmpty, mappingForm, ← pairs, grouped_eq_gather, attributeKeys, List.map_map]
  rfl

mutual

/-- What a structured value builds is read as its normal form, under its key. -/
theorem value_ofValue (value : Value) (spelled : value.Spelled) {tag : String}
    (named : ¬hasEmptyNamespace tag = true) {e : Element} (built : ofValue tag value = .ok e) :
    e.name.text = tag ∧ e.value = value.normalForm := by
  cases value with
  | scalar text =>
    obtain ⟨_, same, builtText⟩ | ⟨_, _, _, _, none, _⟩ := ofValue_cases built
    · cases same
      exact value_ofText named builtText
    · cases none
  | mapping entries =>
    obtain ⟨_, none, _⟩ | ⟨_, start, marked, children, same, made, set, builtChildren, rfl⟩ :=
      ofValue_cases built
    · cases none
    cases same
    have values := values_ofEntries entries spelled builtChildren
    obtain ⟨sameName, read⟩ := value_ofMapping spelled made set values
    rw [sameName]
    exact ⟨text_elementName named (new_eq_ok made).1, read⟩
  | _ =>
    obtain ⟨_, none, _⟩ | ⟨_, _, _, _, none, _⟩ := ofValue_cases built
    · cases none
    · cases none

/-- What entries build is read as their forms, in order. -/
theorem values_ofEntries (entries : List (String × Value)) (spelled : SpelledEntries entries)
    {children : List Element} (built : ofEntries entries = .ok children) :
    children.map (fun child => (child.name.text, child.value)) = elementForms entries := by
  cases entries with
  | nil =>
    cases built
    rfl
  | cons entry rest =>
    obtain ⟨key, value⟩ := entry
    obtain ⟨named, spelledValue, spelledRest⟩ := spelled
    by_cases marked : marksAttribute key = true
    · rw [ofEntries_marked marked] at built
      rw [elementForms_marked value rest marked]
      exact values_ofEntries rest spelledRest built
    · rw [entryName, if_neg marked] at named
      have one : ¬value.isSequence = true →
          children.map (fun child => (child.name.text, child.value)) =
            elementForms ((key, value) :: rest) := by
        intro single
        obtain ⟨first, others, builtFirst, builtOthers, rfl⟩ :=
          (ofEntries_single marked single).mp built
        obtain ⟨sameName, read⟩ := value_ofValue value spelledValue named builtFirst
        rw [List.map_cons, sameName, read, values_ofEntries rest spelledRest builtOthers,
          elementForms_single value rest marked single]
      cases value with
      | sequence items =>
        obtain ⟨first, others, builtFirst, builtOthers, rfl⟩ :=
          (ofEntries_sequence marked).mp built
        rw [List.map_append, values_ofItems items spelledValue named builtFirst,
          values_ofEntries rest spelledRest builtOthers, elementForms, if_neg marked]
      | _ => exact one Bool.false_ne_true

/-- What items build is read as their forms, all under the key of the sequence. -/
theorem values_ofItems (items : List Value) (spelled : SpelledItems items) {tag : String}
    (named : ¬hasEmptyNamespace tag = true) {children : List Element}
    (built : ofItems tag items = .ok children) :
    children.map (fun child => (child.name.text, child.value)) =
      (itemForms items).map fun form => (tag, form) := by
  cases items with
  | nil =>
    cases built
    rfl
  | cons item rest =>
    obtain ⟨first, others, builtFirst, builtOthers, rfl⟩ := ofItems_cons.mp built
    obtain ⟨sameName, read⟩ := value_ofValue item spelled.1 named builtFirst
    rw [List.map_cons, sameName, read, values_ofItems rest spelled.2 named builtOthers, itemForms,
      List.map_cons]

end

end Element

end Xml

/-- A document is read as the value that it was built from, in normal form: the empty mapping as the
empty dictionary, and a mapping with one entry as a dictionary with the entry's value in normal form
under its key. Tidy data comes back as it was. -/
theorem Document.toValue_ofValue {value wrapped : Value} (wraps : value.wrap = .ok wrapped)
    (spelled : wrapped.Spelled) {d : Document} (built : Document.ofValue value = .ok d) :
    (wrapped = .mapping [] ∧ d.toValue = .dict [] ∨
      ∃ tag node, wrapped = .mapping [(tag, node)] ∧
        d.toValue = .dict [(.text tag, node.normalForm)]) ∧
      (value = .dict [] ∨ value.Tidy → d.toValue.same value = true) := by
  obtain ⟨_, wrapsAgain, chain⟩ := bind_eq_ok.mp built
  rw [wraps] at wrapsAgain
  cases wrapsAgain
  obtain ⟨entry, found, builds⟩ := bind_eq_ok.mp chain
  obtain ⟨shape, root⟩ := documentEntry?_eq_ok found
  subst shape
  cases entry with
  | none =>
    have empty : Document.empty = d := Except.ok.inj builds
    subst empty
    refine ⟨Or.inl ⟨rfl, rfl⟩, ?_⟩
    rintro (rfl | tidy)
    · rfl
    · exact absurd rfl (tidy.wrap_ne_empty wraps)
  | some entry =>
    obtain ⟨tag, node⟩ := entry
    obtain ⟨unmarked, single⟩ := root (tag, node) rfl
    obtain ⟨e, builtRoot, same⟩ := bind_eq_ok.mp builds
    cases same
    obtain ⟨named, spelledNode, _⟩ := spelled
    rw [entryName, if_neg unmarked] at named
    obtain ⟨sameName, read⟩ := Element.value_ofValue node spelledNode named builtRoot
    have reading : (Document.ofRoot e).toValue = .dict [(.text tag, node.normalForm)] := by
      show e.rootValue = _
      rw [Element.rootValue, sameName, read]
    refine ⟨Or.inr ⟨tag, node, rfl, reading⟩, ?_⟩
    rintro (rfl | tidy)
    · cases wraps
    · rw [reading, ← normalForm_single node unmarked single]
      exact tidy.same_normalForm wraps Bool.false_ne_true

/-- An element with an attribute, a list and a text is read as the data that it was built from. -/
theorem Document.toValue_ofValue_log :
    ∃ d, Document.ofValue (.dict [(.text "log", .dict [(.text "entry", .list [.text "a",
        .dict [(.text "@id", .text "7")]]), (.text "note", .text "")])]) = .ok d ∧
      d.toValue.same (.dict [(.text "log", .dict [(.text "entry", .list [.text "a",
        .dict [(.text "@id", .text "7")]]), (.text "note", .text "")])]) = true := by
  have wraps : Value.wrap (.dict [(.text "log", .dict [(.text "entry", .list [.text "a",
      .dict [(.text "@id", .text "7")]]), (.text "note", .text "")])]) =
    .ok (.mapping [("log", .mapping [("entry", .sequence [.scalar "a",
      .mapping [("@id", .scalar "7")]]), ("note", .scalar "")])]) := rfl
  have spelled : Value.Spelled (.mapping [("log", .mapping [("entry", .sequence [.scalar "a",
      .mapping [("@id", .scalar "7")]]), ("note", .scalar "")])]) := by
    refine ⟨by decide, ⟨by decide, ⟨trivial, ⟨by decide, trivial, trivial⟩, trivial⟩, ?_⟩, trivial⟩
    exact ⟨by decide, trivial, trivial⟩
  have different : ∀ {key other : String} {value plain : Value}, key ≠ other →
      [(Value.text key, value), (.text other, plain)].Pairwise
        fun a b => ¬a.1.same b.1 = true := by
    intro key other value plain differs
    refine List.pairwise_pair.mpr ?_
    exact fun same => differs (beq_iff_eq.mp same)
  have tidy : Value.Tidy (.dict [(.text "log", .dict [(.text "entry", .list [.text "a",
      .dict [(.text "@id", .text "7")]]), (.text "note", .text "")])]) := by
    refine ⟨List.cons_ne_nil _ _, List.pairwise_singleton _ _, ?_, trivial⟩
    refine ⟨List.cons_ne_nil _ _, different (by decide), ⟨by decide, trivial, ?_, trivial⟩, trivial,
      trivial⟩
    exact ⟨List.cons_ne_nil _ _, List.pairwise_singleton _ _, trivial, trivial⟩
  have back := Document.toValue_ofValue wraps spelled rfl
  exact ⟨_, rfl, back.2 (Or.inr tidy)⟩

end XmlGraft
