import XmlGraft.Proofs.Document.Regrouping
import XmlGraft.Proofs.Document.Reload
import XmlGraft.Proofs.Xml.Simple

/-!
# Rebuilding — documents that are read as data and built again

The data that a simple tree is read as denotes the regrouped tree (`Element.denotes_value`), by
induction over the tree: a text is set, attributes are set in order, and each group of child
elements is built as the siblings that it holds.

So a document with simple names, however it came about, is built again from its own data. What is
built is read as the same data, and it is the tree of the document exactly if that is like data
(`Document.ofValue_toValue`).
-/

namespace XmlGraft

open Xml Data

/-- A name without a colon is no key of attributes. -/
theorem Data.unmarked_of_isNCName {key : String} (isName : isNCName key = true) :
    ¬marksAttribute key = true := by
  obtain ⟨c, rest, spelled, start, _⟩ := isNCName_cons isName
  rw [marksAttribute, spelled, List.head?_cons, beq_iff_eq]
  rintro ⟨⟩
  exact absurd start (by decide)

/-- Any value may stand under a key of elements. -/
theorem Data.checkEntry_unmarked {key : String} (unmarked : ¬marksAttribute key = true)
    (value : Value) : checkEntry key value = .ok () := by
  rw [checkEntry, Bool.eq_false_iff.mpr unmarked]
  rfl

/-- A value denotes an element under a key. -/
def Data.Value.Denotes (key : String) (value : Value) (e : Element) : Prop :=
  ∃ wrapped, value.wrap = .ok wrapped ∧ ¬wrapped.isSequence = true ∧
    Element.ofValue key wrapped = .ok e

namespace Xml.Element

/-! ## Groups of children -/

section Groups

variable {key : String} {children : List Element}

/-- Values that denote elements under one key are items that denote these siblings. -/
theorem ofItems_values (denote : ∀ child ∈ children, child.value.Denotes key child.regrouped) :
    ∃ items, wrapItems (children.map value) = .ok items ∧
      ofItems key items = .ok (children.map regrouped) := by
  induction children with
  | nil => exact ⟨[], rfl, rfl⟩
  | cons child rest ih =>
    obtain ⟨⟨wrapped, wraps, single, builds⟩, denoteRest⟩ := List.forall_mem_cons.mp denote
    obtain ⟨items, wrapsRest, buildsRest⟩ := ih denoteRest
    refine ⟨wrapped :: items, ?_, ofItems_cons.mpr ⟨_, _, builds, buildsRest, rfl⟩⟩
    rw [List.map_cons, wrapItems, wraps, ok_bind, if_neg single, wrapsRest]
    rfl

/-- The value of a group denotes siblings under the key of the group. -/
theorem ofEntries_groupValue (unmarked : ¬marksAttribute key = true) (some : children ≠ [])
    (denote : ∀ child ∈ children, child.value.Denotes key child.regrouped) :
    ∃ wrapped, (groupValue (children.map value)).wrap = .ok wrapped ∧
      ∀ {rest others}, ofEntries rest = .ok others →
        ofEntries ((key, wrapped) :: rest) = .ok (children.map regrouped ++ others) := by
  match children, some with
  | [child], _ =>
    obtain ⟨wrapped, wraps, single, builds⟩ := denote child List.mem_cons_self
    exact ⟨wrapped, wraps, fun buildsRest =>
      (ofEntries_single unmarked single).mpr ⟨_, _, builds, buildsRest, rfl⟩⟩
  | child :: next :: more, _ =>
    obtain ⟨items, wraps, builds⟩ := ofItems_values denote
    refine ⟨.sequence items, ?_, fun buildsRest =>
      (ofEntries_sequence unmarked).mpr ⟨_, _, builds, buildsRest, rfl⟩⟩
    show (wrapItems ((child :: next :: more).map value)).map Value.sequence = _
    rw [wraps]
    rfl

/-- Groups are entries that denote their members. -/
theorem ofEntries_groups {groups : List (String × List Element)}
    (unmarked : ∀ group ∈ groups, ¬marksAttribute group.1 = true)
    (some : ∀ group ∈ groups, group.2 ≠ [])
    (denote : ∀ group ∈ groups, ∀ child ∈ group.2, child.value.Denotes group.1 child.regrouped) :
    ∃ wrapped,
      wrapEntries (groups.map fun group => (.text group.1, groupValue (group.2.map value))) =
          .ok wrapped ∧
        Value.attributesOf wrapped = [] ∧
        ofEntries wrapped = .ok (groups.flatMap fun group => group.2.map regrouped) := by
  induction groups with
  | nil => exact ⟨[], rfl, rfl, rfl⟩
  | cons group rest ih =>
    obtain ⟨unmarkedHere, unmarkedRest⟩ := List.forall_mem_cons.mp unmarked
    obtain ⟨someHere, someRest⟩ := List.forall_mem_cons.mp some
    obtain ⟨denoteHere, denoteRest⟩ := List.forall_mem_cons.mp denote
    obtain ⟨wrapped, wraps, builds⟩ := ofEntries_groupValue unmarkedHere someHere denoteHere
    obtain ⟨others, wrapsRest, noAttributes, buildsRest⟩ := ih unmarkedRest someRest denoteRest
    refine ⟨(group.1, wrapped) :: others, ?_, ?_, builds buildsRest⟩
    · rw [List.map_cons, wrapEntries, entryKey, ok_bind, wraps, ok_bind,
        checkEntry_unmarked unmarkedHere, ok_bind, wrapsRest]
      rfl
    · rw [Value.attributesOf_unmarked unmarkedHere, noAttributes]

end Groups

/-! ## Attributes -/

section Attributes

variable (attributes : List Attribute)

/-- The entries that attributes are read as are wrapped before others. -/
theorem wrapEntries_attributes {others : List (Value × Value)} {wrapped : List (String × Value)}
    (wraps : wrapEntries others = .ok wrapped) :
    wrapEntries (attributes.map (fun a => (.text a.key, .text a.value)) ++ others) =
      .ok (attributes.map (fun a => (a.key, .scalar a.value)) ++ wrapped) := by
  induction attributes with
  | nil => exact wraps
  | cons a rest ih =>
    have checked : checkEntry a.key (.scalar a.value) = .ok () := by
      rw [checkEntry, Value.isScalar, Bool.not_true, Bool.and_false]
      rfl
    have wrapsHere : Value.wrap (.text a.value) = .ok (.scalar a.value) := rfl
    rw [List.map_cons, List.cons_append, wrapEntries, entryKey, ok_bind, wrapsHere, ok_bind,
      checked, ok_bind, ih]
    rfl

/-- Attributes under their keys are attribute entries, and denote no elements. -/
theorem attributesOf_attributes (wrapped : List (String × Value)) :
    Value.attributesOf (attributes.map (fun a => (a.key, .scalar a.value)) ++ wrapped) =
        attributes.map (fun a => (a.name.text, .scalar a.value)) ++ Value.attributesOf wrapped ∧
      ofEntries (attributes.map (fun a => (a.key, .scalar a.value)) ++ wrapped) =
        ofEntries wrapped := by
  induction attributes with
  | nil => exact ⟨rfl, rfl⟩
  | cons a rest ih =>
    have marked : marksAttribute a.key = true := marksAttribute_mark a.name.text
    have name : Data.attributeName a.key = a.name.text := attributeName_mark a.name.text
    constructor
    · rw [List.map_cons, List.cons_append, Value.attributesOf_marked marked, name, ih.1]
      rfl
    · rw [List.map_cons, List.cons_append, ofEntries_marked marked, ih.2]

/-- Simple attributes are set as they are, without prefixes. -/
theorem setAttributes_simple {attributes : List Attribute}
    (simple : ∀ a ∈ attributes,
      (a.name.uri = "" ∧ isNCName a.name.label = true) ∧ compatible a.value = true)
    {e : Element} (once : ((e.head.attributes ++ attributes).map (·.name)).Nodup) :
    e.setAttributes (attributes.map fun a => (a.name.text, .scalar a.value)) =
      .ok ⟨{ e.head with
        attributes := e.head.attributes ++ attributes.map fun a => { a with nsPrefix := "" } },
        e.children⟩ := by
  induction attributes generalizing e with
  | nil =>
    rw [List.map_nil, List.map_nil, List.append_nil]
    rfl
  | cons a rest ih =>
    obtain ⟨⟨⟨bare, isName⟩, writable⟩, simpleRest⟩ := List.forall_mem_cons.mp simple
    have name : a.name = .bare a.name.label := Name.eq_bare bare
    have text : a.name.text = a.name.label := if_pos bare
    have absent : ∀ b ∈ e.head.attributes, b.name ≠ .bare a.name.label := by
      intro b member same
      rw [List.map_append, List.map_cons] at once
      refine (List.nodup_append.mp once).2.2 b.name (List.mem_map_of_mem member) a.name
        List.mem_cons_self (same.trans name.symm)
    have put : e.withAttribute a.name.label a.value =
        ⟨{ e.head with attributes := e.head.attributes ++ [{ a with nsPrefix := "" }] },
          e.children⟩ := by
      rw [withAttribute, putAttribute_new absent, ← name]
    have onceRest : (((e.withAttribute a.name.label a.value).head.attributes ++ rest).map
        (·.name)).Nodup := by
      rw [put]
      rw [List.append_assoc, List.singleton_append]
      simpa only [List.map_append, List.map_cons] using once
    rw [List.map_cons, setAttributes, text, setAttribute_plain isName, attributeText,
      if_pos writable, ok_bind, ih simpleRest onceRest, put]
    simp only [List.append_assoc, List.map_cons, List.singleton_append]

end Attributes

/-! ## Trees -/

variable {above : List Declaration} {e : Element}

/-- The child elements of an element obey its law, among its declarations too. -/
theorem Obeys.child {law : Law} (obeys : e.Obeys law above) :
    ∀ child ∈ e.childElements, child.Obeys law (e.head.declarations ++ above) := by
  intro child member
  obtain ⟨node, inChildren, isElement⟩ := List.mem_filterMap.mp member
  have obeysNode := allObey_iff.mp obeys.2.2 node inChildren
  cases node with
  | element head children tail =>
    cases isElement
    exact obeysNode.1
  | _ => cases isElement

/-- The text of a simple tree can stand in markup. -/
theorem Obeys.compatible_ownText (obeys : e.Obeys simpleLaw above) :
    compatible e.ownText = true := by
  have written : ∀ {text : Option String}, Writable text → compatible (textOf text) = true := by
    rintro (_ | t) writable
    · rfl
    · exact writable t rfl
  have tails : ∀ node ∈ e.children, compatible (textOf node.tail) = true := by
    intro node member
    have obeysNode := allObey_iff.mp obeys.2.2 node member
    cases node with
    | _ => exact written obeysNode.2
  have after : ∀ (nodes : List Node) (start : String), compatible start = true →
      (∀ node ∈ nodes, compatible (textOf node.tail) = true) →
      compatible (nodes.foldl (fun text child => text ++ textOf child.tail) start) = true := by
    intro nodes
    induction nodes with
    | nil => exact fun _ writable _ => writable
    | cons node rest ih =>
      intro start writable all
      obtain ⟨here, others⟩ := List.forall_mem_cons.mp all
      refine ih _ ?_ others
      rw [compatible, String.toList_append, List.all_append, Bool.and_eq_true]
      exact ⟨writable, here⟩
  exact after e.children _ (written obeys.2.1) tails

/-- A regrouped tree is its head with the regrouped child elements. -/
theorem regrouped_eq_withChildren (e : Element) :
    e.regrouped = withChildren ⟨e.regrouped.head, []⟩
      ((together (keyed e.childElements)).map fun child => child.2.regrouped) := by
  rw [withChildren, List.map_map, List.nil_append]
  exact congrArg (Element.mk _) e.children_regrouped

/-- A simple tree has no namespaces when it is regrouped. -/
theorem Obeys.plain_regrouped (obeys : e.Obeys simpleLaw above) : e.regrouped.Plain := by
  induction e using childInduction generalizing above with
  | step e ih =>
    have head : e.regrouped.head.Plain := by
      refine ⟨obeys.1.name.1, rfl, List.forall_mem_map.mpr fun a member => ?_⟩
      exact (obeys.1.plain a member).1.1
    have children : ∀ child ∈ (together (keyed e.childElements)).map (·.2.regrouped),
        child.Plain := by
      refine List.forall_mem_map.mpr fun child member => ?_
      have isChild := (mem_together_keyed member).1
      exact ih child.2 isChild (obeys.child child.2 isChild)
    have start : Element.Plain ⟨e.regrouped.head, []⟩ := ⟨head, trivial⟩
    rw [regrouped_eq_withChildren]
    exact start.withChildren children

/-- A simple element without attributes and child elements is read as its text, which denotes the
regrouped element. -/
theorem Obeys.denotes_text (obeys : e.Obeys simpleLaw above)
    (alone : e.head.attributes = [] ∧ e.childElements = []) :
    e.value.Denotes e.name.label e.regrouped := by
  obtain ⟨bare, isName⟩ : e.name.uri = "" ∧ isNCName e.name.label = true := obeys.1.name
  have value : e.value = .text e.ownText := by
    rw [value_eq, alone.2, Head.value, alone.1]
    rfl
  have head : e.regrouped.head = ((blank e.name.label).withText e.ownText).head := by
    rw [head_regrouped, text_regrouped, if_pos alone, trim_some, Head.outline, alone.1]
    exact congrArg (Head.mk · _ _ _ _) (Name.eq_bare bare)
  have regrouped : (blank e.name.label).withText e.ownText = e.regrouped :=
    (congrArg (Element.mk · []) head.symm).trans
      (congrArg (Element.mk _) (e.alone_regrouped.mpr alone).2.symm)
  rw [value]
  refine ⟨.scalar e.ownText, rfl, Bool.false_ne_true, ?_⟩
  rw [ofValue, ofText, new_plain isName, ok_bind, checkText, if_pos obeys.compatible_ownText,
    ← regrouped]
  rfl

/-- A simple element with attributes or child elements is read as a dictionary of the attributes and
the groups of child elements. -/
theorem Obeys.value_dict (obeys : e.Obeys simpleLaw above)
    (notAlone : ¬(e.head.attributes = [] ∧ e.childElements = [])) :
    e.value = .dict (e.head.attributes.map (fun a => (.text a.key, .text a.value)) ++
      (grouped (keyed e.childElements)).map fun group =>
        (.text group.1, groupValue (group.2.map Element.value))) := by
  rw [value_eq, Head.value, if_neg, firstOfEachName_eq obeys.1.once, grouped_map, List.map_map]
  · rfl
  · rw [Bool.and_eq_true, List.isEmpty_iff, List.isEmpty_iff, List.map_eq_nil_iff, keyed,
      List.map_eq_nil_iff]
    exact notAlone

/-- The members of a group are child elements, and the group has the label of each as its key. -/
theorem Obeys.mem_group (obeys : e.Obeys simpleLaw above) {group : String × List Element}
    (isGroup : group ∈ grouped (keyed e.childElements)) :
    (∀ child ∈ group.2, child ∈ e.childElements ∧ group.1 = child.name.label) ∧
      ¬marksAttribute group.1 = true := by
  have members : ∀ child ∈ group.2, child ∈ e.childElements ∧ group.1 = child.name.label := by
    intro child inGroup
    rw [(mem_grouped.mp isGroup).2, mem_valuesOf] at inGroup
    obtain ⟨other, inChildren, same⟩ := List.mem_map.mp inGroup
    obtain ⟨key, rfl⟩ := Prod.mk.inj same
    exact ⟨inChildren, key.symm.trans (if_pos (obeys.child other inChildren).1.name.1)⟩
  refine ⟨members, ?_⟩
  obtain ⟨child, inGroup⟩ :=
    List.exists_mem_of_ne_nil group.2 ((grouped_nodup (keyed e.childElements)).2 group isGroup)
  obtain ⟨inChildren, same⟩ := members child inGroup
  rw [same]
  exact unmarked_of_isNCName (obeys.child child inChildren).1.name.2

/-- A simple element with attributes or child elements denotes the regrouped element in data, if its
child elements do. -/
theorem Obeys.denotes_dict (obeys : e.Obeys simpleLaw above)
    (notAlone : ¬(e.head.attributes = [] ∧ e.childElements = []))
    (denote : ∀ child ∈ e.childElements, child.value.Denotes child.name.label child.regrouped) :
    e.value.Denotes e.name.label e.regrouped := by
  obtain ⟨bare, isName⟩ : e.name.uri = "" ∧ isNCName e.name.label = true := obeys.1.name
  obtain ⟨wrapped, wraps, noAttributes, builds⟩ := ofEntries_groups
    (fun group isGroup => (obeys.mem_group isGroup).2)
    (grouped_nodup (keyed e.childElements)).2
    fun group isGroup child inGroup => by
      obtain ⟨inChildren, same⟩ := (obeys.mem_group isGroup).1 child inGroup
      exact same ▸ denote child inChildren
  rw [obeys.value_dict notAlone]
  refine ⟨.mapping (e.head.attributes.map (fun a => (a.key, .scalar a.value)) ++ wrapped), ?_,
    Bool.false_ne_true, ?_⟩
  · show (wrapEntries _).map Value.mapping = _
    rw [wrapEntries_attributes _ wraps]
    rfl
  · obtain ⟨attributes, elements⟩ := attributesOf_attributes e.head.attributes wrapped
    have once : (((blank e.name.label).head.attributes ++ e.head.attributes).map (·.name)).Nodup :=
      obeys.1.once
    have plain : ∀ child ∈ (together (keyed e.childElements)).map (fun child => child.2.regrouped),
        child.Plain := by
      refine List.forall_mem_map.mpr fun child member => ?_
      exact (obeys.child child.2 (mem_together_keyed member).1).plain_regrouped
    have head : e.regrouped.head = { (blank e.name.label).head with
        attributes := e.head.attributes.map fun a => { a with nsPrefix := "" } } := by
      rw [head_regrouped, text_regrouped, if_neg notAlone]
      exact congrArg (Head.mk · _ _ _ _) (Name.eq_bare bare)
    rw [ofValue, new_plain isName, ok_bind, attributes, noAttributes, List.append_nil,
      setAttributes_simple obeys.1.plain once, ok_bind, elements, builds, ok_bind, ← map_together,
      appendAll_plain plain, regrouped_eq_withChildren, head]
    rfl

/-- The data that a simple element is read as denotes the regrouped element. -/
theorem denotes_value (e : Element) (obeys : e.Obeys simpleLaw above) :
    e.value.Denotes e.name.label e.regrouped := by
  induction e using childInduction generalizing above with
  | step e ih =>
    by_cases alone : e.head.attributes = [] ∧ e.childElements = []
    · exact obeys.denotes_text alone
    · exact obeys.denotes_dict alone fun child member => ih child member (obeys.child child member)

end Xml.Element

/-! ## Documents -/

namespace Document

/-- The tree of a document without prefixes, declarations and empty texts; none for the empty
document. -/
def outline (d : Document) : Option Element := d.root.map Element.outline

/-- The tree of a document is like data; the empty document is. -/
def DataLike (d : Document) : Prop := ∀ root ∈ d.root, root.DataLike

section

variable {d : Document} {root : Element} (rooted : d.root = some root)

include rooted

/-- The data of a document with a simple tree is wrapped as an entry for the root, and what that
holds denotes the regrouped tree. -/
theorem wrap_toValue (simple : root.Obeys simpleLaw []) :
    ∃ wrapped, root.value.wrap = .ok wrapped ∧
      Element.ofValue root.name.label wrapped = .ok root.regrouped ∧
      d.toValue.wrap = .ok (.mapping [(root.name.label, wrapped)]) ∧
      documentEntry? (.mapping [(root.name.label, wrapped)]) =
        .ok (some (root.name.label, wrapped)) := by
  obtain ⟨bare, isName⟩ : root.name.uri = "" ∧ isNCName root.name.label = true := simple.1.name
  have unmarked := unmarked_of_isNCName isName
  obtain ⟨wrapped, wraps, single, builds⟩ := root.denotes_value simple
  have name : root.name.text = root.name.label := if_pos bare
  have value : d.toValue = .dict [(.text root.name.label, root.value)] := by
    rw [toValue, rooted, ← name]
    rfl
  refine ⟨wrapped, wraps, builds, ?_, (if_neg unmarked).trans (if_neg single)⟩
  rw [value]
  show (wrapEntries _).map Value.mapping = _
  rw [wrapEntries, entryKey, ok_bind, wraps, ok_bind, checkEntry_unmarked unmarked]
  rfl

/-- The data of a document with a simple tree denotes the regrouped tree. -/
theorem ofValue_regrouped (simple : root.Obeys simpleLaw []) :
    ofValue d.toValue = .ok (.ofRoot root.regrouped) := by
  obtain ⟨wrapped, _, builds, wrapsRoot, entry⟩ := wrap_toValue rooted simple
  rw [ofValue, wrapsRoot, ok_bind, entry, ok_bind]
  show (Element.ofValue root.name.label wrapped >>= fun root => .ok (Document.ofRoot root)) = _
  rw [builds]
  rfl

/-- The regrouped tree is read as the same data. -/
theorem toValue_regrouped : (ofRoot root.regrouped).toValue = d.toValue := by
  have value : (ofRoot root.regrouped).toValue =
      .dict [(.text root.name.text, root.regrouped.value)] := rfl
  rw [value, root.value_regrouped, toValue, rooted]
  rfl

/-- The regrouped tree is the tree exactly if that is like data. -/
theorem outline_regrouped_iff : (ofRoot root.regrouped).outline = d.outline ↔ d.DataLike := by
  have regrouped : (ofRoot root.regrouped).outline = some root.regrouped :=
    congrArg some root.outline_regrouped
  have like : d.DataLike ↔ root.DataLike := by
    rw [DataLike, rooted]
    exact ⟨fun all => all root rfl, fun like _ same => Option.some.inj same ▸ like⟩
  rw [regrouped, outline, rooted, Option.map_some, Option.some_inj, like]
  exact root.regrouped_eq_outline_iff

end

/-- A document with a simple tree is built again from its data. -/
theorem Obeys.rebuilt {d : Document} (obeys : d.Obeys simpleLaw) :
    ∃ left, ofValue d.toValue = .ok left ∧ left.toValue = d.toValue ∧
      (left.outline = d.outline ↔ d.DataLike) := by
  cases rooted : d.root with
  | none =>
    have value : d.toValue = .dict [] := by rw [toValue, rooted]
    refine ⟨.empty, ?_, value.symm, ?_⟩
    · rw [value]
      rfl
    · rw [outline, outline, rooted, DataLike, rooted]
      exact iff_of_true rfl fun _ none => nomatch none
  | some root =>
    exact ⟨.ofRoot root.regrouped, ofValue_regrouped rooted (obeys root rooted),
      toValue_regrouped rooted, outline_regrouped_iff rooted⟩

/-- A document that was read or built, and then written to, is built again from its own data if its
names have no namespace and no colon. What is built is read as the same data, and it is the tree of
the document exactly if that has no comments and instructions, no text beside attributes or
children, and the children of one name next to one another. -/
theorem ofValue_toValue {d : Document} (origin : d.Loaded ∨ ∃ value, ofValue value = .ok d)
    (writes : List (Value × Value))
    (simple : ∀ name ∈ (d.assignAll writes).names, name.Simple) :
    ∃ left, ofValue (d.assignAll writes).toValue = .ok left ∧
      left.toValue = (d.assignAll writes).toValue ∧
      (left.outline = (d.assignAll writes).outline ↔ (d.assignAll writes).DataLike) := by
  have before : d.Obeys denotedLaw := by
    rcases origin with loaded | ⟨value, built⟩
    · exact loaded.denoted
    · exact obeys_ofValue closed_denotedLaw built fun name member =>
        (simple name (names_assignAll writes d member)).1
  have denoted := before.assignAll closed_denotedLaw writes
  refine Obeys.rebuilt fun root rooted => (denoted root rooted).simple ?_
  have names : (d.assignAll writes).names = root.names := by
    rw [Document.names, rooted]
    rfl
  exact names ▸ simple

/-- A note with siblings apart is built again with those of one name together. -/
theorem ofValue_toValue_siblings :
    ∃ d left, read .faithful "<a x=\"1\"><b/><c/></a>" = .ok d ∧
      ofValue (d.assignAll [(.text "/a/b[2]", .text "t")]).toValue = .ok left ∧
      left.toValue = (d.assignAll [(.text "/a/b[2]", .text "t")]).toValue ∧
      left.outline ≠ (d.assignAll [(.text "/a/b[2]", .text "t")]).outline := by
  have loaded : read .faithful "<a x=\"1\"><b/><c/></a>" = .ok (.ofRoot
      ⟨⟨.bare "a", "", [], [⟨.bare "x", "", "1"⟩], none⟩,
        [.element ⟨.bare "b", "", [], [], none⟩ [] none,
          .element ⟨.bare "c", "", [], [], none⟩ [] none]⟩) := rfl
  have written : Document.assignAll [(.text "/a/b[2]", .text "t")] (.ofRoot
      ⟨⟨.bare "a", "", [], [⟨.bare "x", "", "1"⟩], none⟩,
        [.element ⟨.bare "b", "", [], [], none⟩ [] none,
          .element ⟨.bare "c", "", [], [], none⟩ [] none]⟩) = .ofRoot
      ⟨⟨.bare "a", "", [], [⟨.bare "x", "", "1"⟩], none⟩,
        [.element ⟨.bare "b", "", [], [], none⟩ [] none,
          .element ⟨.bare "c", "", [], [], none⟩ [] none,
          .element ⟨.bare "b", "", [], [], some "t"⟩ [] none]⟩ := rfl
  have simple := congrArg (fun d => ∀ name ∈ d.names, name.Simple) written
  obtain ⟨left, built, same, iff⟩ := ofValue_toValue (.inl ⟨_, _, loaded⟩)
    [(.text "/a/b[2]", .text "t")] (simple.mpr (by decide))
  refine ⟨_, left, loaded, built, same, fun equal => ?_⟩
  have like := iff.mp equal _ (congrArg root written)
  exact absurd (like.2.1.1 (by decide)) (by decide)

/-- A name with a colon comes about where a remark on what follows the root outweighs the one on
its prefix. No element can be built under it. -/
theorem ofValue_toValue_colon :
    ∃ d, read .faithful "<p:a/><?xml-x?>" = .ok d ∧ (∀ name ∈ d.names, name.uri = "") ∧
      ofValue d.toValue = .error (.badElementName "p:a") :=
  ⟨.ofRoot ⟨⟨.bare "p:a", "", [], [], none⟩, []⟩, rfl, List.forall_mem_singleton.mpr rfl, rfl⟩

end Document

end XmlGraft
