import XmlGraft.Proofs.Data.Grouping
import XmlGraft.Proofs.Data.Mentions
import XmlGraft.Proofs.Document.Reload

/-!
# Saved data — what data becomes that is written and read back

A document that is built from data under names without a colon is written and read back with the
same data, unless an attribute in it is called `xmlns` (`toValue_read_render`). Such an attribute is
written like any other, and read as the declaration of a default namespace. It is then missing from
the data, whatever else became of it: data mentions an attribute exactly if the tree has one of that
name (`Element.mentions_iff`).
-/

namespace XmlGraft

open Xml Data

namespace Xml

/-! ## Data of a tree without its empty texts -/

/-- An element has the same text without its empty texts. -/
theorem Element.ownText_trimmed (e : Element) : e.trimmed.ownText = e.ownText := by
  refine ownText_eq_of_characters (textOf_trim e.head.text) ?_
  rw [trimmed, trimmedAll_eq_map, List.map_map]
  refine List.map_congr_left fun node _ => ?_
  rw [Function.comp_apply, node.tail_trimmed, textOf_trim]

mutual

/-- A node is read as the same data without its empty texts. -/
theorem Node.namedValue?_trimmed (node : Node) : node.trimmed.namedValue? = node.namedValue? := by
  cases node with
  | element head children tail =>
    have text := Element.ownText_trimmed ⟨head, children⟩
    rw [Node.trimmed, Node.namedValue?, Node.namedValue?, namedValues_trimmedAll children, ← text]
    rfl
  | comment content tail => rfl
  | instruction target content tail => rfl

/-- So are nodes side by side. -/
theorem namedValues_trimmedAll (nodes : List Node) :
    namedValues (trimmedAll nodes) = namedValues nodes := by
  cases nodes with
  | nil => rfl
  | cons node rest =>
    rw [trimmedAll, namedValues, namedValues, node.namedValue?_trimmed,
      namedValues_trimmedAll rest]

end

/-- An element is read as the same data without its empty texts. -/
theorem Element.rootValue_trimmed (e : Element) : e.trimmed.rootValue = e.rootValue := by
  rw [rootValue, rootValue, value, value, ownText_trimmed, trimmed, namedValues_trimmedAll]
  rfl

/-! ## What data mentions -/

/-- A group mentions what one of its values does. -/
theorem mentions_groupValue {key : String} {values : List Value} :
    (groupValue values).Mentions key ↔ ∃ value ∈ values, value.Mentions key := by
  unfold groupValue
  split
  · simp only [List.mem_singleton, exists_eq_left]
  · constructor
    · intro mentions
      cases mentions with
      | item member inside => exact ⟨_, member, inside⟩
    · rintro ⟨value, member, inside⟩
      exact .item member inside

/-- The entries of attributes mention the keys of the attributes. -/
theorem mentions_attributes {key : String} {attributes : List Attribute} :
    (∃ entry ∈ (firstOfEachName attributes).map fun a => (Value.text a.key, Value.text a.value),
        entry.1 = .text key ∨ entry.2.Mentions key) ↔ ∃ a ∈ attributes, a.key = key := by
  obtain ⟨among, each⟩ := mem_firstOfEachName attributes
  simp only [List.mem_map, exists_exists_and_eq_and, Value.text.injEq, not_mentions_text, or_false]
  constructor
  · rintro ⟨a, first, same⟩
    exact ⟨a, among a first, same⟩
  · rintro ⟨a, member, same⟩
    obtain ⟨b, first, named⟩ := each a member
    exact ⟨b, first, by rw [Attribute.key, named, ← same, Attribute.key]⟩

/-- The entries of groups mention the keys of what was grouped, and what that mentions. -/
theorem mentions_groups {key : String} {children : List (String × Value)} :
    (∃ entry ∈ (grouped children).map fun group => (Value.text group.1, groupValue group.2),
        entry.1 = .text key ∨ entry.2.Mentions key) ↔
      ∃ child ∈ children, child.1 = key ∨ child.2.Mentions key := by
  simp only [List.mem_map, exists_exists_and_eq_and, Value.text.injEq, mentions_groupValue]
  constructor
  · rintro ⟨group, isGroup, same | ⟨value, inGroup, inside⟩⟩
    · obtain ⟨child, member, named⟩ := List.mem_map.mp (mem_grouped.mp isGroup).1
      exact ⟨child, member, .inl (named.trans same)⟩
    · rw [(mem_grouped.mp isGroup).2, mem_valuesOf] at inGroup
      exact ⟨_, inGroup, .inr inside⟩
  · rintro ⟨child, member, found⟩
    exact ⟨(child.1, valuesOf child.1 children), mem_grouped.mpr ⟨List.mem_map_of_mem member, rfl⟩,
      found.imp_right fun inside => ⟨child.2, mem_valuesOf.mpr member, inside⟩⟩

/-- An element is read as data that mentions the keys of its attributes, the names of its child
elements, and what these mention. -/
theorem Head.mentions_value {head : Head} {text key : String} {children : List (String × Value)} :
    (head.value text children).Mentions key ↔
      (∃ a ∈ head.attributes, a.key = key) ∨
        ∃ child ∈ children, child.1 = key ∨ child.2.Mentions key := by
  unfold Head.value
  split
  · next nothing =>
    obtain ⟨noAttributes, noChildren⟩ := Bool.and_eq_true_iff.mp nothing
    rw [List.isEmpty_iff.mp noAttributes, List.isEmpty_iff.mp noChildren]
    simp [not_mentions_text]
  · rw [mentions_dict, ← mentions_attributes, ← mentions_groups]
    simp only [List.mem_append, or_and_right, exists_or]

/-- The name of an element that stands for a tag is no key of attributes. -/
theorem Head.Denoted.text_ne {above : List Declaration} {head : Head}
    (denoted : head.Denoted above) (label : String) : head.name.text ≠ "@" ++ label := by
  intro same
  have first : head.name.text.toList.head? = some '@' := by
    rw [same, String.toList_append]
    rfl
  unfold Name.text at first
  split at first
  · have member : '@' ∈ head.tag.toList := by
      rw [Head.tag, qualified]
      have inLabel : '@' ∈ head.name.label.toList := List.mem_of_mem_head? first
      split
      · exact inLabel
      · simp only [String.toList_append]
        exact List.mem_append_right _ inLabel
    exact absurd (denoted.tag.all '@' member) (by decide)
  · simp only [String.toList_append] at first
    cases first

/-- An attribute is read under the key of a name without a colon if it has that name. -/
theorem Attribute.key_eq_iff {label : String} (isName : isNCName label = true) {a : Attribute} :
    a.key = "@" ++ label ↔ a.name = .bare label := by
  rw [← text_eq_iff isName, Attribute.key, ← String.toList_inj, ← String.toList_inj,
    String.toList_append, String.toList_append, List.append_cancel_left_eq]

/-- An element mentions an attribute if it or one of its children has one of that name. -/
theorem Head.mentions_value_iff {label : String} (isName : isNCName label = true) {head : Head}
    {text : String} {children : List (String × Value)} {lack : Prop}
    (inside : (∃ child ∈ children, child.1 = "@" ++ label ∨
      child.2.Mentions ("@" ++ label)) ↔ ¬lack) :
    (head.value text children).Mentions ("@" ++ label) ↔ ¬(head.Lacks (.bare label) ∧ lack) := by
  rw [Head.mentions_value, inside, not_and_or, Head.Lacks]
  refine or_congr_left ?_
  simp only [ne_eq, not_forall, not_not, Attribute.key_eq_iff isName, exists_prop]

mutual

/-- The data of a node mentions an attribute exactly if there is one of that name in it. -/
theorem Node.mentions_iff {label : String} (isName : isNCName label = true) (node : Node)
    {above : List Declaration} (obeys : node.Obeys denotedLaw above) :
    (∃ child ∈ node.namedValue?, child.1 = "@" ++ label ∨ child.2.Mentions ("@" ++ label)) ↔
      ¬node.Lacks (.bare label) := by
  cases node with
  | element head children tail =>
    obtain ⟨⟨denoted, _, obey⟩, _⟩ := obeys
    have inner : (head.value (Element.ownText ⟨head, children⟩) (namedValues children)).Mentions
          ("@" ++ label) ↔ _ :=
      Head.mentions_value_iff isName (mentions_namedValues_iff isName children obey)
    simp only [Node.namedValue?, Option.mem_def, Option.some.injEq, exists_eq_left', inner,
      denoted.text_ne label, false_or]
    rfl
  | comment content tail => simp [Node.namedValue?, Node.Lacks]
  | instruction target content tail => simp [Node.namedValue?, Node.Lacks]

/-- So it is with nodes side by side. -/
theorem mentions_namedValues_iff {label : String} (isName : isNCName label = true)
    (nodes : List Node) {above : List Declaration} (obey : AllObey denotedLaw above nodes) :
    (∃ child ∈ namedValues nodes, child.1 = "@" ++ label ∨ child.2.Mentions ("@" ++ label)) ↔
      ¬AllLack (.bare label) nodes := by
  cases nodes with
  | nil => simp [namedValues, AllLack]
  | cons node rest =>
    have first := Node.mentions_iff isName node obey.1
    have others := mentions_namedValues_iff isName rest obey.2
    rw [AllLack, not_and_or, ← first, ← others, namedValues]
    cases node.namedValue? with
    | none => simp
    | some value => simp

end

end Xml

/-! ## Writing and reading back -/

namespace Document

/-- The data of a document mentions an attribute exactly if there is one of that name in its tree.
-/
theorem mentions_toValue_iff {label : String} (isName : isNCName label = true) {d : Document}
    {root : Element} (rooted : d.root = some root) (obeys : root.Obeys denotedLaw []) :
    d.toValue.Mentions ("@" ++ label) ↔ ¬root.Lacks (.bare label) := by
  have inner := Node.mentions_iff isName root.node (Element.obeys_node.mpr obeys)
  have value : d.toValue = .dict [(.text root.name.text, root.value)] := by
    rw [toValue, rooted]
    rfl
  have notRoot : root.name.text ≠ "@" ++ label := obeys.1.text_ne label
  rw [value]
  refine Iff.trans ⟨fun mentions => ?_, ?_⟩ inner
  · refine ⟨(root.name.text, root.value), rfl, ?_⟩
    cases mentions with
    | here member =>
      obtain ⟨same, _⟩ := Prod.mk.inj (List.mem_singleton.mp member)
      exact absurd (Value.text.inj same).symm notRoot
    | entry member inside =>
      cases List.mem_singleton.mp member
      exact .inr inside
  · rintro ⟨_, ⟨⟩, same | inside⟩
    · exact absurd same notRoot
    · exact .entry List.mem_cons_self inside

/-- Data under names without a colon is built without namespaces. -/
theorem builtPlain_of_named {value wrapped : Value} (wraps : value.wrap = .ok wrapped)
    (named : wrapped.Throughout Named) {d : Document} (built : ofValue value = .ok d) :
    d.BuiltPlain := by
  refine ⟨value, wrapped, wraps, named.imp ?_ _, built⟩
  intro entries named entry member name read
  rw [ofText_plain (named entry member)] at read
  cases read
  rfl

/-- Data under names without a colon is the same when it is written and read back, if it mentions no
attribute `xmlns`; and if it mentions one, then it is not, whatever is read. -/
theorem toValue_read_render {value wrapped : Value} (wraps : value.wrap = .ok wrapped)
    (named : wrapped.Throughout Named) {d : Document} (built : ofValue value = .ok d)
    {root : Element} (rooted : d.root = some root) (levels : root.levels ≤ depthLimit) :
    (¬d.toValue.Mentions "@xmlns" →
      ∃ left, read .faithful d.render = .ok left ∧ left.toValue = d.toValue) ∧
    (d.toValue.Mentions "@xmlns" →
      ∀ left, read .faithful d.render = .ok left → d.toValue.same left.toValue = false) := by
  have isName : isNCName "xmlns" = true := by decide
  have quiet := (builtPlain_of_named wraps named built).obeys root rooted
  constructor
  · intro noMention
    have lacks : root.Lacks (.bare "xmlns") := by
      by_contra missing
      exact noMention ((mentions_toValue_iff isName rooted quiet.of_quiet).mpr missing)
    have again := read_render rooted (quiet.of_quiet.read lacks) levels
    rw [quiet.quiet lacks] at again
    refine ⟨_, again, ?_⟩
    rw [toValue, toValue, rooted]
    exact root.rootValue_trimmed
  · intro mentions left reread
    rw [Bool.eq_false_iff]
    intro same
    have loaded : left.Loaded := ⟨_, _, reread⟩
    have mentionsToo := mentions.same same
    cases rootedToo : left.root with
    | none =>
      rw [toValue, rootedToo] at mentionsToo
      cases mentionsToo with
      | here member => cases member
      | entry member _ => cases member
    | some other =>
      have obeys := loaded.obeys other rootedToo
      exact (mentions_toValue_iff isName rootedToo obeys.denoted).mp mentionsToo obeys.lacks

/-- Data with an attribute and a text of markup is the same when it is written and read back. -/
theorem toValue_read_render_markup :
    ∃ d left, ofValue (.dict [(.text "a", .dict [(.text "@x", .text "1"),
        (.text "b", .text "<&>")])]) = .ok d ∧
      read .faithful d.render = .ok left ∧ left.toValue = d.toValue := by
  have wraps : Value.wrap (.dict [(.text "a", .dict [(.text "@x", .text "1"),
        (.text "b", .text "<&>")])]) =
      .ok (.mapping [("a", .mapping [("@x", .scalar "1"), ("b", .scalar "<&>")])]) := rfl
  have named : Value.Throughout Named
      (.mapping [("a", .mapping [("@x", .scalar "1"), ("b", .scalar "<&>")])]) := by
    refine ⟨by decide, ⟨by decide, trivial, trivial, trivial⟩, trivial⟩
  have built : ofValue (.dict [(.text "a", .dict [(.text "@x", .text "1"),
        (.text "b", .text "<&>")])]) =
      .ok (.ofRoot ⟨⟨.bare "a", "", [], [⟨.bare "x", "", "1"⟩], none⟩,
        [.element ⟨.bare "b", "", [], [], some "<&>"⟩ [] none]⟩) := rfl
  have lacks : Element.Lacks (.bare "xmlns") ⟨⟨.bare "a", "", [], [⟨.bare "x", "", "1"⟩], none⟩,
      [.element ⟨.bare "b", "", [], [], some "<&>"⟩ [] none]⟩ :=
    ⟨List.forall_mem_singleton.mpr (by decide),
      ⟨fun _ member => absurd member List.not_mem_nil, trivial⟩, trivial⟩
  have quiet := (builtPlain_of_named wraps named built).obeys _ rfl
  have isName : isNCName "xmlns" = true := by decide
  have mentioned := mentions_toValue_iff (d := .ofRoot _) isName rfl quiet.of_quiet
  have noMention := fun mentions => mentioned.mp mentions lacks
  obtain ⟨left, again, same⟩ := (toValue_read_render wraps named built rfl (by decide)).1 noMention
  exact ⟨_, left, built, again, same⟩

/-- An attribute `xmlns` is written, and is the declaration of a namespace when it is read. -/
theorem toValue_read_render_xmlns :
    ∃ wrapped d root left,
      Value.wrap (.dict [(.text "a", .dict [(.text "@xmlns", .text "u")])]) = .ok wrapped ∧
      wrapped.Throughout Named ∧
      ofValue (.dict [(.text "a", .dict [(.text "@xmlns", .text "u")])]) = .ok d ∧
      d.root = some root ∧ root.levels ≤ depthLimit ∧
      read .faithful d.render = .ok left ∧
      d.toValue = .dict [(.text "a", .dict [(.text "@xmlns", .text "u")])] ∧
      left.toValue = .dict [(.text "\x7bu\x7da", .text "")] :=
  ⟨.mapping [("a", .mapping [("@xmlns", .scalar "u")])],
    .ofRoot ⟨⟨.bare "a", "", [], [⟨.bare "xmlns", "", "u"⟩], none⟩, []⟩,
    ⟨⟨.bare "a", "", [], [⟨.bare "xmlns", "", "u"⟩], none⟩, []⟩,
    .ofRoot ⟨⟨⟨"u", "a"⟩, "", [⟨"", "u"⟩], [], none⟩, []⟩,
    rfl, ⟨by decide, ⟨by decide, trivial, trivial⟩, trivial⟩, rfl, rfl, by decide, rfl, rfl, rfl⟩

end Document

end XmlGraft
