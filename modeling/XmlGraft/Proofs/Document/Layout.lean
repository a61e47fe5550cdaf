import XmlGraft.Proofs.Document.Regrouping
import XmlGraft.Proofs.Document.SavedData
import XmlGraft.Proofs.Xml.Hollow

/-!
# Layout — documents that are written on lines

A document on lines is the document of the indented tree, written as it stands
(`Document.renderPretty_eq`). So it is read again as that tree, and whether it is depends on the
document as it does without layout (`Document.read_renderPretty`).

What is read then has line breaks for text. Layout leaves an element with text as it stands, so that
they stay the only ones: the document is written again as it was, on lines or not, unless some text
in it was empty (`Document.render_renderPretty_iff`). And line breaks are text beside children,
which is not read as data unless these children are comments and instructions alone
(`Element.rootValue_indented`).

As without layout, documents with a document type declaration are left out.
-/

namespace XmlGraft

open Xml Data

namespace Xml

/-! ## Text -/

/-- An element that is spread over lines has neither text nor an empty text, but children. -/
theorem Element.spread_iff {e : Element} :
    e.unspread = false ↔
      (e.head.text = none ∧ ∀ node ∈ e.children, node.tail = none) ∧ e.children ≠ [] := by
  simp [Element.unspread, hasMixedText]

/-- An element that is spread over lines has no text. -/
theorem Element.ownText_of_spread {e : Element} (spread : e.unspread = false) :
    e.ownText = "" := by
  obtain ⟨⟨text, tails⟩, _⟩ := Element.spread_iff.mp spread
  refine ownText_eq_empty_iff.mpr ⟨?_, fun node member => ?_⟩
  · rw [text]
    rfl
  · rw [tails node member]
    rfl

/-- Without its empty texts, an element is spread over lines exactly if it has children and no text.
-/
theorem Element.spread_trimmed_iff {e : Element} :
    e.trimmed.unspread = false ↔ e.ownText = "" ∧ e.children ≠ [] := by
  rw [Element.spread_iff, ownText_eq_empty_iff]
  simp only [Element.trimmed, trimmedAll_eq_map, List.forall_mem_map, Node.tail_trimmed,
    trim_eq_none_iff, ne_eq, List.map_eq_nil_iff]

/-! ## Written again -/

/-- An element is written on lines as it stands exactly if layout leaves it alone. -/
theorem Element.markup_indented_eq_iff {e : Element} (obeys : e.Obeys denotedLaw []) :
    e.indented.markup = e.markup ↔ e.unspread = true := by
  constructor
  · intro same
    by_contra spread
    rw [Bool.not_eq_true] at spread
    obtain ⟨⟨text, _⟩, nonempty⟩ := Element.spread_iff.mp spread
    obtain ⟨pieces, _⟩ := markupAll_trimmedAll_ne_nil nonempty
    have noText : optionalMarkup e.head.text = [] := by
      rw [text]
      rfl
    -- after the opening tag stands a line break on lines, and a tag without
    have starts := (appendable_markupAll e.children obeys.2.2).starts
    obtain ⟨first, others, written⟩ := List.exists_cons_of_ne_nil pieces
    rw [Element.indented, spread, if_neg Bool.false_ne_true, Element.markup, Head.around_some,
      optionalMarkup_indentation, Element.markup, Head.around_of_ne_nil _ pieces, noText,
      written] at same
    have breaks : lineBreak 1 = first := (List.cons.inj (List.cons.inj same).2).1
    have notRun := starts first (by rw [written]; rfl)
    rw [← breaks] at notRun
    cases notRun
  · intro unspread
    rw [Element.indented, if_pos unspread]

/-- An element that layout leaves as it stands, and that is not hollow, is left so again without its
empty texts, unless all its text nodes are empty. -/
theorem Element.unspread_trimmed_iff {e : Element} (solid : e.isHollow = false)
    (unspread : e.unspread = true) :
    e.trimmed.unspread = true ↔ (hasMixedText e.head e.children = true → e.ownText ≠ "") := by
  rw [← Bool.not_eq_false, Element.spread_trimmed_iff]
  constructor
  · intro shown mixed empty
    have childless : e.children = [] := by
      by_contra nonempty
      exact shown ⟨empty, nonempty⟩
    have filled := Element.isHollow_eq_false_iff.mp solid childless
    have text : e.head.text = none :=
      (trim_eq_self filled).symm.trans (trim_eq_none_iff.mpr (ownText_eq_empty_iff.mp empty).1)
    rw [hasMixedText, text, childless] at mixed
    cases mixed
  · rintro filled ⟨empty, nonempty⟩
    rcases Bool.or_eq_true_iff.mp unspread with mixed | childless
    · exact filled mixed empty
    · exact nonempty (List.isEmpty_iff.mp childless)

/-- The line breaks in an element that was spread over lines are text, so that layout leaves it as
it stands. -/
theorem Element.unspread_indented {e : Element} (spread : e.unspread = false) :
    e.indented.trimmed.unspread = true := by
  have text : e.indented.head.text = some (indentation 1) := by
    rw [Element.indented, spread]
    rfl
  rw [← Bool.not_eq_false, Element.spread_trimmed_iff]
  rintro ⟨empty, _⟩
  have none := (ownText_eq_empty_iff.mp empty).1
  rw [text] at none
  exact indentation_ne_empty 1 none

/-- An element that was read again from its lines is written as these lines again, on lines or not,
exactly if no element in it was hollow and its own text nodes, if it had any, were not all empty. -/
theorem Element.markup_relaid_iff {e : Element}
    (obeys : e.indented.trimmed.Obeys denotedLaw []) :
    e.indented.trimmed.markup = e.indented.markup ∧
        e.indented.trimmed.indented.markup = e.indented.markup ↔
      (∀ inner ∈ e.elements, inner.isHollow = false) ∧
        (hasMixedText e.head e.children = true → e.ownText ≠ "") := by
  rw [Element.markup_trimmed_iff, Element.solid_indented_iff]
  refine and_congr_right fun solid => ?_
  have written := Element.markup_trimmed_iff.mpr (Element.solid_indented_iff.mpr solid)
  rw [← written, Element.markup_indented_eq_iff obeys]
  cases spread : e.unspread with
  | true =>
    have same : e.indented = e := by rw [Element.indented, if_pos spread]
    rw [same]
    exact Element.unspread_trimmed_iff (solid e List.mem_cons_self) spread
  | false =>
    obtain ⟨notMixed, _⟩ := Bool.or_eq_false_iff.mp spread
    refine iff_of_true (Element.unspread_indented spread) fun mixed => ?_
    rw [notMixed] at mixed
    cases mixed

/-! ## Data -/

/-- A comment or an instruction in an element is not all that the element has: there is an
attribute, a child element or some text beside it. -/
def Element.Accompanied (e : Element) : Prop :=
  (∃ node ∈ e.children, node.element? = none) →
    e.head.attributes ≠ [] ∨ e.childElements ≠ [] ∨ e.ownText ≠ ""

/-- An element with attributes or child elements is read without its text. -/
theorem Head.value_of_ne {head : Head} {children : List (String × Value)}
    (more : head.attributes ≠ [] ∨ children ≠ []) (text other : String)
    (leading : Option String) :
    { head with text := leading }.value text children = head.value other children := by
  have notAlone : (head.attributes.isEmpty && children.isEmpty) = false := by
    rw [Bool.and_eq_false_iff, List.isEmpty_eq_false_iff, List.isEmpty_eq_false_iff]
    exact more
  rw [Head.value, Head.value, notAlone]
  rfl

/-- An element that is spread over lines has attributes or child elements, where comments and
instructions are accompanied. -/
theorem Element.Accompanied.shown {e : Element} (accompanied : e.Accompanied)
    (spread : e.unspread = false) : e.head.attributes ≠ [] ∨ namedValues e.children ≠ [] := by
  have values : namedValues e.children ≠ [] ↔ e.childElements ≠ [] := by
    rw [namedValues_eq, keyed, List.map_map, ne_eq, List.map_eq_nil_iff]
    exact Iff.rfl
  rw [values]
  by_cases aside : ∃ node ∈ e.children, node.element? = none
  · rcases accompanied aside with attributes | elements | text
    · exact .inl attributes
    · exact .inr elements
    · exact absurd (Element.ownText_of_spread spread) text
  · obtain ⟨node, rest, children⟩ :=
      List.exists_cons_of_ne_nil (Element.spread_iff.mp spread).2
    have member : node ∈ e.children := by
      rw [children]
      exact List.mem_cons_self
    obtain ⟨child, isElement⟩ := Option.ne_none_iff_exists'.mp fun none =>
      aside ⟨node, member, none⟩
    exact .inr (List.ne_nil_of_mem (List.mem_filterMap.mpr ⟨node, member, isElement⟩))

@[simp] theorem Node.namedValue?_withTail (tail : Option String) (node : Node) :
    (node.withTail tail).namedValue? = node.namedValue? := by
  cases node with
  | _ => rfl

mutual

/-- An indented node is read as the same data as the node, where comments and instructions are
accompanied. -/
theorem Node.namedValue?_indented (node : Node) (level : Nat)
    (accompanied : ∀ e ∈ node.elements, e.Accompanied) :
    (node.indented level).namedValue? = node.namedValue? := by
  cases node with
  | element head children tail =>
    obtain ⟨own, inside⟩ := List.forall_mem_cons.mp accompanied
    have values := namedValues_indentedAll children level inside
    rw [Node.indented]
    split
    · rfl
    · next spread =>
      have shown := own.shown (Bool.eq_false_iff.mpr spread)
      rw [Node.namedValue?, Node.namedValue?, values, Head.value_of_ne shown]
  | comment content tail => rfl
  | instruction target content tail => rfl

/-- So are the children of an element. -/
theorem namedValues_indentedAll (nodes : List Node) (level : Nat)
    (accompanied : ∀ e ∈ elementsAmong nodes, e.Accompanied) :
    namedValues (indentedAll level nodes) = namedValues nodes := by
  cases nodes with
  | nil => rfl
  | cons node rest =>
    obtain ⟨first, others⟩ := List.forall_mem_append.mp accompanied
    rw [indentedAll, namedValues, namedValues, Node.namedValue?_withTail,
      node.namedValue?_indented (level + 1) first, namedValues_indentedAll rest level others]

end

/-- An indented tree is read as the same data as the tree, where comments and instructions are
accompanied. -/
theorem Element.rootValue_indented {e : Element}
    (accompanied : ∀ inner ∈ e.elements, inner.Accompanied) :
    e.indented.rootValue = e.rootValue := by
  have read : ∀ e : Element, e.node.namedValue? = some (e.name.text, e.value) := fun _ => rfl
  have same := e.node.namedValue?_indented 0 accompanied
  rw [← node_indented, read, read] at same
  obtain ⟨name, value⟩ := Prod.mk.inj (Option.some.inj same)
  rw [rootValue, rootValue, name, value]

end Xml

namespace Document

/-- A document is written on lines as the indented document is written as it stands. -/
theorem renderPretty_eq {d : Document} {root : Element} (rooted : d.root = some root) :
    d.renderPretty = (ofRoot root.indented).render := by
  have written : (ofRoot root.indented).render =
      standardDeclaration ++ "\n" ++ (renderAll root.indented.markup ++ "\n") := rfl
  rw [written, root.markup_indented, renderPretty, renderWith, markup, rooted]
  rfl

/-- Documents are written with the same characters exactly if their trees have the same pieces. -/
theorem render_eq_iff {e other : Element} (obeys : e.Obeys denotedLaw [])
    (obeysToo : other.Obeys denotedLaw []) :
    (ofRoot e).render = (ofRoot other).render ↔ e.markup = other.markup := by
  have text : ∀ e : Element, (ofRoot e).render.toList =
      standardDeclaration.toList ++ '\n' :: (e.markup.flatMap Markup.render ++ ['\n']) := by
    intro e
    show (standardDeclaration ++ "\n" ++ (renderAll e.markup ++ "\n")).toList = _
    simp only [String.toList_append, renderAll, String.toList_ofList, List.append_assoc]
    rfl
  rw [← String.toList_inj, text, text, List.append_cancel_left_eq, List.cons.injEq,
    List.append_cancel_right_eq]
  constructor
  · rintro ⟨_, same⟩
    exact Element.markup_eq_of_render obeys obeysToo same
  · exact fun same => ⟨rfl, congrArg _ same⟩

/-- A document whose tree obeys the law of what was read is read again from its lines as the
indented tree, without its empty texts, if the last remark on its markup is no objection. -/
theorem read_renderPretty {d : Document} {root : Element} (rooted : d.root = some root)
    (obeys : root.Obeys readLaw []) (levels : root.levels ≤ depthLimit) :
    read .faithful d.renderPretty =
      if stands root.lastRemark then .ok (.ofRoot root.indented.trimmed)
      else .error .malformedMarkup := by
  have deep : root.indented.levels ≤ depthLimit := by
    rw [root.levels_indented]
    exact levels
  rw [renderPretty_eq rooted, ← root.lastRemark_indented]
  exact read_render rfl obeys.indented deep

/-- What is read from the lines of a document is written as these lines again, on lines or not,
exactly if no element of the document is hollow and the text nodes of its root, if it has any, are
not all empty. -/
theorem render_renderPretty_iff {d left : Document} {root : Element} (rooted : d.root = some root)
    (obeys : root.Obeys readLaw []) (levels : root.levels ≤ depthLimit)
    (reread : read .faithful d.renderPretty = .ok left) :
    left.render = d.renderPretty ∧ left.renderPretty = d.renderPretty ↔
      (∀ e ∈ root.elements, e.isHollow = false) ∧
        (hasMixedText root.head root.children = true → root.ownText ≠ "") := by
  have loaded : left.Loaded := ⟨_, _, reread⟩
  rw [read_renderPretty rooted obeys levels] at reread
  split at reread
  · cases reread
    have again := loaded.obeys root.indented.trimmed rfl
    rw [renderPretty_eq rooted, renderPretty_eq rfl,
      render_eq_iff again.denoted obeys.indented.denoted,
      render_eq_iff again.indented.denoted obeys.indented.denoted]
    exact Element.markup_relaid_iff again.denoted
  · cases reread

/-- What is read from the lines of a document is read as the same data, where comments and
instructions are accompanied. -/
theorem toValue_renderPretty {d left : Document} {root : Element} (rooted : d.root = some root)
    (obeys : root.Obeys readLaw []) (levels : root.levels ≤ depthLimit)
    (reread : read .faithful d.renderPretty = .ok left)
    (accompanied : ∀ e ∈ root.elements, e.Accompanied) : left.toValue = d.toValue := by
  rw [read_renderPretty rooted obeys levels] at reread
  split at reread
  · cases reread
    rw [toValue, toValue, rooted]
    exact (Element.rootValue_trimmed _).trans (Element.rootValue_indented accompanied)
  · cases reread

/-- A quiet tree has no empty texts. -/
theorem filled_of_quiet {root : Element} (quiet : root.Obeys quietLaw []) :
    (∀ e ∈ root.elements, e.isHollow = false) ∧
      (hasMixedText root.head root.children = true → root.ownText ≠ "") := by
  constructor
  · intro e member
    obtain ⟨_, obeys⟩ := Node.Obeys.elements root.node (Element.obeys_node.mpr quiet) e member
    exact Element.isHollow_eq_false_iff.mpr fun _ => obeys.2.1.2
  · intro mixed empty
    obtain ⟨leading, tails⟩ := Element.ownText_eq_empty_iff.mp empty
    have noText : root.head.text = none :=
      (trim_eq_self quiet.2.1.2).symm.trans (trim_eq_none_iff.mpr leading)
    have noTails : ∀ node ∈ root.children, node.tail = none := by
      intro node member
      have obeys := allObey_iff.mp quiet.2.2 node member
      have filled : node.tail ≠ some "" := by
        cases node with
        | _ => exact obeys.2.2
      exact (trim_eq_self filled).symm.trans (trim_eq_none_iff.mpr (tails node member))
    rw [hasMixedText, noText, Option.isSome_none, Bool.false_or, List.any_eq_true] at mixed
    obtain ⟨node, member, some⟩ := mixed
    rw [noTails node member] at some
    cases some

/-- A document that was read, or built from data without namespaces, and then written to, is read
again from its lines as the indented tree, without its empty texts, if the last remark on its markup
is no objection. What is read is written as the same lines again, on lines or not, exactly if no
element of the document is hollow and the text nodes of its root, if it has any, are not all empty;
and it is read as the same data where comments and instructions are accompanied. A document that was
built has no empty texts and calls for no remark. As without layout, no attribute called `xmlns`
must have been set. -/
theorem read_renderPretty_assignAll {d : Document} (origin : d.Loaded ∨ d.BuiltPlain)
    (writes : List (Data.Value × Data.Value)) {root : Element}
    (rooted : (d.assignAll writes).root = some root) (levels : root.levels ≤ depthLimit)
    (lacks : root.Lacks (.bare "xmlns")) :
    read .faithful (d.assignAll writes).renderPretty =
        (if stands root.lastRemark then .ok (.ofRoot root.indented.trimmed)
          else .error .malformedMarkup) ∧
      (∀ left, read .faithful (d.assignAll writes).renderPretty = .ok left →
        (left.render = (d.assignAll writes).renderPretty ∧
            left.renderPretty = (d.assignAll writes).renderPretty ↔
          (∀ e ∈ root.elements, e.isHollow = false) ∧
            (hasMixedText root.head root.children = true → root.ownText ≠ "")) ∧
        ((∀ e ∈ root.elements, e.Accompanied) →
          left.toValue = (d.assignAll writes).toValue)) ∧
      (d.BuiltPlain → stands root.lastRemark = true ∧
        (∀ e ∈ root.elements, e.isHollow = false) ∧
          (hasMixedText root.head root.children = true → root.ownText ≠ "")) := by
  have obeys := (denoted_assignAll origin writes root rooted).read lacks
  refine ⟨read_renderPretty rooted obeys levels, fun left reread => ⟨?_, ?_⟩, fun built => ?_⟩
  · exact render_renderPretty_iff rooted obeys levels reread
  · exact toValue_renderPretty rooted obeys levels reread
  · have quiet := built.assignAll writes root rooted
    refine ⟨?_, filled_of_quiet quiet⟩
    rw [quiet.quiet lacks]
    rfl

/-- A note with a comment that was given an entry is read again from its lines with the same data,
and is written as these lines again. -/
theorem read_renderPretty_assignAll_note :
    ∃ d written left, read .faithful "<a x=\"1\"><!--c--></a>" = .ok d ∧
      d.assignAll [(.text "/a/b", .text "<&>")] = written ∧
      read .faithful written.renderPretty = .ok left ∧ left.render = written.renderPretty ∧
      left.renderPretty = written.renderPretty ∧ left.toValue = written.toValue := by
  have loaded : read .faithful "<a x=\"1\"><!--c--></a>" = .ok (.ofRoot
      ⟨⟨.bare "a", "", [], [⟨.bare "x", "", "1"⟩], none⟩, [.comment "c" none]⟩) := rfl
  have written : Document.assignAll [(.text "/a/b", .text "<&>")] (.ofRoot
        ⟨⟨.bare "a", "", [], [⟨.bare "x", "", "1"⟩], none⟩, [.comment "c" none]⟩) =
      .ofRoot ⟨⟨.bare "a", "", [], [⟨.bare "x", "", "1"⟩], none⟩,
        [.comment "c" none, .element ⟨.bare "b", "", [], [], some "<&>"⟩ [] none]⟩ := rfl
  have lacks : Element.Lacks (.bare "xmlns") ⟨⟨.bare "a", "", [], [⟨.bare "x", "", "1"⟩], none⟩,
        [.comment "c" none, .element ⟨.bare "b", "", [], [], some "<&>"⟩ [] none]⟩ :=
    ⟨List.forall_mem_singleton.mpr (by decide), trivial,
      ⟨fun _ member => absurd member List.not_mem_nil, trivial⟩, trivial⟩
  have again := read_renderPretty_assignAll (.inl ⟨_, _, loaded⟩)
    [(.text "/a/b", .text "<&>")] (congrArg root written) (by decide) lacks
  obtain ⟨relaid, data⟩ := again.2.1 _ again.1
  have filled := relaid.mpr ⟨by decide, fun mixed => absurd mixed Bool.false_ne_true⟩
  refine ⟨_, _, _, loaded, rfl, again.1, filled.1, filled.2, data ?_⟩
  refine List.forall_mem_cons.mpr ⟨fun _ => .inl (List.cons_ne_nil _ _),
    List.forall_mem_singleton.mpr ?_⟩
  rintro ⟨_, none, _⟩
  exact absurd none List.not_mem_nil

/-- Three documents that are not read and written again as they were. What follows the first calls
for a remark that outweighs the one on its identifier, and is not written. The root of the second is
hollow, and that of the third has an empty text before its child. Both texts are gone when they are
read again, and then the second is written with one tag, and the third is spread over lines. -/
theorem read_renderPretty_differs :
    (∃ d root, read .faithful "<a xml:id=\"1\"/><?xml-x?>" = .ok d ∧ d.root = some root ∧
      root.levels ≤ depthLimit ∧ root.Lacks (.bare "xmlns") ∧
      read .faithful d.renderPretty = .error .malformedMarkup) ∧
    (∃ d root left, read .faithful "<a><![CDATA[]]></a>" = .ok d ∧ d.root = some root ∧
      root.levels ≤ depthLimit ∧ root.Lacks (.bare "xmlns") ∧
      read .faithful d.renderPretty = .ok left ∧ left.render ≠ d.renderPretty) ∧
    ∃ d root left, read .faithful "<a><![CDATA[]]><b/></a>" = .ok d ∧ d.root = some root ∧
      root.levels ≤ depthLimit ∧ root.Lacks (.bare "xmlns") ∧
      read .faithful d.renderPretty = .ok left ∧ left.render = d.renderPretty ∧
      left.renderPretty ≠ d.renderPretty := by
  have noAttributes : ∀ a ∈ ([] : List Attribute), a.name ≠ .bare "xmlns" :=
    fun _ member => absurd member List.not_mem_nil
  refine ⟨⟨.ofRoot ⟨⟨.bare "a", "", [], [⟨⟨xmlNamespace, "id"⟩, "xml", "1"⟩], none⟩, []⟩, _, rfl,
      rfl, by decide, ⟨List.forall_mem_singleton.mpr (by decide), trivial⟩, rfl⟩,
    ⟨.ofRoot ⟨⟨.bare "a", "", [], [], some ""⟩, []⟩, _,
      .ofRoot ⟨⟨.bare "a", "", [], [], none⟩, []⟩, rfl, rfl, by decide, ⟨noAttributes, trivial⟩,
      rfl, by decide⟩,
    ⟨.ofRoot ⟨⟨.bare "a", "", [], [], some ""⟩,
        [.element ⟨.bare "b", "", [], [], none⟩ [] none]⟩, _,
      .ofRoot ⟨⟨.bare "a", "", [], [], none⟩,
        [.element ⟨.bare "b", "", [], [], none⟩ [] none]⟩, rfl, rfl, by decide,
      ⟨noAttributes, ⟨noAttributes, trivial⟩, trivial⟩, rfl, rfl, by decide⟩⟩

end Document

end XmlGraft
