import XmlGraft.Proofs.Document.Upheld
import XmlGraft.Proofs.Xml.Quiet

/-!
# Reloading — what a document denotes that was written

A document that was read, or built from data without namespaces, and then written to, is read again
as it was (`read_render_assignAll`). Two things can come between.

* An empty text is written like none, and is none when it is read again.
* The last remark on the way decides whether a document stands. A remark on what follows the root
  outweighs those on the tree, but is not written with it; so a document may stand whose tree alone
  does not (`read_render_differs`). A tree without namespaces calls for no remark, and stands.

A document with a document type declaration is not among those that were read. Such a declaration
can change how the tree is written, and would have to be written with it.
-/

namespace XmlGraft

open Xml Data XmlGraft.Path

namespace Document

/-- The document was read from a text, which has no document type declaration then. -/
def Loaded (d : Document) : Prop := ∃ mode text, read mode text = .ok d

/-- The document was built from data whose keys give no namespace. -/
def BuiltPlain (d : Document) : Prop :=
  ∃ value wrapped, value.wrap = .ok wrapped ∧ wrapped.Throughout Data.Unnamespaced ∧
    ofValue value = .ok d

/-- The characters after the standard declaration are those of the document. -/
theorem decodeDocument_standard (cs : List Char) :
    decodeDocument (standardDeclaration.toList ++ cs) = some cs := rfl

/-- A document whose tree obeys the law of what was read is read again as it was written,
without its empty texts, if the last remark on its markup is no objection. -/
theorem read_render {d : Document} {root : Element} (rooted : d.root = some root)
    (obeys : root.Obeys readLaw []) (levels : root.levels ≤ depthLimit) :
    read .faithful d.render =
      if stands root.lastRemark then .ok (.ofRoot root.trimmed) else .error .malformedMarkup := by
  have text : d.render.toList =
      standardDeclaration.toList ++ '\n' :: (root.markup.flatMap Markup.render ++ ['\n']) := by
    rw [render, renderWith, markup, rooted]
    simp only [String.toList_append, renderAll, String.toList_ofList, List.append_assoc]
    rfl
  have reread : Element.read .faithful d.render =
      if stands root.lastRemark then some root.trimmed else none := by
    unfold Element.read
    rw [text, decodeDocument_standard]
    show (Markup.scan _).bind _ = _
    rw [Element.scan_markup obeys.denoted, Option.bind_some, Element.ofMarkup_markup obeys levels]
  rw [read, reread]
  cases stands root.lastRemark with
  | true => rfl
  | false => rfl

/-- A document that was read obeys the law of what was read. -/
theorem Loaded.obeys {d : Document} (loaded : d.Loaded) : d.Obeys readLaw := by
  obtain ⟨mode, text, read⟩ := loaded
  unfold Document.read at read
  split at read
  · next root found =>
    cases read
    rintro _ ⟨⟩
    exact Element.obeys_read found
  · cases read

/-- A document that was read stands for markup. -/
theorem Loaded.denoted {d : Document} (loaded : d.Loaded) : d.Obeys denotedLaw :=
  fun root rooted => (loaded.obeys root rooted).denoted

/-- A document that was built without namespaces is quiet. -/
theorem BuiltPlain.obeys {d : Document} (builtPlain : d.BuiltPlain) : d.Obeys quietLaw := by
  obtain ⟨value, wrapped, wraps, unnamespaced, built⟩ := builtPlain
  exact obeys_ofValue closed_quietLaw built (bare_ofValue wraps unnamespaced built)

/-- A document that was built without namespaces stays quiet where it is written to. -/
theorem BuiltPlain.assignAll {d : Document} (builtPlain : d.BuiltPlain)
    (writes : List (Data.Value × Data.Value)) : (d.assignAll writes).Obeys quietLaw :=
  builtPlain.obeys.assignAll closed_quietLaw writes

/-- A document that was read, or built without namespaces, and then written to, stands for markup.
-/
theorem denoted_assignAll {d : Document} (origin : d.Loaded ∨ d.BuiltPlain)
    (writes : List (Data.Value × Data.Value)) : (d.assignAll writes).Obeys denotedLaw := by
  rcases origin with loaded | built
  · exact loaded.denoted.assignAll closed_denotedLaw writes
  · exact fun root rooted => (built.assignAll writes root rooted).of_quiet

/-- A document that was read, or built from data without namespaces, and then written to, is read
again as it was, without its empty texts, if the last remark on its markup is no objection; and a
document that was built calls for none. No attribute called `xmlns` must have been set, and since
attributes stay once they are set, that shows in the end. -/
theorem read_render_assignAll {d : Document} (origin : d.Loaded ∨ d.BuiltPlain)
    (writes : List (Data.Value × Data.Value)) {root : Element}
    (rooted : (d.assignAll writes).root = some root) (levels : root.levels ≤ depthLimit)
    (lacks : root.Lacks (.bare "xmlns")) :
    read .faithful (d.assignAll writes).render =
        (if stands root.lastRemark then .ok (.ofRoot root.trimmed) else .error .malformedMarkup) ∧
      (d.BuiltPlain → stands root.lastRemark = true) := by
  have obeys := denoted_assignAll origin writes root rooted
  refine ⟨read_render rooted (obeys.read lacks) levels, fun built => ?_⟩
  rw [(built.assignAll writes root rooted).quiet lacks]
  rfl

/-- A note that was read and given an entry is read again as it was then. -/
theorem read_render_assignAll_note :
    ∃ d left, read .faithful "<a x=\"1\">t</a>" = .ok d ∧
      d.assignAll [(.text "/a/b", .text "<&>")] = left ∧ read .faithful left.render = .ok left := by
  have loaded : read .faithful "<a x=\"1\">t</a>" = .ok (.ofRoot
      ⟨⟨.bare "a", "", [], [⟨.bare "x", "", "1"⟩], some "t"⟩, []⟩) := rfl
  have written : Document.assignAll [(.text "/a/b", .text "<&>")] (.ofRoot
        ⟨⟨.bare "a", "", [], [⟨.bare "x", "", "1"⟩], some "t"⟩, []⟩) =
      .ofRoot ⟨⟨.bare "a", "", [], [⟨.bare "x", "", "1"⟩], some "t"⟩,
        [.element ⟨.bare "b", "", [], [], some "<&>"⟩ [] none]⟩ := rfl
  have lacks : Element.Lacks (.bare "xmlns") ⟨⟨.bare "a", "", [], [⟨.bare "x", "", "1"⟩], some "t"⟩,
        [.element ⟨.bare "b", "", [], [], some "<&>"⟩ [] none]⟩ :=
    ⟨List.forall_mem_singleton.mpr (by decide),
      ⟨fun _ member => absurd member List.not_mem_nil, trivial⟩, trivial⟩
  have again := read_render_assignAll (.inl ⟨_, _, loaded⟩) [(.text "/a/b", .text "<&>")]
    (congrArg root written) (by decide) lacks
  refine ⟨_, _, loaded, rfl, again.1.trans ?_⟩
  rw [written]
  rfl

/-- Two documents that are not read again as they were. What follows the first calls for a remark
that outweighs the one on its identifier, and is not written. The second holds an empty text, which
is written like none. -/
theorem read_render_differs :
    (∃ d root, read .faithful "<a xml:id=\"1\"/><?xml-x?>" = .ok d ∧ d.root = some root ∧
      root.levels ≤ depthLimit ∧ root.Lacks (.bare "xmlns") ∧
      read .faithful d.render = .error .malformedMarkup) ∧
    ∃ d root left, read .faithful "<a><![CDATA[]]></a>" = .ok d ∧ d.root = some root ∧
      root.levels ≤ depthLimit ∧ root.Lacks (.bare "xmlns") ∧ root.head.text = some "" ∧
      read .faithful d.render = .ok (.ofRoot left) ∧ left.head.text = none := by
  refine ⟨⟨.ofRoot ⟨⟨.bare "a", "", [], [⟨⟨xmlNamespace, "id"⟩, "xml", "1"⟩], none⟩, []⟩, _, rfl,
      rfl, by decide, ⟨List.forall_mem_singleton.mpr (by decide), trivial⟩, rfl⟩,
    .ofRoot ⟨⟨.bare "a", "", [], [], some ""⟩, []⟩, _, ⟨⟨.bare "a", "", [], [], none⟩, []⟩, rfl,
      rfl, by decide, ⟨fun _ member => absurd member List.not_mem_nil, trivial⟩, rfl, rfl, rfl⟩

end Document

end XmlGraft
