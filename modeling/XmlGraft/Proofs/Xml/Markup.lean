import XmlGraft.Proofs.Xml.Denoted
import XmlGraft.Proofs.Xml.Rendered

/-!
# Markup of a tree — it can be written after anything

The pieces of a tree that obeys the law of what markup denotes can be written, and no two runs of
characters in them stand side by side; since they begin with a tag, neither do they where they
follow other pieces (`Appendable`). So the text of such a tree is scanned as its pieces
(`scan_markup`).
-/

namespace XmlGraft.Xml

/-- Pieces that can be written after any others. -/
structure Appendable (pieces : List Markup) : Prop where
  renderable : ∀ piece ∈ pieces, piece.Renderable
  spaced : Spaced pieces
  starts : ∀ piece ∈ pieces.head?, piece.isRun = false

/-- No pieces can be written anywhere. -/
theorem appendable_nil : Appendable [] :=
  ⟨fun _ member => absurd member List.not_mem_nil, List.isChain_nil, fun _ none => nomatch none⟩

/-- A piece that is no run of characters can be written anywhere. -/
theorem appendable_singleton {piece : Markup} (renderable : piece.Renderable)
    (notRun : piece.isRun = false) : Appendable [piece] :=
  ⟨List.forall_mem_singleton.mpr renderable, List.isChain_singleton piece, by
    rintro _ ⟨⟩
    exact notRun⟩

/-- What can be written after anything can be written after pieces that can. -/
theorem Appendable.append {pieces more : List Markup} (before : Appendable pieces)
    (after : Appendable more) : Appendable (pieces ++ more) := by
  refine ⟨List.forall_mem_append.mpr ⟨before.renderable, after.renderable⟩,
    List.isChain_append.mpr ⟨before.spaced, after.spaced,
      fun _ _ next first _ => after.starts next first⟩, ?_⟩
  cases pieces with
  | nil => exact after.starts
  | cons piece rest => exact before.starts

/-! ## Text -/

/-- The pieces of a text can be written, and no two runs of characters stand side by side. -/
theorem textMarkup_spaced {cs : List Char} (all : ∀ c ∈ cs, isXmlChar c = true) :
    (∀ piece ∈ textMarkup cs, piece.Renderable) ∧ Spaced (textMarkup cs) := by
  induction cs with
  | nil => exact ⟨fun _ member => absurd member List.not_mem_nil, List.isChain_nil⟩
  | cons c rest ih =>
    obtain ⟨isChar, others⟩ := List.forall_mem_cons.mp all
    obtain ⟨renderable, spaced⟩ := ih others
    rw [textMarkup]
    by_cases escaped : escapedInText c = true
    · rw [if_pos escaped]
      refine ⟨List.forall_mem_cons.mpr ⟨escaped, renderable⟩, ?_⟩
      exact List.isChain_cons.mpr ⟨fun _ _ no => (nomatch no), spaced⟩
    · rw [if_neg escaped]
      have plain : isXmlChar c = true ∧ escapedInText c = false :=
        ⟨isChar, Bool.eq_false_iff.mpr escaped⟩
      split
      · next run more same =>
        rw [same] at renderable spaced
        obtain ⟨first, others⟩ := List.forall_mem_cons.mp renderable
        refine ⟨List.forall_mem_cons.mpr
          ⟨⟨List.cons_ne_nil c run, List.forall_mem_cons.mpr ⟨plain, first.2⟩⟩, others⟩, ?_⟩
        exact List.isChain_cons.mpr (List.isChain_cons.mp spaced)
      · next notRun =>
        refine ⟨List.forall_mem_cons.mpr
          ⟨⟨List.cons_ne_nil c [], List.forall_mem_singleton.mpr plain⟩, renderable⟩, ?_⟩
        refine List.isChain_cons.mpr ⟨fun next first _ => ?_, spaced⟩
        cases next with
        | chars run =>
          obtain ⟨more, same⟩ := List.head?_eq_some_iff.mp first
          exact absurd same (notRun run more)
        | _ => rfl

/-- A text can be written after a piece that is no run of characters. -/
theorem Appendable.withText {pieces : List Markup} {piece : Markup}
    (before : Appendable (pieces ++ [piece])) (notRun : piece.isRun = false)
    {text : Option String} (writable : Writable text) :
    Appendable (pieces ++ [piece] ++ optionalMarkup text) := by
  have all : ∀ c ∈ (textOf text).toList, isXmlChar c = true := by
    cases text with
    | none => exact fun _ member => absurd member List.not_mem_nil
    | some t => exact List.all_eq_true.mp (writable t rfl)
  obtain ⟨renderable, spaced⟩ := textMarkup_spaced all
  refine ⟨List.forall_mem_append.mpr ⟨before.renderable, renderable⟩,
    List.isChain_append.mpr ⟨before.spaced, spaced, ?_⟩, ?_⟩
  · intro last isLast _ _ isRun
    rw [List.getLast?_append, List.getLast?_singleton, Option.some_or] at isLast
    cases isLast
    rw [notRun] at isRun
    cases isRun
  · cases pieces with
    | nil => exact before.starts
    | cons first rest => exact before.starts

/-! ## Trees -/

/-- The pieces of an element around others end in a tag, and can be written after anything. -/
theorem Head.Denoted.around_appendable {above : List Declaration} {head : Head}
    (denoted : head.Denoted above) (writable : Writable head.text) {inner : List Markup}
    (appendable : Appendable inner) :
    ∃ pieces tag, head.around inner = pieces ++ [tag] ∧ tag.isRun = false ∧
      Appendable (pieces ++ [tag]) := by
  unfold Head.around
  split
  · exact ⟨[], _, rfl, rfl, appendable_singleton ⟨denoted.tag, denoted.entries⟩ rfl⟩
  · have opening : Appendable ([] ++ [.opening head.tag head.entries false]) :=
      appendable_singleton ⟨denoted.tag, denoted.entries⟩ rfl
    have closing : Appendable [.closing head.tag] := appendable_singleton denoted.tag rfl
    exact ⟨_, _, rfl, rfl, ((opening.withText rfl writable).append appendable).append closing⟩

mutual

/-- The pieces of a node that obeys the law can be written after anything. -/
theorem Node.appendable_markup (node : Node) {above : List Declaration}
    (obeys : node.Obeys denotedLaw above) : Appendable node.markup := by
  cases node with
  | element head children tail =>
    obtain ⟨⟨denoted, text, inside⟩, writable⟩ := obeys
    obtain ⟨pieces, tag, around, notRun, appendable⟩ :=
      Head.Denoted.around_appendable denoted text (appendable_markupAll children inside)
    rw [Node.markup, around]
    exact appendable.withText notRun writable
  | comment content tail =>
    have comment : Appendable ([] ++ [.comment content]) := appendable_singleton obeys.1 rfl
    exact comment.withText rfl obeys.2
  | instruction target content tail =>
    have instruction : Appendable ([] ++ [.instruction target content]) :=
      appendable_singleton obeys.1 rfl
    exact instruction.withText rfl obeys.2

/-- So can those of nodes side by side. -/
theorem appendable_markupAll (nodes : List Node) {above : List Declaration}
    (obey : AllObey denotedLaw above nodes) : Appendable (markupAll nodes) := by
  cases nodes with
  | nil => exact appendable_nil
  | cons node rest =>
    exact (node.appendable_markup obey.1).append (appendable_markupAll rest obey.2)

end

/-- The text of an element that obeys the law, on lines of its own, is scanned as its pieces
between two line breaks. -/
theorem Element.scan_markup {e : Element} (obeys : e.Obeys denotedLaw []) :
    Markup.scan ('\n' :: (e.markup.flatMap Markup.render ++ ['\n'])) =
      some (.chars ['\n'] :: (e.markup ++ [.chars ['\n']])) := by
  obtain ⟨pieces, tag, around, notRun, appendable⟩ :=
    obeys.1.around_appendable obeys.2.1 (appendable_markupAll e.children obeys.2.2)
  have lineBreak : Writable (some "\n") := by
    rintro _ ⟨⟩
    rfl
  have written : Appendable (e.markup ++ [.chars ['\n']]) := by
    rw [Element.markup, around]
    exact appendable.withText notRun lineBreak
  have text : '\n' :: (e.markup.flatMap Markup.render ++ ['\n']) =
      (.chars ['\n'] :: (e.markup ++ [.chars ['\n']])).flatMap Markup.render := by
    rw [List.flatMap_cons, List.flatMap_append]
    rfl
  rw [Markup.scan, text]
  refine scanMarkup_flatMap_render (List.forall_mem_cons.mpr ⟨?_, written.renderable⟩)
    (List.isChain_cons.mpr ⟨fun next first _ => written.starts next first, written.spaced⟩)
    (Nat.le_refl _)
  exact ⟨List.cons_ne_nil _ _, List.forall_mem_singleton.mpr ⟨rfl, rfl⟩⟩

/-- Elements that obey the law have the same pieces if they are written with the same characters. -/
theorem Element.markup_eq_of_render {e other : Element} (obeys : e.Obeys denotedLaw [])
    (obeysToo : other.Obeys denotedLaw [])
    (same : e.markup.flatMap Markup.render = other.markup.flatMap Markup.render) :
    e.markup = other.markup := by
  have scanned := scan_markup obeys
  rw [same, scan_markup obeysToo] at scanned
  exact (List.append_cancel_right (List.cons.inj (Option.some.inj scanned)).2).symm

end XmlGraft.Xml
