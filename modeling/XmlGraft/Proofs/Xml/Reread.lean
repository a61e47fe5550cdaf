import XmlGraft.Proofs.Xml.Loaded
import XmlGraft.Proofs.Xml.Markup

/-!
# Read again — the tree that the markup of a tree denotes

The pieces of a tree that obeys the law of what was read build that tree again
(`takeAll_markup`), up to one thing that pieces do not show: an empty text is written like none
(`Element.trimmed`). What the remarks on the way come to depends on the tree alone
(`Element.lastRemark`), and so whether it stands.

The proof goes along the tree. Between the pieces of a node and of what follows it, what has been
built differs from before by that node and by what was noted on the way (`Node.noted`), which never
touches the open elements.
-/

namespace XmlGraft.Xml

/-! ## What is written of a tree -/

/-- A text as it is read again: none, if it is empty. -/
def trim (text : Option String) : Option String := text.filter fun t => t ≠ ""

/-- A text is read again unless it is empty. -/
theorem trim_some (t : String) : trim (some t) = if t = "" then none else some t := by
  by_cases empty : t = ""
  · rw [empty]
    rfl
  · rw [trim, Option.filter_some, if_pos (decide_eq_true empty), if_neg empty]

/-- A text that was read again is read again as it is. -/
theorem trim_trim (text : Option String) : trim (trim text) = trim text := by
  simp only [trim, Option.filter_filter, Bool.and_self]

/-- A text has the same characters as it is read again. -/
theorem textOf_trim (text : Option String) : textOf (trim text) = textOf text := by
  cases text with
  | none => rfl
  | some t =>
    rw [trim_some]
    split
    · next empty => exact empty.symm
    · rfl

/-- A text is none as it is read again exactly if it has no characters. -/
theorem trim_eq_none_iff {text : Option String} : trim text = none ↔ textOf text = "" := by
  cases text with
  | none => exact iff_of_true rfl rfl
  | some t => simp [trim, textOf, Option.filter_eq_none_iff]

/-- The characters of a text are read again as the text is. -/
theorem trim_textOf (text : Option String) : trim (some (textOf text)) = trim text := by
  cases text with
  | none => rfl
  | some t => rfl

mutual

/-- A node without empty texts. -/
def Node.trimmed : Node → Node
  | .element head children tail =>
    .element { head with text := trim head.text } (trimmedAll children) (trim tail)
  | .comment content tail => .comment content (trim tail)
  | .instruction target content tail => .instruction target content (trim tail)

/-- Nodes side by side without empty texts. -/
def trimmedAll : List Node → List Node
  | [] => []
  | node :: rest => node.trimmed :: trimmedAll rest

end

/-- An element without empty texts. -/
def Element.trimmed (e : Element) : Element :=
  ⟨{ e.head with text := trim e.head.text }, trimmedAll e.children⟩

/-- The tail of a node without its empty texts. -/
theorem Node.tail_trimmed (node : Node) : node.trimmed.tail = trim node.tail := by
  cases node with
  | _ => rfl

/-- Nodes side by side lose their empty texts one by one. -/
theorem trimmedAll_eq_map (nodes : List Node) : trimmedAll nodes = nodes.map Node.trimmed := by
  induction nodes with
  | nil => rfl
  | cons node rest ih => rw [trimmedAll, ih, List.map_cons]

mutual

/-- How many levels of elements a node has. -/
def Node.levels : Node → Nat
  | .element _ children _ => levelsOf children + 1
  | .comment _ _ | .instruction _ _ _ => 0

/-- How many levels of elements some nodes have. -/
def levelsOf : List Node → Nat
  | [] => 0
  | node :: rest => max node.levels (levelsOf rest)

end

/-- How many levels of elements an element has, its own among them. -/
def Element.levels (e : Element) : Nat := levelsOf e.children + 1

/-- What has been built, with other open elements. -/
def Build.within (opened : List Opened) (b : Build) : Build := { b with opened := opened }

mutual

/-- What has been built after the remarks on a node were noted, among some declarations. -/
def Node.noted (above : List Declaration) : Node → Build → Build
  | .element head children _, b =>
    notedAll (head.declarations ++ above) children
      ((b.note (head.remarks above)).noteIdentifier head)
  | .comment _ _, b => b
  | .instruction target _ _, b => b.note (remarkOnTarget? target).toList

/-- What has been built after the remarks on nodes side by side were noted. -/
def notedAll (above : List Declaration) : List Node → Build → Build
  | [], b => b
  | node :: rest, b => notedAll above rest (node.noted above b)

end

/-- The last remark on the markup of an element, if there is any. -/
def Element.lastRemark (e : Element) : Option Remark := (e.node.noted [] .start).remark

/-! ## Pieces taken as they stand -/

/-- Where a document is read as it stands, it does not matter what comes next. -/
theorem takeAll_cons (piece : Markup) (rest : List Markup) (b : Build) :
    Build.takeAll .faithful (piece :: rest) b =
      (b.take .faithful piece none).bind (Build.takeAll .faithful rest) := by
  have same : b.take .faithful piece rest.head? = b.take .faithful piece none := by
    cases piece with
    | _ => rfl
  rw [Build.takeAll, same]
  cases b.take .faithful piece none with
  | none => rfl
  | some next => rfl

/-- To note an identifier does not touch the open elements. -/
theorem within_noteIdentifier (opened : List Opened) (head : Head) (b : Build) :
    (b.within opened).noteIdentifier head = (b.noteIdentifier head).within opened := by
  unfold Build.noteIdentifier
  split
  · rfl
  · rfl

/-! ## Text -/

namespace Opened

/-- Adds characters at the end of an open element; where there are none, no text either. -/
def addChars (cs : List Char) (o : Opened) : Opened :=
  if cs = [] then o else o.addText (String.ofList cs)

/-- Text may be added in two parts. -/
theorem addText_addText (text more : String) (o : Opened) :
    (o.addText text).addText more = o.addText (text ++ more) := by
  have joined : ∀ before, joinText (joinText before text) more = joinText before (text ++ more) :=
    fun before => congrArg some String.append_assoc
  obtain ⟨tag, head, children, declared, blanks⟩ := o
  cases children with
  | nil => simp only [addText, joined]
  | cons last others =>
    simp only [addText, Node.tail_withTail, Node.withTail_withTail, joined]

/-- Characters may be added in two parts. -/
theorem addChars_addChars (cs more : List Char) (o : Opened) :
    (o.addChars cs).addChars more = o.addChars (cs ++ more) := by
  by_cases first : cs = []
  · have none : o.addChars cs = o := if_pos first
    rw [none, first, List.nil_append]
  · by_cases second : more = []
    · rw [second, List.append_nil, addChars, if_pos rfl]
    · have both : cs ++ more ≠ [] := fun none => first (List.append_eq_nil_iff.mp none).1
      rw [addChars, addChars, addChars, if_neg first, if_neg second, if_neg both, addText_addText,
        String.ofList_append]

end Opened

/-- The pieces of a text add its characters. -/
theorem takeAll_textMarkup (cs : List Char) (rest : List Markup) (b : Build) (o : Opened)
    (others : List Opened) :
    Build.takeAll .faithful (textMarkup cs ++ rest) (b.within (o :: others)) =
      Build.takeAll .faithful rest (b.within (o.addChars cs :: others)) := by
  induction cs generalizing o with
  | nil => rfl
  | cons c cs ih =>
    -- what follows one character is what follows the others, with that one added
    have step : Build.takeAll .faithful (textMarkup (c :: cs) ++ rest) (b.within (o :: others)) =
        Build.takeAll .faithful (textMarkup cs ++ rest) (b.within (o.addChars [c] :: others)) := by
      rw [textMarkup]
      by_cases escaped : escapedInText c = true
      · rw [if_pos escaped, List.cons_append, takeAll_cons]
        rfl
      · have notReturn : c ≠ '\r' := by
          rintro rfl
          exact escaped rfl
        rw [if_neg escaped]
        split
        · next run more same =>
          rw [same, List.cons_append, List.cons_append, takeAll_cons, takeAll_cons]
          have joined : o.addText (String.ofList (unifyLineBreaks (c :: run))) =
              (o.addChars [c]).addText (String.ofList (unifyLineBreaks run)) := by
            rw [unifyLineBreaks_cons notReturn, Opened.addChars, if_neg (List.cons_ne_nil _ _),
              Opened.addText_addText, ← String.ofList_append]
            rfl
          show (some (b.within (o.addText (String.ofList (unifyLineBreaks (c :: run))) ::
            others))).bind _ = _
          rw [joined]
          rfl
        · rw [List.cons_append, takeAll_cons]
          have one : unifyLineBreaks [c] = [c] := unifyLineBreaks_cons notReturn []
          show (some (b.within (o.addText (String.ofList (unifyLineBreaks [c])) ::
            others))).bind _ = _
          rw [one]
          rfl
    rw [step, ih, Opened.addChars_addChars]
    rfl

/-- The text of a trimmed text is what it was. -/
theorem addChars_text (text : Option String) (o : Opened) :
    o.addChars (textOf text).toList =
      match trim text with
      | none => o
      | some t => o.addText t := by
  cases text with
  | none => rfl
  | some t =>
    by_cases empty : t = ""
    · rw [empty]
      rfl
    · have some : (textOf (some t)).toList ≠ [] := fun none =>
        empty (String.toList_inj.mp (none.trans rfl))
      have kept : trim (.some t) = .some t := by simp [trim, empty]
      rw [Opened.addChars, if_neg some, String.ofList_toList, kept]
      rfl

/-! ## Elements -/

/-- A node is written with at least one piece. -/
theorem Node.markup_ne_nil (node : Node) : node.markup ≠ [] := by
  cases node with
  | element head children tail =>
    rw [Node.markup, Head.around]
    split
    · exact List.cons_ne_nil _ _
    · exact List.cons_ne_nil _ _
  | comment content tail => exact List.cons_ne_nil _ _
  | instruction target content tail => exact List.cons_ne_nil _ _

/-- Only no nodes are written without pieces. -/
theorem markupAll_eq_nil {nodes : List Node} (none : markupAll nodes = []) : nodes = [] := by
  cases nodes with
  | nil => rfl
  | cons node rest => exact absurd (List.append_eq_nil_iff.mp none).1 node.markup_ne_nil

/-- The text of an element that was just opened is what it is given. -/
theorem addChars_opened (tag : String) (head : Head) (text : Option String)
    (declared : List Declaration) (blanks : BlankPolicy) :
    Opened.addChars (textOf text).toList ⟨tag, { head with text := none }, [], declared, blanks⟩ =
      ⟨tag, { head with text := trim text }, [], declared, blanks⟩ := by
  rw [addChars_text]
  cases trim text with
  | none => rfl
  | some t =>
    have joined : joinText none t = some t := congrArg some String.empty_append
    show (⟨tag, { head with text := joinText none t }, [], declared, blanks⟩ : Opened) = _
    rw [joined]

/-- The text after a child that has no tail is its tail. -/
theorem addChars_addChild {node : Node} (noTail : node.tail = none) (tail : Option String)
    (o : Opened) :
    (o.addChild node).addChars (textOf tail).toList = o.addChild (node.withTail (trim tail)) := by
  rw [addChars_text]
  cases trim tail with
  | none =>
    have same : node.withTail none = node := by
      cases node with
      | _ =>
        cases noTail
        rfl
    rw [same]
  | some t =>
    have joined : joinText node.tail t = some t := by
      rw [noTail]
      exact congrArg some String.empty_append
    exact congrArg (fun tail => o.addChild (node.withTail tail)) joined

/-- There is a place for an element inside some open elements: it lies not too deep, and there is no
root yet. -/
structure Build.Room (opened : List Opened) (b : Build) (levels : Nat) : Prop where
  depth : opened.length + levels ≤ depthLimit
  root : opened = [] → b.root = none

/-- What a denoted head is written as opens its element, or adds it where it is empty. -/
theorem openElement?_denoted {opened : List Opened} {b : Build} {levels : Nat}
    (room : b.Room opened (levels + 1)) {head : Head} (denoted : head.Denoted (declaredIn opened))
    (lacks : head.Lacks (.bare "xmlns")) (empty : Bool) :
    ∃ policy, (b.within opened).openElement? head.tag head.entries empty =
      if empty then
        (((b.note (head.remarks (declaredIn opened))).noteIdentifier head).within
          opened).addElement ⟨{ head with text := none }, []⟩
      else
        some (((b.note (head.remarks (declaredIn opened))).noteIdentifier head).within
          (⟨head.tag, { head with text := none }, [], head.declarations ++ declaredIn opened,
            policy⟩ :: opened)) := by
  refine ⟨((opened.head?.map Opened.blanks).getD BlankPolicy.judged).inside head.entries, ?_⟩
  have place : (depthLimit ≤ (b.within opened).opened.length ||
      ((b.within opened).opened.isEmpty && (b.within opened).root.isSome)) = false := by
    have deep : ¬depthLimit ≤ opened.length := by
      have depth := room.depth
      omega
    have noRoot : (opened.isEmpty && b.root.isSome) = false := by
      cases opened with
      | nil =>
        rw [room.root rfl]
        rfl
      | cons o others => rfl
    exact Bool.or_eq_false_iff.mpr ⟨decide_eq_false deep, noRoot⟩
  have denotes : Head.ofTag (b.within opened).declared head.tag head.entries =
      some ({ head with text := none }, head.remarks (declaredIn opened)) := denoted.ofTag lacks
  have noted : ((b.within opened).note (head.remarks (declaredIn opened))).noteIdentifier
        { head with text := none } =
      ((b.note (head.remarks (declaredIn opened))).noteIdentifier head).within opened :=
    within_noteIdentifier opened head (b.note (head.remarks (declaredIn opened)))
  unfold Build.openElement?
  rw [place, if_neg Bool.false_ne_true, denotes]
  dsimp only
  rw [noted]
  rfl

/-- What nodes side by side are written as adds them to an open element. -/
def Rereads (nodes : List Node) (opened : List Opened) : Prop :=
  ∀ (o : Opened) (b : Build) (rest : List Markup),
    AllObey readLaw o.declared nodes → opened.length + 1 + levelsOf nodes ≤ depthLimit →
      Build.takeAll .faithful (markupAll nodes ++ rest) (b.within (o :: opened)) =
        Build.takeAll .faithful rest ((notedAll o.declared nodes b).within
          ({ o with children := (trimmedAll nodes).reverse ++ o.children } :: opened))

/-- What an element is written as builds it, if that is so of its children. -/
theorem takeAll_around {opened : List Opened} {b : Build} {head : Head} {children : List Node}
    (room : b.Room opened (levelsOf children + 1)) (inside : Rereads children opened)
    (obeys : Element.Obeys readLaw (declaredIn opened) ⟨head, children⟩) (rest : List Markup) :
    Build.takeAll .faithful (head.around (markupAll children) ++ rest) (b.within opened) =
      ((((Node.element head children none).noted (declaredIn opened) b).within opened).addElement
        (Element.trimmed ⟨head, children⟩)).bind (Build.takeAll .faithful rest) := by
  obtain ⟨⟨denoted, lacks⟩, _, obey⟩ := obeys
  unfold Head.around
  split
  · next nothing =>
    obtain ⟨noText, noPieces⟩ := Bool.and_eq_true_iff.mp nothing
    obtain rfl := markupAll_eq_nil (List.isEmpty_iff.mp noPieces)
    have text : head.text = none := Option.isNone_iff_eq_none.mp noText
    have trimmed : Element.trimmed ⟨head, []⟩ = ⟨{ head with text := none }, []⟩ := by
      rw [Element.trimmed, text]
      rfl
    obtain ⟨_, opens⟩ := openElement?_denoted room denoted lacks true
    rw [List.singleton_append, takeAll_cons, trimmed]
    exact congrArg (fun built => built.bind (Build.takeAll .faithful rest)) opens
  · obtain ⟨policy, opens⟩ := openElement?_denoted room denoted lacks false
    have depth := room.depth
    rw [List.cons_append, List.cons_append, List.cons_append, takeAll_cons]
    show ((b.within opened).openElement? head.tag head.entries false).bind _ = _
    rw [opens, if_neg Bool.false_ne_true, Option.bind_some, List.append_assoc, List.append_assoc,
      optionalMarkup, takeAll_textMarkup, addChars_opened, inside _ _ _ obey (by omega),
      List.append_nil, List.singleton_append, takeAll_cons]
    have close : (⟨head.tag, { head with text := trim head.text }, (trimmedAll children).reverse,
        head.declarations ++ declaredIn opened, policy⟩ : Opened).close =
        Element.trimmed ⟨head, children⟩ :=
      congrArg (Element.mk _) (List.reverse_reverse _)
    show (if head.tag = head.tag then Build.addElement (Opened.close _) _ else none).bind _ = _
    rw [if_pos rfl, close]
    rfl

mutual

/-- What a node is written as adds it to an open element. -/
theorem takeAll_markup (node : Node) (o : Opened) (opened : List Opened) (b : Build)
    (rest : List Markup) (obeys : node.Obeys readLaw o.declared)
    (room : opened.length + 1 + node.levels ≤ depthLimit) :
    Build.takeAll .faithful (node.markup ++ rest) (b.within (o :: opened)) =
      Build.takeAll .faithful rest
        ((node.noted o.declared b).within (o.addChild node.trimmed :: opened)) := by
  cases node with
  | element head children tail =>
    have fits : b.Room (o :: opened) (levelsOf children + 1) := ⟨room, fun no => nomatch no⟩
    rw [Node.markup, List.append_assoc,
      takeAll_around fits (rereads children (o :: opened)) obeys.1]
    show Build.takeAll .faithful (optionalMarkup tail ++ rest) (Build.within
      (o.addChild (Element.trimmed ⟨head, children⟩).node :: opened) _) = _
    rw [optionalMarkup, takeAll_textMarkup, addChars_addChild rfl]
    rfl
  | comment content tail =>
    rw [Node.markup, List.cons_append, takeAll_cons]
    show Build.takeAll .faithful (optionalMarkup tail ++ rest)
      (Build.within (o.addChild (.comment content none) :: opened) _) = _
    rw [optionalMarkup, takeAll_textMarkup, addChars_addChild rfl]
    rfl
  | instruction target content tail =>
    rw [Node.markup, List.cons_append, takeAll_cons]
    show Build.takeAll .faithful (optionalMarkup tail ++ rest)
      (Build.within (o.addChild (.instruction target content none) :: opened)
        (b.note (remarkOnTarget? target).toList)) = _
    rw [optionalMarkup, takeAll_textMarkup, addChars_addChild rfl]
    rfl

/-- So do nodes side by side. -/
theorem rereads (nodes : List Node) (opened : List Opened) : Rereads nodes opened := by
  intro o b rest obey room
  cases nodes with
  | nil => rfl
  | cons node others =>
    rw [levelsOf] at room
    rw [markupAll, List.append_assoc,
      takeAll_markup node o opened b (markupAll others ++ rest) obey.1 (by omega),
      rereads others opened (o.addChild node.trimmed) _ rest obey.2 (by omega)]
    simp only [trimmedAll, List.reverse_cons, List.append_assoc, List.singleton_append]
    rfl

end

mutual

/-- To take note of remarks does not touch the root. -/
theorem root_noted (node : Node) (above : List Declaration) (b : Build) :
    (node.noted above b).root = b.root := by
  cases node with
  | element head children tail =>
    exact (root_notedAll children _ _).trans (Build.noteIdentifier_eq head _).2
  | comment content tail => rfl
  | instruction target content tail => rfl

/-- So it is with nodes side by side. -/
theorem root_notedAll (nodes : List Node) (above : List Declaration) (b : Build) :
    (notedAll above nodes b).root = b.root := by
  cases nodes with
  | nil => rfl
  | cons node rest => exact (root_notedAll rest above _).trans (root_noted node above b)

end

/-- The markup of an element on lines of its own builds it again, without its empty texts, if the
last remark on the way is no objection. -/
theorem Element.ofMarkup_markup {e : Element} (obeys : e.Obeys readLaw [])
    (levels : e.levels ≤ depthLimit) :
    Element.ofMarkup .faithful (.chars ['\n'] :: (e.markup ++ [.chars ['\n']])) =
      if stands e.lastRemark then some e.trimmed else none := by
  have room : Build.start.Room [] (levelsOf e.children + 1) := by
    refine ⟨?_, fun _ => rfl⟩
    rw [List.length_nil, Nat.zero_add]
    exact levels
  have built := takeAll_around room (rereads e.children []) obeys [.chars ['\n']]
  rw [ofMarkup, takeAll_cons]
  show (Build.takeAll .faithful (e.markup ++ [.chars ['\n']]) (Build.start.within [])).bind _ = _
  rw [Element.markup, built]
  have noRoot : (e.node.noted [] .start).root = none := root_noted e.node [] .start
  have added : (((Node.element e.head e.children none).noted (declaredIn []) .start).within
      []).addElement e.trimmed =
      some { (e.node.noted [] .start).within [] with root := some e.trimmed } :=
    if_pos (Option.isNone_iff_eq_none.mpr noRoot)
  rw [added]
  rfl

end XmlGraft.Xml
