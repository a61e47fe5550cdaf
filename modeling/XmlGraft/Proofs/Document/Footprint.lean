import XmlGraft.Proofs.Document.Focus
import XmlGraft.Proofs.Xml.Plain

/-!
# Footprints — which places of a tree a change may touch

A footprint lists places by their addresses: the elements that gain children, the attributes that
are written, the elements whose text is written, and those whose leading text is lost. An element is
*framed* by a footprint (`Element.Framed`) if a change leaves each of its nodes at its address, with
all that it was but for what the footprint lists (`Footprint.Keeps`). Children are only ever added,
after those that were there, and only elements are.

The small changes have small footprints (`framed_withText`, `framed_withHead`, `framed_append`), a
change below a child has the footprint that it has at that child (`framed_retarget`), and the
footprint of two changes one after the other is that of the one and the other (`Framed.trans`).
-/

namespace XmlGraft

open Xml

/-! ## Footprints -/

/-- Places of a tree that a change may touch. -/
structure Footprint where
  /-- Elements that gain children. -/
  grown : List Address := []
  /-- Attributes that are written, by the elements that own them. -/
  attributes : List (Address × Name) := []
  /-- Elements whose text is written, the tails of their children dropped. -/
  texts : List Address := []
  /-- Elements whose leading text is lost. -/
  lost : List Address := []

namespace Footprint

instance : Append Footprint where
  append f g := ⟨f.grown ++ g.grown, f.attributes ++ g.attributes, f.texts ++ g.texts,
    f.lost ++ g.lost⟩

/-- A footprint below a child, as one of the element. -/
def below (index : Nat) (f : Footprint) : Footprint :=
  ⟨f.grown.map (index :: ·), f.attributes.map fun mark => (index :: mark.1, mark.2),
    f.texts.map (index :: ·), f.lost.map (index :: ·)⟩

/-- Whether an attribute of the element at an address is not listed. -/
def spares (f : Footprint) (address : Address) (a : Attribute) : Bool :=
  decide ((address, a.name) ∉ f.attributes)

/-- A head is kept, but for attributes that are listed, and for its text if that is. -/
structure KeepsHead (f : Footprint) (address : Address) (head left : Head) : Prop where
  name : left.name = head.name
  nsPrefix : left.nsPrefix = head.nsPrefix
  declarations : left.declarations = head.declarations
  attributes : left.attributes.filter (f.spares address) =
    head.attributes.filter (f.spares address)
  text : left.text = head.text ∨ address ∈ f.texts ∨ address ∈ f.lost ∧ left.text = none

/-- Behind the children there are only further elements, and none unless they are listed. -/
structure KeepsChildren (f : Footprint) (address : Address) (children left : List Node) : Prop where
  length : left.length = children.length ∨ children.length < left.length ∧ address ∈ f.grown
  added : ∀ node ∈ left.drop children.length, node.element?.isSome

/-- A tail is kept, or dropped where the text of the parent is written. -/
def KeepsTail (f : Footprint) (address : Address) (tail left : Option String) : Prop :=
  left = tail ∨ left = none ∧ ∃ parent ∈ f.texts, ∃ index, address = parent ++ [index]

/-- The node at an address is kept, but for what is listed. -/
inductive Keeps (f : Footprint) (address : Address) : Node → Node → Prop
  | element {head left : Head} {children more : List Node} {tail leftTail : Option String}
    (keepsHead : f.KeepsHead address head left)
    (keepsChildren : f.KeepsChildren address children more)
    (keepsTail : f.KeepsTail address tail leftTail) :
    Keeps f address (.element head children tail) (.element left more leftTail)
  | comment {content : String} {tail leftTail : Option String}
    (keepsTail : f.KeepsTail address tail leftTail) :
    Keeps f address (.comment content tail) (.comment content leftTail)
  | instruction {target : String} {content tail leftTail : Option String}
    (keepsTail : f.KeepsTail address tail leftTail) :
    Keeps f address (.instruction target content tail) (.instruction target content leftTail)

/-! ## Keeping -/

variable {f g : Footprint} {address : Address}

theorem KeepsHead.refl (f : Footprint) (address : Address) (head : Head) :
    f.KeepsHead address head head := ⟨rfl, rfl, rfl, rfl, .inl rfl⟩

theorem KeepsChildren.refl (f : Footprint) (address : Address) (children : List Node) :
    f.KeepsChildren address children children := by
  refine ⟨.inl rfl, ?_⟩
  intro node member
  rw [List.drop_length] at member
  cases member

theorem KeepsTail.refl (f : Footprint) (address : Address) (tail : Option String) :
    f.KeepsTail address tail tail := .inl rfl

theorem Keeps.refl (f : Footprint) (address : Address) (node : Node) :
    f.Keeps address node node := by
  cases node with
  | element head children tail => exact .element (.refl ..) (.refl ..) (.refl ..)
  | comment content tail => exact .comment (.refl ..)
  | instruction target content tail => exact .instruction (.refl ..)

/-- A node that is kept is an element as before, if it was one. -/
theorem Keeps.isElement {node left : Node} (keeps : f.Keeps address node left)
    (isElement : node.element?.isSome) : left.element?.isSome := by
  cases keeps with
  | element => rfl
  | comment => cases isElement
  | instruction => cases isElement

/-! ## Two changes -/

theorem spares_append (f g : Footprint) (address : Address) (a : Attribute) :
    (f ++ g).spares address a = (f.spares address a && g.spares address a) := by
  show decide ((address, a.name) ∉ f.attributes ++ g.attributes) = _
  simp only [spares, List.mem_append, not_or, Bool.decide_and]

/-- Attributes that neither of two changes touches. -/
theorem filter_spares_append (f g : Footprint) (address : Address) (attributes : List Attribute) :
    attributes.filter ((f ++ g).spares address) =
      (attributes.filter (g.spares address)).filter (f.spares address) := by
  rw [List.filter_filter]
  exact List.filter_congr fun a _ => spares_append f g address a

theorem KeepsHead.trans {head between left : Head} (first : f.KeepsHead address head between)
    (second : g.KeepsHead address between left) : (f ++ g).KeepsHead address head left where
  name := second.name.trans first.name
  nsPrefix := second.nsPrefix.trans first.nsPrefix
  declarations := second.declarations.trans first.declarations
  attributes := by
    rw [filter_spares_append, filter_spares_append, second.attributes, List.filter_filter,
      List.filter_filter]
    have swap : ∀ attributes : List Attribute,
        attributes.filter (fun a => f.spares address a && g.spares address a) =
          (attributes.filter (f.spares address)).filter (g.spares address) := by
      intro attributes
      rw [List.filter_filter]
      exact List.filter_congr fun a _ => Bool.and_comm _ _
    rw [swap, swap, first.attributes]
  text := by
    rcases second.text with same | written | ⟨lost, empty⟩
    · rcases first.text with before | written | ⟨lost, empty⟩
      · exact .inl (same.trans before)
      · exact .inr (.inl (List.mem_append_left _ written))
      · exact .inr (.inr ⟨List.mem_append_left _ lost, same.trans empty⟩)
    · exact .inr (.inl (List.mem_append_right _ written))
    · exact .inr (.inr ⟨List.mem_append_right _ lost, empty⟩)

theorem KeepsTail.trans {tail between left : Option String}
    (first : f.KeepsTail address tail between) (second : g.KeepsTail address between left) :
    (f ++ g).KeepsTail address tail left := by
  rcases second with same | ⟨empty, parent, listed, index, stands⟩
  · rcases first with before | ⟨empty, parent, listed, index, stands⟩
    · exact .inl (same.trans before)
    · exact .inr ⟨same.trans empty, parent, List.mem_append_left _ listed, index, stands⟩
  · exact .inr ⟨empty, parent, List.mem_append_right _ listed, index, stands⟩

/-- The children that a first change added are elements after a second one too, if that leaves what
is an element an element. -/
theorem KeepsChildren.trans {children between left : List Node}
    (first : f.KeepsChildren address children between)
    (second : g.KeepsChildren address between left)
    (elements : ∀ (index : Nat) (before after : Node), between[index]? = some before →
      left[index]? = some after → before.element?.isSome → after.element?.isSome) :
    (f ++ g).KeepsChildren address children left where
  length := by
    rcases first.length with same | ⟨more, listed⟩
    · rcases second.length with sameToo | ⟨more, listed⟩
      · exact .inl (sameToo.trans same)
      · exact .inr ⟨by omega, List.mem_append_right _ listed⟩
    · have atLeast : between.length ≤ left.length := by
        rcases second.length with same | ⟨more, _⟩
        · omega
        · omega
      exact .inr ⟨by omega, List.mem_append_left _ listed⟩
  added := by
    intro node member
    obtain ⟨offset, found⟩ := List.mem_iff_getElem?.mp member
    rw [List.getElem?_drop] at found
    by_cases old : children.length + offset < between.length
    · -- a child that the first change added
      have before : between[children.length + offset]? = some between[children.length + offset] :=
        List.getElem?_eq_getElem old
      refine elements _ _ _ before found (first.added _ ?_)
      refine List.mem_iff_getElem?.mpr ⟨offset, ?_⟩
      rw [List.getElem?_drop, before]
    · refine second.added node (List.mem_iff_getElem?.mpr ?_)
      refine ⟨children.length + offset - between.length, ?_⟩
      rw [List.getElem?_drop, ← found]
      exact congrArg (left[·]?) (by omega)

/-! ## Below a child -/

theorem spares_below (f : Footprint) (index : Nat) (address : Address) :
    (f.below index).spares (index :: address) = f.spares address := by
  funext a
  simp only [spares, below, List.mem_map, Prod.mk.injEq, List.cons.injEq, true_and]
  refine decide_eq_decide.mpr (not_congr ?_)
  constructor
  · rintro ⟨mark, listed, rfl, same⟩
    rw [← same]
    exact listed
  · exact fun listed => ⟨_, listed, rfl, rfl⟩

theorem KeepsHead.below {head left : Head} (keeps : f.KeepsHead address head left) (index : Nat) :
    (f.below index).KeepsHead (index :: address) head left where
  name := keeps.name
  nsPrefix := keeps.nsPrefix
  declarations := keeps.declarations
  attributes := by
    rw [spares_below]
    exact keeps.attributes
  text := keeps.text.imp_right
    (Or.imp List.mem_map_of_mem (And.imp_left List.mem_map_of_mem))

theorem KeepsChildren.below {children left : List Node}
    (keeps : f.KeepsChildren address children left) (index : Nat) :
    (f.below index).KeepsChildren (index :: address) children left :=
  ⟨keeps.length.imp_right (And.imp_right List.mem_map_of_mem), keeps.added⟩

theorem KeepsTail.below {tail left : Option String} (keeps : f.KeepsTail address tail left)
    (index : Nat) : (f.below index).KeepsTail (index :: address) tail left := by
  rcases keeps with same | ⟨empty, parent, listed, last, rfl⟩
  · exact .inl same
  · exact .inr ⟨empty, index :: parent, List.mem_map_of_mem listed, last, rfl⟩

theorem Keeps.below {node left : Node} (keeps : f.Keeps address node left) (index : Nat) :
    (f.below index).Keeps (index :: address) node left := by
  cases keeps with
  | element keepsHead keepsChildren keepsTail =>
    exact .element (keepsHead.below index) (keepsChildren.below index) (keepsTail.below index)
  | comment keepsTail => exact .comment (keepsTail.below index)
  | instruction keepsTail => exact .instruction (keepsTail.below index)

end Footprint

/-! ## Framed elements -/

namespace Xml.Element

/-- A change from one element to another leaves each node at its address, and keeps it but for what
a footprint lists. -/
def Framed (f : Footprint) (e left : Element) : Prop :=
  ∀ address node, e.nodeAt? address = some node →
    ∃ after, left.nodeAt? address = some after ∧ f.Keeps address node after

/-- The nodes at and below a child depend on that child alone. -/
theorem nodeAt?_congr {e other : Element} {index : Nat}
    (same : other.children[index]? = e.children[index]?) (rest : Address) :
    other.nodeAt? (index :: rest) = e.nodeAt? (index :: rest) := by
  rw [nodeAt?, nodeAt?, same]

/-- The child at an index is found at the address of that index alone. -/
theorem nodeAt?_index (e : Element) (index : Nat) : e.nodeAt? [index] = e.children[index]? := by
  rw [nodeAt?]
  cases e.children[index]? with
  | none => rfl
  | some node => rfl

/-- The children of an element at an address are found there. -/
theorem nodeAt?_child {address : Address} {e : Element} {head : Head} {children : List Node}
    {tail : Option String} (found : e.nodeAt? address = some (.element head children tail))
    (index : Nat) : e.nodeAt? (address ++ [index]) = children[index]? := by
  induction address generalizing e with
  | nil =>
    cases found
    exact nodeAt?_index e index
  | cons first rest ih =>
    rw [nodeAt?] at found
    rw [List.cons_append, nodeAt?]
    cases child : e.children[first]? with
    | none =>
      rw [child] at found
      cases found
    | some node =>
      rw [child] at found
      cases rest with
      | nil =>
        cases found
        exact nodeAt?_index ⟨head, children⟩ index
      | cons next more =>
        cases node with
        | element inner inside innerTail => exact ih found
        | comment content innerTail => cases found
        | instruction target content innerTail => cases found

theorem Framed.refl (f : Footprint) (e : Element) : e.Framed f e :=
  fun address node found => ⟨node, found, .refl f address node⟩

/-- Two changes one after the other. -/
theorem Framed.trans {f g : Footprint} {e between left : Element} (first : e.Framed f between)
    (second : between.Framed g left) : e.Framed (f ++ g) left := by
  intro address node found
  obtain ⟨middle, foundMiddle, keeps⟩ := first address node found
  obtain ⟨after, foundAfter, keepsToo⟩ := second address middle foundMiddle
  refine ⟨after, foundAfter, ?_⟩
  cases keeps with
  | element keepsHead keepsChildren keepsTail =>
    cases keepsToo with
    | element keepsHeadToo keepsChildrenToo keepsTailToo =>
      refine .element (keepsHead.trans keepsHeadToo) (keepsChildren.trans keepsChildrenToo ?_)
        (keepsTail.trans keepsTailToo)
      -- that a child stays an element is what the second change keeps at the child's own address
      intro index before later foundBefore foundLater isElement
      rw [← nodeAt?_child foundMiddle] at foundBefore
      rw [← nodeAt?_child foundAfter] at foundLater
      obtain ⟨kept, foundKept, keepsChild⟩ := second _ before foundBefore
      rw [foundLater] at foundKept
      cases foundKept
      exact keepsChild.isElement isElement
  | comment keepsTail =>
    cases keepsToo with
    | comment keepsTailToo => exact .comment (keepsTail.trans keepsTailToo)
  | instruction keepsTail =>
    cases keepsToo with
    | instruction keepsTailToo => exact .instruction (keepsTail.trans keepsTailToo)

/-! ## Small changes -/

/-- A change of the head alone touches nothing below it. -/
theorem framed_withHead {f : Footprint} {e : Element} {left : Head}
    (keeps : f.KeepsHead [] e.head left) : e.Framed f ⟨left, e.children⟩ := by
  intro address node found
  cases address with
  | nil =>
    cases found
    exact ⟨_, rfl, .element keeps (.refl ..) (.refl ..)⟩
  | cons index rest =>
    exact ⟨node, (nodeAt?_congr rfl rest).trans found, .refl ..⟩

/-- Appending elements lets the element grow, and touches nothing else. -/
theorem framed_append {e : Element} {more : List Node} (some : more ≠ [])
    (elements : ∀ node ∈ more, node.element?.isSome) :
    e.Framed { grown := [[]] } ⟨e.head, e.children ++ more⟩ := by
  intro address node found
  cases address with
  | nil =>
    cases found
    refine ⟨_, rfl, .element (.refl ..) ⟨.inr ⟨?_, List.mem_singleton_self _⟩, ?_⟩ (.refl ..)⟩
    · have positive := List.length_pos_iff.mpr some
      rw [List.length_append]
      omega
    · rw [List.drop_left]
      exact elements
  | cons index rest =>
    have inside : index < e.children.length := by
      apply Nat.lt_of_not_le
      intro outside
      rw [nodeAt?, List.getElem?_eq_none outside] at found
      cases found
    refine ⟨node, ?_, .refl ..⟩
    rw [← found]
    exact nodeAt?_congr (List.getElem?_append_left inside) rest

/-- Setting the text of an element touches its text and the tails of its children. -/
theorem framed_withText (text : String) (e : Element) :
    e.Framed { texts := [[]] } (e.withText text) := by
  intro address node found
  cases address with
  | nil =>
    cases found
    refine ⟨_, rfl, .element ⟨rfl, rfl, rfl, rfl, .inr (.inl (List.mem_singleton_self _))⟩
      ⟨.inl (List.length_map ..), ?_⟩ (.refl ..)⟩
    intro node member
    rw [withText, List.drop_eq_nil_of_le (Nat.le_of_eq (List.length_map ..))] at member
    cases member
  | cons index rest =>
    rw [nodeAt?] at found
    rw [nodeAt?, withText, List.getElem?_map]
    cases child : e.children[index]? with
    | none =>
      rw [child] at found
      cases found
    | some inner =>
      rw [child] at found
      rw [Option.map_some]
      have dropped : ∀ tail, Footprint.KeepsTail { texts := [[]] } [index] tail none :=
        fun _ => .inr ⟨rfl, [], List.mem_singleton_self _, index, rfl⟩
      cases rest with
      | nil =>
        cases found
        refine ⟨_, rfl, ?_⟩
        cases node with
        | element head children tail => exact .element (.refl ..) (.refl ..) (dropped tail)
        | comment content tail => exact .comment (dropped tail)
        | instruction target content tail => exact .instruction (dropped tail)
      | cons next more =>
        refine ⟨node, ?_, .refl ..⟩
        cases inner with
        | element head children tail => exact found
        | comment content tail => cases found
        | instruction target content tail => cases found

/-- A change of the target of a focus has the footprint there that it has by itself. -/
theorem framed_retarget {g : Footprint} {f : Focus} {inner : Element}
    (framed : f.target.Framed g inner) :
    f.whole.Framed (g.below f.index) (f.retarget inner).whole := by
  intro address node found
  cases address with
  | nil =>
    cases found
    have length : (f.retarget inner).whole.children.length = f.whole.children.length := by
      simp only [Focus.whole, Focus.retarget, List.length_append, List.length_cons]
    refine ⟨_, rfl, .element (.refl ..) ⟨.inl length, ?_⟩ (.refl ..)⟩
    intro node member
    rw [List.drop_eq_nil_of_le (Nat.le_of_eq length)] at member
    cases member
  | cons index rest =>
    by_cases here : index = f.index
    · subst here
      have stands := (f.retarget inner).children_index
      rw [nodeAt?, f.children_index] at found
      rw [nodeAt?, show f.index = (f.retarget inner).index from rfl, stands]
      cases rest with
      | nil =>
        -- the target itself, which has its tail here and none by itself
        cases found
        obtain ⟨after, same, keeps⟩ := framed [] f.target.node rfl
        cases same
        cases keeps with
        | element keepsHead keepsChildren _ =>
          exact ⟨_, rfl, .element (keepsHead.below f.index) (keepsChildren.below f.index)
            (.refl ..)⟩
      | cons next more =>
        obtain ⟨after, foundAfter, keeps⟩ := framed (next :: more) node found
        exact ⟨after, foundAfter, keeps.below f.index⟩
    · refine ⟨node, ?_, .refl ..⟩
      rw [← found]
      exact nodeAt?_congr (f.children_retarget here inner) rest

end Xml.Element

end XmlGraft
