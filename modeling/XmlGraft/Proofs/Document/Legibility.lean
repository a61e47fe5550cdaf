import XmlGraft.Proofs.Document.Reload

/-!
# Legible names — names that are told by their texts

A name is legible if its label is made of the characters that names in markup have. A brace in the
text of such a name belongs to a namespace, and the last of them ends it, so legible names with the
same text are the same name (`Name.Legible.text_inj`); and no text of a legible name is the key of
an attribute.

All names are legible in a document that was read (`Document.Loaded.legible`) or built from data
(`Document.legible_ofValue`), and they stay so where it is written to
(`Document.Legible.assignAll`).
-/

namespace XmlGraft

open Xml Data

namespace Xml

/-- The label of a name is made of the characters that names in markup have. -/
def Name.Legible (n : Name) : Prop := ∀ c ∈ n.label.toList, isTagChar c = true

instance (n : Name) : Decidable n.Legible :=
  inferInstanceAs (Decidable (∀ c ∈ n.label.toList, isTagChar c = true))

/-- All names in an element are legible. -/
def Element.Legible (e : Element) : Prop := ∀ name ∈ e.names, name.Legible

instance (e : Element) : Decidable e.Legible :=
  inferInstanceAs (Decidable (∀ name ∈ e.names, name.Legible))

/-! ## Texts of names -/

/-- The last occurrence of a member parts a list in one way only. -/
theorem append_cons_inj_last {α : Type _} {a : α} {xs ys us vs : List α} (last : a ∉ us)
    (lastToo : a ∉ vs) (same : xs ++ a :: us = ys ++ a :: vs) : xs = ys ∧ us = vs := by
  rcases List.append_eq_append_iff.mp same with ⟨more, rfl, rest⟩ | ⟨more, rfl, rest⟩
  · cases more with
    | nil => exact ⟨(List.append_nil _).symm, (List.cons.inj rest).2⟩
    | cons b more =>
      obtain ⟨-, rfl⟩ := List.cons.inj rest
      exact absurd (List.mem_append_right _ List.mem_cons_self) last
  · cases more with
    | nil => exact ⟨List.append_nil _, (List.cons.inj rest).2.symm⟩
    | cons b more =>
      obtain ⟨-, rfl⟩ := List.cons.inj rest
      exact absurd (List.mem_append_right _ List.mem_cons_self) lastToo

namespace Name

/-- The characters of a name that has a namespace. -/
theorem toList_text_of_uri {n : Name} (namespaced : n.uri ≠ "") :
    n.text.toList = '\x7b' :: (n.uri.toList ++ '\x7d' :: n.label.toList) := by
  rw [text, if_neg namespaced]
  simp [String.toList_append]

/-- A name without a colon that is a label makes a legible name. -/
theorem legible_of_isNCName {n : Name} (isName : isNCName n.label = true) : n.Legible :=
  (tagName_of_isNCName isName).all

namespace Legible

variable {m n : Name}

/-- A label has no character that no name has. -/
theorem not_mem (legible : n.Legible) {c : Char} (other : isTagChar c = false) :
    c ∉ n.label.toList := by
  intro member
  rw [legible c member] at other
  cases other

/-- A name with a namespace has another text than one without. -/
theorem text_ne (legible : m.Legible) (bare : m.uri = "") (namespaced : n.uri ≠ "") :
    m.text ≠ n.text := by
  intro same
  have label := congrArg String.toList same
  rw [toList_text_of_uri namespaced, text, if_pos bare] at label
  refine legible.not_mem (c := '\x7b') (by decide) ?_
  rw [label]
  exact List.mem_cons_self

/-- Legible names with the same text are the same. -/
theorem text_inj (legible₁ : m.Legible) (legible₂ : n.Legible) (same : m.text = n.text) :
    m = n := by
  by_cases bare₁ : m.uri = ""
  · by_cases bare₂ : n.uri = ""
    · rw [text, if_pos bare₁, text, if_pos bare₂] at same
      rw [Name.eq_bare bare₁, Name.eq_bare bare₂, same]
    · exact absurd same (legible₁.text_ne bare₁ bare₂)
  · by_cases bare₂ : n.uri = ""
    · exact absurd same.symm (legible₂.text_ne bare₂ bare₁)
    · have spelled := congrArg String.toList same
      rw [toList_text_of_uri bare₁, toList_text_of_uri bare₂] at spelled
      obtain ⟨uri, label⟩ := append_cons_inj_last (legible₁.not_mem (by decide))
        (legible₂.not_mem (by decide)) (List.cons.inj spelled).2
      cases m
      cases n
      rw [String.toList_inj] at uri label
      exact congrArg₂ Name.mk uri label

/-- The text of a legible name is not the key of an attribute. -/
theorem unmarked (legible : n.Legible) : ¬marksAttribute n.text = true := by
  by_cases bare : n.uri = ""
  · rw [text, if_pos bare, marksAttribute, beq_iff_eq]
    intro marked
    exact legible.not_mem (c := '@') (by decide) (List.mem_of_head? marked)
  · rw [marksAttribute, toList_text_of_uri bare]
    exact Bool.false_ne_true

end Legible

end Name

/-! ## A law for names -/

/-- The law that the names in a tree are of some kind. -/
def namesLaw (kind : Name → Prop) : Law where
  head _ head := ∀ name ∈ head.names, kind name
  text _ := True
  text_none := trivial
  comment _ := True
  instruction _ _ := True

section

variable {kind : Name → Prop} {above : List Declaration}

mutual

/-- A node obeys the law if all names in it are of the kind. -/
theorem Node.obeys_namesLaw_iff (node : Node) {above : List Declaration} :
    node.Obeys (namesLaw kind) above ↔ ∀ name ∈ node.names, kind name := by
  cases node with
  | element head children tail =>
    rw [Node.Obeys, allObey_namesLaw_iff children, Node.names, List.forall_mem_append]
    exact ⟨fun obeys => ⟨obeys.1.1, obeys.1.2.2⟩, fun all => ⟨⟨all.1, trivial, all.2⟩, trivial⟩⟩
  | comment content tail =>
    exact iff_of_true ⟨trivial, trivial⟩ fun _ member => absurd member List.not_mem_nil
  | instruction target content tail =>
    exact iff_of_true ⟨trivial, trivial⟩ fun _ member => absurd member List.not_mem_nil

/-- So it is with nodes side by side. -/
theorem allObey_namesLaw_iff (nodes : List Node) {above : List Declaration} :
    AllObey (namesLaw kind) above nodes ↔ ∀ name ∈ namesAll nodes, kind name := by
  cases nodes with
  | nil => exact iff_of_true trivial fun _ member => absurd member List.not_mem_nil
  | cons node rest =>
    rw [AllObey, Node.obeys_namesLaw_iff node, allObey_namesLaw_iff rest, namesAll,
      List.forall_mem_append]

end

/-- An element obeys the law if all names in it are of the kind. -/
theorem Element.obeys_namesLaw_iff (e : Element) :
    e.Obeys (namesLaw kind) above ↔ ∀ name ∈ e.names, kind name :=
  Element.obeys_node.symm.trans (Node.obeys_namesLaw_iff e.node)

/-- The law is closed if names without a namespace are of the kind. -/
theorem closed_namesLaw (admits : ∀ {label}, isNCName label = true → kind (.bare label)) :
    (namesLaw kind).Closed where
  text _ obeys := obeys
  filled _ _ := trivial
  put isName _ obeys := by
    intro name member
    rcases List.mem_cons.mp member with rfl | member
    · exact obeys _ List.mem_cons_self
    · rcases mem_names_putAttribute member with rfl | before
      · exact admits isName
      · exact obeys name (List.mem_cons_of_mem _ before)
  root isName := List.forall_mem_singleton.mpr (admits isName)
  child _ _ _ isName := List.forall_mem_singleton.mpr (admits isName)

end

/-- The names in a head that stands for a start tag are legible. -/
theorem Head.Denoted.legible {above : List Declaration} {head : Head}
    (denoted : head.Denoted above) : ∀ name ∈ head.names, name.Legible := by
  -- the label is the part of a written name that follows the colon, or all of it
  have label : ∀ {nsPrefix label : String} {c : Char}, c ∈ label.toList →
      c ∈ (qualified nsPrefix label).toList := by
    intro nsPrefix label c member
    rw [qualified]
    split
    · exact member
    · simp [String.toList_append, member]
  intro name member
  rcases List.mem_cons.mp member with rfl | member
  · exact fun c inLabel => denoted.tag.all c (label inLabel)
  · obtain ⟨a, inside, rfl⟩ := List.mem_map.mp member
    have isTag := (denoted.entries a.entry
      (List.mem_append_right _ (List.mem_map_of_mem inside))).1
    exact fun c inLabel => isTag.all c (label inLabel)

end Xml

/-! ## Documents -/

namespace Document

/-- All names in a document are legible. -/
def Legible (d : Document) : Prop := ∀ name ∈ d.names, name.Legible

/-- A document obeys the law of names if all names in it are of the kind. -/
theorem obeys_namesLaw_iff {kind : Name → Prop} {d : Document} :
    d.Obeys (namesLaw kind) ↔ ∀ name ∈ d.names, kind name := by
  rw [Obeys, names]
  cases d.root with
  | none =>
    exact iff_of_true (fun root member => absurd member (Option.not_mem_none root))
      fun _ member => absurd member List.not_mem_nil
  | some root =>
    rw [Option.map_some, Option.getD_some, ← root.obeys_namesLaw_iff]
    refine ⟨fun obeys => obeys root rfl, fun obeys other same => ?_⟩
    rw [← Option.mem_some_iff.mp same]
    exact obeys

/-- The names in a document that was read are legible. -/
theorem Loaded.legible {d : Document} (loaded : d.Loaded) : d.Legible := by
  refine obeys_namesLaw_iff.mp fun root rooted => ?_
  refine Element.obeys_node.mp (Node.Obeys.imp root.node ?_ ?_ ?_ ?_
    (Element.obeys_node.mpr (loaded.denoted root rooted)))
  · exact fun _ _ denoted => denoted.legible
  · exact fun _ _ => trivial
  · exact fun _ _ => trivial
  · exact fun _ _ _ => trivial

/-- The names in a document that was built are legible. -/
theorem legible_ofValue {value : Data.Value} {d : Document} (built : ofValue value = .ok d) :
    d.Legible := by
  obtain ⟨wrapped, wraps, _⟩ := bind_eq_ok.mp built
  refine names_ofValue wraps (Value.throughout_of_forall ?_ wrapped) built
  exact fun entries entry _ name _ isName => Name.legible_of_isNCName isName

/-- The names in a document stay legible where it is written to, whatever each write ends with. -/
theorem Legible.assignAll {d left : Document} (legible : d.Legible)
    {writes : List (Data.Value × Data.Value)} (wrote : d.assignAll writes = left) :
    left.Legible := by
  have closed : (namesLaw Name.Legible).Closed :=
    closed_namesLaw fun isName => Name.legible_of_isNCName isName
  rw [← wrote]
  exact obeys_namesLaw_iff.mp ((obeys_namesLaw_iff.mpr legible).assignAll closed writes)

end Document

end XmlGraft
