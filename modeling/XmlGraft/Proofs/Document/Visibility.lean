import Mathlib.Data.List.Find
import XmlGraft.Proofs.Data.Comparison
import XmlGraft.Proofs.Document.Reached
import XmlGraft.Proofs.Document.Retrieval

/-!
# Visibility — what data shows of a tree

Two elements are alike (`Element.Alike`) if they have the same name, the same attributes, for every
name as many child elements, of which the first are alike, and the second, and so on; and the same
text if they have nothing else. The order of attributes does not count for this, nor what stands
between the child elements of one name, nor prefixes, comments, instructions and text beside
attributes or child elements.

This is what data shows: two documents are read as the same data if and only if their roots are
alike (`Document.same_toValue_iff`). Nothing else is lost, because a text, a dictionary and a list
are never the same, and the key of an attribute is never that of a child element. It takes names
that are told by their texts, and so they are in every document that the operations lead to
(`Document.Reached.legible`).
-/

namespace XmlGraft

open Xml Data

namespace Xml

namespace Element

/-- The child elements of a name, in order. -/
def childrenCalled (name : Name) (e : Element) : List Element :=
  e.childElements.filter fun child => child.name == name

/-- Two elements with the same name, the same attributes, and for every name the same number of
child elements, alike one by one; and with the same text if they have nothing else. -/
inductive Alike : Element → Element → Prop
  | intro {e f : Element} (name : e.name = f.name)
    (attributes : ∀ name, e.attribute? name = f.attribute? name)
    (number : ∀ name, (e.childrenCalled name).length = (f.childrenCalled name).length)
    (children : ∀ (name : Name) (i : Nat) (child other : Element),
      (e.childrenCalled name)[i]? = some child → (f.childrenCalled name)[i]? = some other →
        Alike child other)
    (text : e.Alone → f.Alone → e.ownText = f.ownText) : Alike e f

/-- What makes two elements alike. -/
theorem alike_iff {e f : Element} :
    e.Alike f ↔ e.name = f.name ∧ (∀ name, e.attribute? name = f.attribute? name) ∧
      (∀ name, List.Forall₂ Alike (e.childrenCalled name) (f.childrenCalled name)) ∧
      (e.Alone → f.Alone → e.ownText = f.ownText) := by
  constructor
  · rintro ⟨name, attributes, number, children, text⟩
    refine ⟨name, attributes, fun other => List.forall₂_iff_get.mpr ⟨number other, ?_⟩, text⟩
    intro i first second
    exact children other i _ _ (List.getElem?_eq_getElem first) (List.getElem?_eq_getElem second)
  · rintro ⟨name, attributes, children, text⟩
    refine ⟨name, attributes, fun other => (children other).length_eq, ?_, text⟩
    intro other i child counterpart first second
    obtain ⟨inFirst, rfl⟩ := List.getElem?_eq_some_iff.mp first
    obtain ⟨inSecond, rfl⟩ := List.getElem?_eq_some_iff.mp second
    exact (List.forall₂_iff_get.mp (children other)).2 i inFirst inSecond

/-! ## Names -/

namespace Legible

variable {e : Element} (legible : e.Legible)

include legible

/-- The names of attributes are legible. -/
theorem attributeName {a : Attribute} (member : a ∈ e.head.attributes) : a.name.Legible :=
  legible a.name (List.mem_append_left _ (List.mem_cons_of_mem _ (List.mem_map_of_mem member)))

/-- The names in child elements are legible. -/
theorem child {child : Element} (member : child ∈ e.childElements) : child.Legible := by
  intro name inChild
  obtain ⟨node, inside, isChild⟩ := List.mem_filterMap.mp member
  refine legible name (List.mem_append_right _ (mem_namesAll.mpr ⟨node, inside, ?_⟩))
  cases node with
  | element head children tail =>
    cases isChild
    exact inChild
  | _ => cases isChild

/-- The names of child elements are legible. -/
theorem childName {child : Element} (member : child ∈ e.childElements) : child.name.Legible :=
  legible.child member child.name List.mem_cons_self

/-- The child elements with a name of the same text are those of the name. -/
theorem childrenNamed_eq {name : Name} (isLegible : name.Legible) :
    e.childrenNamed name.text = e.childrenCalled name := by
  refine List.filter_congr fun child member => ?_
  rw [Bool.eq_iff_iff, beq_iff_eq, beq_iff_eq]
  exact ⟨(legible.childName member).text_inj isLegible, congrArg Name.text⟩

/-- No child element is under the key of an attribute. -/
theorem childrenNamed_marked {key : String} (marked : marksAttribute key = true) :
    e.childrenNamed key = [] := by
  refine List.filter_eq_nil_iff.mpr fun child member same => ?_
  have unmarked := (legible.childName member).unmarked
  rw [beq_iff_eq.mp same] at unmarked
  exact unmarked marked

/-- No attribute has a name that is not legible. -/
theorem attribute?_eq_none {name : Name} (illegible : ¬name.Legible) :
    e.attribute? name = none := by
  rw [attribute?, Option.map_eq_none_iff, List.find?_eq_none]
  intro a member same
  rw [← beq_iff_eq.mp same] at illegible
  exact illegible (legible.attributeName member)

/-- No child element has a name that is not legible. -/
theorem childrenCalled_eq_nil {name : Name} (illegible : ¬name.Legible) :
    e.childrenCalled name = [] := by
  refine List.filter_eq_nil_iff.mpr fun child member same => ?_
  rw [← beq_iff_eq.mp same] at illegible
  exact illegible (legible.childName member)

/-! ## Keys -/

/-- Under the key of an attribute its value is read. -/
theorem entryAt?_mark {name : Name} (isLegible : name.Legible) :
    e.value.entryAt? ("@" ++ name.text) = (e.attribute? name).map Value.text := by
  have sameTest : (e.head.attributes.find? fun a => a.key == "@" ++ name.text) =
      e.head.attributes.find? fun a => a.name == name := by
    refine List.find?_congr fun a member => ?_
    rw [Bool.eq_iff_iff, beq_iff_eq, beq_iff_eq, Attribute.key, String.append_right_inj]
    exact ⟨(legible.attributeName member).text_inj isLegible, congrArg Name.text⟩
  rw [entryAt?_value, sameTest, legible.childrenNamed_marked (marksAttribute_mark name.text),
    if_pos rfl, Option.or_none, attribute?, Option.map_map]
  rfl

/-- Under the text of a name the child elements of the name are read. -/
theorem entryAt?_text {name : Name} (isLegible : name.Legible) :
    e.value.entryAt? name.text = if (e.childrenCalled name).map value = [] then none
      else some (groupValue ((e.childrenCalled name).map value)) := by
  rw [entryAt?_unmarked isLegible.unmarked, legible.childrenNamed_eq isLegible]
  simp only [List.map_eq_nil_iff]

/-- Nothing is read under a text that is the key of no attribute and no child element. -/
theorem entryAt?_other {key : String}
    (other : ∀ name : Name, name.Legible → key ≠ "@" ++ name.text ∧ key ≠ name.text) :
    e.value.entryAt? key = none := by
  have noAttribute : (e.head.attributes.find? fun a => a.key == key) = none := by
    rw [List.find?_eq_none]
    intro a member same
    exact (other a.name (legible.attributeName member)).1 (beq_iff_eq.mp same).symm
  have noChild : e.childrenNamed key = [] := by
    refine List.filter_eq_nil_iff.mpr fun child member same => ?_
    exact (other child.name (legible.childName member)).2 (beq_iff_eq.mp same).symm
  rw [entryAt?_value, noAttribute, noChild]
  rfl

end Legible

/-! ## Dictionaries -/

/-- Legible names give different keys. -/
theorem Legible.nodup_entries {e : Element} (legible : e.Legible) :
    (e.entries.map (·.1)).Nodup := by
  have among := (mem_firstOfEachName e.head.attributes).1
  rw [entries, List.map_append, List.map_map, List.map_map]
  refine List.nodup_append.mpr ⟨?_, (grouped_nodup _).1, ?_⟩
  · have names := nodup_firstOfEachName e.head.attributes
    refine List.Nodup.map_on ?_ (List.Nodup.of_map _ names)
    intro a inFirst b inSecond same
    have sameName := (legible.attributeName (among a inFirst)).text_inj
      (legible.attributeName (among b inSecond)) ((String.append_right_inj "@").mp same)
    exact List.inj_on_of_nodup_map names inFirst inSecond sameName
  · rintro _ isAttribute key isGroup rfl
    obtain ⟨a, _, rfl⟩ := List.mem_map.mp isAttribute
    obtain ⟨group, inGroups, same⟩ := List.mem_map.mp isGroup
    have occurs := (mem_grouped.mp inGroups).1
    simp only [keyed, List.map_map, List.mem_map, Function.comp_apply] at occurs
    obtain ⟨child, isChild, named⟩ := occurs
    refine (legible.childName isChild).unmarked ?_
    rw [named.trans same]
    exact marksAttribute_mark a.name.text

/-! ## Comparison -/

/-- An element has nothing else if there is no attribute of any name, nor a child element. -/
theorem alone_iff {e : Element} :
    e.Alone ↔ (∀ name, e.attribute? name = none) ∧ ∀ name, e.childrenCalled name = [] := by
  constructor
  · rintro ⟨noAttributes, noChildren⟩
    exact ⟨fun name => by rw [attribute?, noAttributes]; rfl,
      fun name => by rw [childrenCalled, noChildren]; rfl⟩
  · rintro ⟨noAttribute, noChild⟩
    refine ⟨List.eq_nil_iff_forall_not_mem.mpr fun a member => ?_,
      List.eq_nil_iff_forall_not_mem.mpr fun child member => ?_⟩
    · have none := noAttribute a.name
      rw [attribute?, Option.map_eq_none_iff, List.find?_eq_none] at none
      exact none a member (beq_self_eq_true a.name)
    · have none := List.filter_eq_nil_iff.mp (noChild child.name)
      exact none child member (beq_self_eq_true child.name)

section

variable {e f : Element} (legible₁ : e.Legible) (legible₂ : f.Legible)

include legible₁ legible₂

/-- Every text finds the same data in two elements if they have the same attributes, and for every
name child elements that are read as the same data one by one. -/
theorem agree_entries_iff :
    (∀ key, Option.Rel Value.Agrees (e.value.entryAt? key) (f.value.entryAt? key)) ↔
      (∀ name, e.attribute? name = f.attribute? name) ∧
        ∀ name, List.Forall₂ Value.Agrees ((e.childrenCalled name).map value)
          ((f.childrenCalled name).map value) := by
  have single : ∀ (children : List Element), ∀ v ∈ children.map value, v.items = [v] := by
    simp [items_value]
  constructor
  · refine fun agree => ⟨fun name => ?_, fun name => ?_⟩
    · by_cases isLegible : name.Legible
      · have mark := agree ("@" ++ name.text)
        rw [legible₁.entryAt?_mark isLegible, legible₂.entryAt?_mark isLegible] at mark
        exact rel_text_iff.mp mark
      · rw [legible₁.attribute?_eq_none isLegible, legible₂.attribute?_eq_none isLegible]
    · by_cases isLegible : name.Legible
      · have text := agree name.text
        rw [legible₁.entryAt?_text isLegible, legible₂.entryAt?_text isLegible] at text
        exact (rel_group_iff (single _) (single _)).mp text
      · rw [legible₁.childrenCalled_eq_nil isLegible, legible₂.childrenCalled_eq_nil isLegible]
        exact .nil
  · rintro ⟨attributes, children⟩ key
    by_cases isMark : ∃ name : Name, name.Legible ∧ key = "@" ++ name.text
    · obtain ⟨name, isLegible, rfl⟩ := isMark
      rw [legible₁.entryAt?_mark isLegible, legible₂.entryAt?_mark isLegible]
      exact rel_text_iff.mpr (attributes name)
    by_cases isText : ∃ name : Name, name.Legible ∧ key = name.text
    · obtain ⟨name, isLegible, rfl⟩ := isText
      rw [legible₁.entryAt?_text isLegible, legible₂.entryAt?_text isLegible]
      exact (rel_group_iff (single _) (single _)).mpr (children name)
    · have other : ∀ name : Name, name.Legible → key ≠ "@" ++ name.text ∧ key ≠ name.text :=
        fun name isLegible => ⟨fun same => isMark ⟨name, isLegible, same⟩,
          fun same => isText ⟨name, isLegible, same⟩⟩
      rw [legible₁.entryAt?_other other, legible₂.entryAt?_other other]
      exact .none

end

/-- Two elements with the same attributes and as many child elements of every name are both alone,
or neither is. -/
theorem alone_congr {e f : Element} (attributes : ∀ name, e.attribute? name = f.attribute? name)
    (number : ∀ name, (e.childrenCalled name).length = (f.childrenCalled name).length) :
    e.Alone ↔ f.Alone := by
  rw [alone_iff, alone_iff]
  refine and_congr (forall_congr' fun name => ?_) (forall_congr' fun name => ?_)
  · rw [attributes name]
  · rw [← List.length_eq_zero_iff, number name, List.length_eq_zero_iff]

/-- Two elements of one name are read as the same data if they are alike. -/
theorem agrees_value_iff {e f : Element} (legible₁ : e.Legible) (legible₂ : f.Legible)
    (named : e.name = f.name) : e.value.Agrees f.value ↔ e.Alike f := by
  induction e using childInduction generalizing f with
  | step e ih =>
    have children : ∀ name, List.Forall₂ Alike (e.childrenCalled name) (f.childrenCalled name) ↔
        List.Forall₂ Value.Agrees ((e.childrenCalled name).map value)
          ((f.childrenCalled name).map value) := by
      intro name
      rw [List.forall₂_map_left_iff, List.forall₂_map_right_iff]
      refine forall₂_congr_of_mem fun child first other second => ?_
      obtain ⟨isChild, sameName⟩ := List.mem_filter.mp first
      obtain ⟨isOther, otherName⟩ := List.mem_filter.mp second
      exact (ih child isChild (legible₁.child isChild) (legible₂.child isOther)
        ((beq_iff_eq.mp sameName).trans (beq_iff_eq.mp otherName).symm)).symm
    have bothAlone : e.Alike f → (e.Alone ↔ f.Alone) := by
      intro alike
      obtain ⟨-, attributes, inside, -⟩ := alike_iff.mp alike
      exact alone_congr attributes fun name => (inside name).length_eq
    -- one alone is read as a text and the other as a dictionary; both must be alone, or neither
    by_cases alone₁ : e.Alone
    · by_cases alone₂ : f.Alone
      · obtain ⟨noAttributes₁, noChildren₁⟩ := alone_iff.mp alone₁
        obtain ⟨noAttributes₂, noChildren₂⟩ := alone_iff.mp alone₂
        rw [value_of_alone alone₁, value_of_alone alone₂, alike_iff]
        simp [named, noAttributes₁, noAttributes₂, noChildren₁, noChildren₂, alone₁, alone₂,
          Value.Agrees, Value.same]
      · rw [value_of_alone alone₁, value_of_not_alone alone₂]
        exact iff_of_false Bool.false_ne_true fun alike => alone₂ ((bothAlone alike).mp alone₁)
    · by_cases alone₂ : f.Alone
      · rw [value_of_not_alone alone₁, value_of_alone alone₂]
        exact iff_of_false Bool.false_ne_true fun alike => alone₁ ((bothAlone alike).mpr alone₂)
      · have text : e.Alone → f.Alone → e.ownText = f.ownText := fun alone => absurd alone alone₁
        rw [alike_iff, and_iff_right named, and_iff_left text]
        simp only [children]
        rw [← agree_entries_iff legible₁ legible₂, value_of_not_alone alone₁,
          value_of_not_alone alone₂]
        exact same_record_iff legible₁.nodup_entries legible₂.nodup_entries

end Element

end Xml

namespace Document

variable {d₁ d₂ : Document} {r₁ r₂ : Element}

/-- Two documents are read as the same data if and only if their roots are alike. The names are
legible in all documents that are reached. -/
theorem same_toValue_iff (rooted₁ : d₁.root = some r₁) (rooted₂ : d₂.root = some r₂)
    (legible₁ : d₁.Legible) (legible₂ : d₂.Legible) :
    d₁.toValue.same d₂.toValue = true ↔ r₁.Alike r₂ := by
  rw [Legible, names, rooted₁] at legible₁
  rw [Legible, names, rooted₂] at legible₂
  have entry : d₁.toValue.same d₂.toValue = true ↔
      r₁.name.text = r₂.name.text ∧ r₁.value.Agrees r₂.value := by
    rw [toValue, toValue, rooted₁, rooted₂]
    exact same_record_singleton_iff
  rw [entry]
  constructor
  · rintro ⟨text, same⟩
    have named : r₁.name = r₂.name :=
      (legible₁ _ List.mem_cons_self).text_inj (legible₂ _ List.mem_cons_self) text
    exact (Element.agrees_value_iff legible₁ legible₂ named).mp same
  · intro alike
    have named := (Element.alike_iff.mp alike).1
    exact ⟨congrArg Name.text named, (Element.agrees_value_iff legible₁ legible₂ named).mpr alike⟩

/-- A document that was read is like one that was written, with attributes in another order and
without the comment and the text in between; with two children of one name exchanged it is not. -/
theorem same_toValue_iff_interleaved :
    ∃ d left other r s t,
      read .faithful "<a p='1' q='2'><b>x</b><!--n-->t<c/><b>y</b></a>" = .ok d ∧
      empty.assignAll [(.text "/a/@q", .text "2"), (.text "/a/@p", .text "1"),
        (.text "/a/c", .null), (.text "/a/b[1]", .text "x"), (.text "/a/b[2]", .text "y")] = left ∧
      left.assignAll [(.text "/a/b[1]", .text "y"), (.text "/a/b[2]", .text "x")] = other ∧
      d.root = some r ∧ left.root = some s ∧ other.root = some t ∧ r.Alike s ∧ ¬r.Alike t := by
  have loaded : read .faithful "<a p='1' q='2'><b>x</b><!--n-->t<c/><b>y</b></a>" = .ok (.ofRoot
      ⟨⟨.bare "a", "", [], [⟨.bare "p", "", "1"⟩, ⟨.bare "q", "", "2"⟩], none⟩,
        [.element ⟨.bare "b", "", [], [], some "x"⟩ [] none, .comment "n" (some "t"),
          .element ⟨.bare "c", "", [], [], none⟩ [] none,
          .element ⟨.bare "b", "", [], [], some "y"⟩ [] none]⟩) := rfl
  have wrote : empty.assignAll [(.text "/a/@q", .text "2"), (.text "/a/@p", .text "1"),
      (.text "/a/c", .null), (.text "/a/b[1]", .text "x"), (.text "/a/b[2]", .text "y")] = .ofRoot
      ⟨⟨.bare "a", "", [], [⟨.bare "q", "", "2"⟩, ⟨.bare "p", "", "1"⟩], none⟩,
        [.element ⟨.bare "c", "", [], [], none⟩ [] none,
          .element ⟨.bare "b", "", [], [], some "x"⟩ [] none,
          .element ⟨.bare "b", "", [], [], some "y"⟩ [] none]⟩ := rfl
  have exchanged : assignAll [(.text "/a/b[1]", .text "y"), (.text "/a/b[2]", .text "x")] (.ofRoot
      ⟨⟨.bare "a", "", [], [⟨.bare "q", "", "2"⟩, ⟨.bare "p", "", "1"⟩], none⟩,
        [.element ⟨.bare "c", "", [], [], none⟩ [] none,
          .element ⟨.bare "b", "", [], [], some "x"⟩ [] none,
          .element ⟨.bare "b", "", [], [], some "y"⟩ [] none]⟩) = .ofRoot
      ⟨⟨.bare "a", "", [], [⟨.bare "q", "", "2"⟩, ⟨.bare "p", "", "1"⟩], none⟩,
        [.element ⟨.bare "c", "", [], [], none⟩ [] none,
          .element ⟨.bare "b", "", [], [], some "y"⟩ [] none,
          .element ⟨.bare "b", "", [], [], some "x"⟩ [] none]⟩ := rfl
  have built : ofValue (.dict []) = .ok empty := rfl
  have reached := Reached.read loaded
  have leftReached := (Reached.built built).assignAll wrote
  have otherReached := leftReached.assignAll exchanged
  refine ⟨_, _, _, _, _, _, loaded, wrote, exchanged, rfl, rfl, rfl, ?_, ?_⟩
  · exact (same_toValue_iff rfl rfl reached.legible leftReached.legible).mp rfl
  · exact mt (same_toValue_iff rfl rfl reached.legible otherReached.legible).mpr Bool.false_ne_true

end Document

end XmlGraft
