import XmlGraft.Proofs.Document.Reached
import XmlGraft.Proofs.Document.Visibility

/-!
# Partition — each child element is read once, among those of its name

What an element is read as has an entry for each of its attributes, and then one for each name among
its child elements, in the order in which the names first appear (`Element.childTags`). The entry of
a name holds what the child elements of that name are read as, in document order, and every child
element is in just one of them.

Where all names are legible the entries have different keys, and what is read is tidy at every depth
(`Element.tidy_value`): no dictionary in it is empty, and no list has fewer than two items. There is
one attribute for each key even where an element has several of one name. That is not lawful in
markup with namespaces, but such markup is read; only the first of these attributes is shown then.
-/

namespace XmlGraft

open Xml Data XmlGraft.Path

/-- A dictionary of tidy values under different texts is tidy, if it is not empty. -/
theorem Data.tidy_record {pairs : List (String × Value)} (some : pairs ≠ [])
    (once : (pairs.map (·.1)).Nodup) (tidy : ∀ pair ∈ pairs, pair.2.Tidy) :
    (Value.record pairs).Tidy := by
  refine ⟨mt List.map_eq_nil_iff.mp some, ?_, tidyEntries_iff.mpr (List.forall_mem_map.mpr tidy)⟩
  refine List.pairwise_map.mpr ((List.pairwise_map.mp once).imp fun differs same => differs ?_)
  exact beq_iff_eq.mp same

namespace Xml.Element

/-! ## Entries -/

/-- The names of child elements, as texts, in the order in which they first appear. -/
def childTags (e : Element) : List String :=
  (e.childElements.map fun child => child.name.text).eraseDups

/-- The entries of an element are one for each name of an attribute, and one for each name of a
child element. -/
theorem entries_eq (e : Element) :
    e.entries = (firstOfEachName e.head.attributes).map (fun a => (a.key, .text a.value)) ++
      e.childTags.map fun tag => (tag, groupValue ((e.childrenNamed tag).map value)) := by
  have keys : ((keyed e.childElements).map fun child => (child.1, child.2.value)).map (·.1) =
      e.childElements.map fun child => child.name.text := by
    rw [keyed, List.map_map, List.map_map]
    rfl
  rw [entries, grouped_eq_gather, gather, keys, List.map_map]
  refine congrArg (_ ++ ·) (List.map_congr_left fun tag _ => ?_)
  rw [Function.comp_apply, valuesOf_map, valuesOf_keyed]

/-- Every child element is among those of just one name. -/
theorem childrenNamed_perm (e : Element) :
    (e.childTags.flatMap fun tag => e.childrenNamed tag).Perm e.childElements := by
  refine flatMap_filter_perm (nodup_eraseDups _) (fun child : Element => child.name.text) ?_
  exact fun child isChild => List.mem_eraseDups.mpr (List.mem_map_of_mem isChild)

/-! ## Tidiness -/

/-- There is a child element of every name that appears. -/
theorem childrenNamed_ne_nil {e : Element} {tag : String} (appears : tag ∈ e.childTags) :
    e.childrenNamed tag ≠ [] := by
  obtain ⟨child, isChild, rfl⟩ := List.mem_map.mp (List.mem_eraseDups.mp appears)
  exact List.ne_nil_of_mem (List.mem_filter.mpr ⟨isChild, beq_self_eq_true child.name.text⟩)

/-- An element that has something else than a text has an entry. -/
theorem entries_ne_nil {e : Element} (other : ¬e.Alone) : e.entries ≠ [] := by
  intro none
  rw [entries_eq, List.append_eq_nil_iff, List.map_eq_nil_iff, List.map_eq_nil_iff] at none
  refine other ⟨List.eq_nil_iff_forall_not_mem.mpr fun a member => ?_,
    List.eq_nil_iff_forall_not_mem.mpr fun child isChild => ?_⟩
  · obtain ⟨b, first, -⟩ := (mem_firstOfEachName e.head.attributes).2 a member
    rw [none.1] at first
    exact List.not_mem_nil first
  · have appears : child.name.text ∈ e.childTags :=
      List.mem_eraseDups.mpr (List.mem_map_of_mem isChild)
    rw [none.2] at appears
    exact List.not_mem_nil appears

/-- What an element with legible names is read as is tidy. -/
theorem tidy_value {e : Element} (legible : e.Legible) : e.value.Tidy := by
  induction e using childInduction with
  | step e ih =>
    by_cases alone : e.Alone
    · rw [value_of_alone alone]
      trivial
    rw [value_of_not_alone alone]
    refine tidy_record (entries_ne_nil alone) legible.nodup_entries ?_
    rw [entries_eq]
    refine List.forall_mem_append.mpr ⟨?_, ?_⟩
    · intro entry isAttribute
      obtain ⟨a, -, rfl⟩ := List.mem_map.mp isAttribute
      trivial
    · intro entry isGroup
      obtain ⟨tag, appears, rfl⟩ := List.mem_map.mp isGroup
      refine tidy_groupValue (mt List.map_eq_nil_iff.mp (childrenNamed_ne_nil appears)) ?_
      intro v member
      obtain ⟨child, named, rfl⟩ := List.mem_map.mp member
      have isChild := (List.mem_filter.mp named).1
      exact ih child isChild (legible.child isChild)

end Xml.Element

namespace Document

/-- Wherever an element stands that has something else than a text, it is read as the dictionary of
its attributes, the first of each name, followed by an entry for each name among its child elements:
what these are read as, bare or in a list. Each child element is in just one entry, the entries have
different keys, and what is read is tidy at every depth. The names are legible in all documents that
are reached. -/
theorem elementAt?_partition {d : Document} (legible : d.Legible) {address : Address} {e : Element}
    (found : d.elementAt? address = some e) (other : ¬e.Alone) :
    e.value = .dict ((firstOfEachName e.head.attributes).map
        (fun a => (.text ("@" ++ a.name.text), .text a.value)) ++
      e.childTags.map fun tag => (.text tag, groupValue ((e.childrenNamed tag).map Element.value))) ∧
    ((e.head.attributes.map (·.name)).Nodup →
      firstOfEachName e.head.attributes = e.head.attributes) ∧
    (e.childTags.flatMap fun tag => e.childrenNamed tag).Perm e.childElements ∧
    ((firstOfEachName e.head.attributes).map (fun a => "@" ++ a.name.text) ++ e.childTags).Nodup ∧
    e.value.Tidy := by
  have isLegible := legible.elementAt? found
  refine ⟨?_, firstOfEachName_eq, e.childrenNamed_perm, ?_, Element.tidy_value isLegible⟩
  · rw [Element.value_of_not_alone other, Value.record, Element.entries_eq, List.map_append,
      List.map_map, List.map_map]
    rfl
  · have once := isLegible.nodup_entries
    rw [Element.entries_eq, List.map_append, List.map_map, List.map_map] at once
    simpa [Function.comp_def, Attribute.key] using once

/-- Siblings that stand apart are read together, also one that a step has added. -/
theorem elementAt?_partition_apart :
    ∃ d left e, read .faithful "<a p='1'><b>x</b>t<!--n--><c/><b q='2'/></a>" = .ok d ∧
      d.reachAt? (some []) (.filtered "b" (.position 3)) = some (left, .ok [4]) ∧
      left.elementAt? [] = some e ∧ e.childTags = ["b", "c"] ∧
      e.value = .dict [(.text "@p", .text "1"),
        (.text "b", .list [.text "x", .dict [(.text "@q", .text "2")], .text ""]),
        (.text "c", .text "")] ∧ e.value.Tidy := by
  have loaded : read .faithful "<a p='1'><b>x</b>t<!--n--><c/><b q='2'/></a>" = .ok (.ofRoot
      ⟨⟨.bare "a", "", [], [⟨.bare "p", "", "1"⟩], none⟩,
        [.element ⟨.bare "b", "", [], [], some "x"⟩ [] (some "t"), .comment "n" none,
          .element ⟨.bare "c", "", [], [], none⟩ [] none,
          .element ⟨.bare "b", "", [], [⟨.bare "q", "", "2"⟩], none⟩ [] none]⟩) := rfl
  have resolved : reachAt? (some []) (.filtered "b" (.position 3)) (.ofRoot
      ⟨⟨.bare "a", "", [], [⟨.bare "p", "", "1"⟩], none⟩,
        [.element ⟨.bare "b", "", [], [], some "x"⟩ [] (some "t"), .comment "n" none,
          .element ⟨.bare "c", "", [], [], none⟩ [] none,
          .element ⟨.bare "b", "", [], [⟨.bare "q", "", "2"⟩], none⟩ [] none]⟩) = some (.ofRoot
      ⟨⟨.bare "a", "", [], [⟨.bare "p", "", "1"⟩], none⟩,
        [.element ⟨.bare "b", "", [], [], some "x"⟩ [] (some "t"), .comment "n" none,
          .element ⟨.bare "c", "", [], [], none⟩ [] none,
          .element ⟨.bare "b", "", [], [⟨.bare "q", "", "2"⟩], none⟩ [] none,
          .element ⟨.bare "b", "", [], [], none⟩ [] none]⟩, .ok [4]) := rfl
  have legible := ((Reached.read loaded).resolved resolved).legible
  obtain ⟨entries, -, -, -, tidy⟩ :=
    elementAt?_partition legible (show elementAt? [] _ = some _ from rfl) fun alone =>
      List.cons_ne_nil _ _ alone.1
  exact ⟨_, _, _, loaded, resolved, rfl, rfl, entries, tidy⟩

/-- Of two attributes of one name, under two prefixes, only the first is shown. -/
theorem value_of_repeated_attribute :
    ∃ d e, read .faithful
        "<a xmlns:p=\"u\" xmlns:q=\"u\"><b p:x=\"1\" q:x=\"2\"/><c xmlns=\"v\"/></a>" = .ok d ∧
      d.elementAt? [0] = some e ∧ ¬e.Alone ∧
      e.value ≠ .dict (e.head.attributes.map
          (fun a => (.text ("@" ++ a.name.text), .text a.value)) ++
        e.childTags.map fun tag =>
          (.text tag, groupValue ((e.childrenNamed tag).map Element.value))) := by
  have loaded : read .faithful
      "<a xmlns:p=\"u\" xmlns:q=\"u\"><b p:x=\"1\" q:x=\"2\"/><c xmlns=\"v\"/></a>" = .ok (.ofRoot
      ⟨⟨.bare "a", "", [⟨"p", "u"⟩, ⟨"q", "u"⟩], [], none⟩,
        [.element ⟨.bare "b", "", [], [⟨⟨"u", "x"⟩, "p", "1"⟩, ⟨⟨"u", "x"⟩, "q", "2"⟩], none⟩ []
            none,
          .element ⟨⟨"v", "c"⟩, "", [⟨"", "v"⟩], [], none⟩ [] none]⟩) := rfl
  refine ⟨_, _, loaded, rfl, fun alone => List.cons_ne_nil _ _ alone.1, fun same => ?_⟩
  have length := congrArg List.length (Value.dict.inj same)
  cases length

end Document

end XmlGraft
