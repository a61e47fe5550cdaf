import XmlGraft.Proofs.Document.Gathering
import XmlGraft.Proofs.Document.Merge
import XmlGraft.Proofs.Document.Numbered

/-!
# Restating — the writes of a document's own data

A document is read as data, and the data as a list of writes. Each of these states what is there:
its path, whose positions count the siblings of one name only, leads past comments and siblings of
other names to the element that the data is from (`Obeys.confirms`, by induction over the tree).

Making an edit that states what is there may still gather the pieces of a text that comments stand
between. That changes nothing that another edit states, so that a run of such edits gathers texts,
and does nothing else (`exists_becomes_gathers`). For documents this is `Document.graftAll_toValue`.
-/

namespace XmlGraft

open Xml Data XmlGraft.Path

namespace Xml.Element

variable {e : Element} {above : List Declaration}

/-! ## Stating what is there -/

/-- An edit writes what is there: it leads to an element without making anything, what it writes is
what its path reads there, and writing that changes nothing but the places of texts. -/
def Confirms (edit : Edit) (e : Element) : Prop :=
  IsTail edit.1 ∧ ∃ address found left, e.place none edit.1 = (e, .ok address) ∧
    (e.nodeAt? address).bind Node.element? = some found ∧
    Path.reads edit.1 found = some (textOf edit.2) ∧
    e.place edit.2 edit.1 = (left, .ok address) ∧ e.Gathers left

/-- What is there is stated of an element if it is stated of a child that a step finds. -/
theorem Confirms.step {step : Part} (head : step.IsElementStep) {f : Focus}
    (finds : f.Finds step.accepts step.passesOver) {edit : Edit}
    (inside : Confirms edit f.target) : Confirms (step :: edit.1, edit.2) f.whole := by
  obtain ⟨tail, address, found, left, placed, there, reads, wrote, gathers⟩ := inside
  have designated := designated_of_finds finds
  refine ⟨.step head tail, f.index :: address, found, (f.retarget left).whole, ?_, ?_, ?_, ?_,
    .child gathers⟩
  · exact (place_step_eq_ok head).mpr ⟨f, f.target, address, designated, placed, rfl, rfl⟩
  · exact (elementAt_whole f address).trans there
  · exact (reads_step head edit.1 found).trans reads
  · exact (place_step_eq_ok head).mpr ⟨f, left, address, designated, wrote, rfl, rfl⟩

/-- An attribute is stated where it is. -/
theorem confirms_attribute {key value : String} (isName : isNCName key = true)
    (writable : compatible value = true) (had : e.attribute? (.bare key) = some value) :
    Confirms ([.attribute key], some value) e := by
  have holds : ∀ given : Option String, (∀ text ∈ given, value = text ∧ compatible text = true) →
      e.place given [.attribute key] = (e, .ok []) := by
    intro given same
    obtain ⟨address, placed⟩ := (holds_last_iff isName).mpr ⟨value, had, same⟩
    obtain ⟨_, rfl⟩ := place_last_eq_ok.mp placed
    exact placed
  have wrote := holds (some value) fun text given => Option.some.inj given ▸ ⟨rfl, writable⟩
  exact ⟨.last isName, [], e, e, holds none nofun, rfl, had, wrote, .refl e⟩

/-- Of attributes with different names each is the one that its name finds. -/
theorem attribute?_of_mem (once : (e.head.attributes.map (·.name)).Nodup) {a : Attribute}
    (member : a ∈ e.head.attributes) : e.attribute? a.name = some a.value := by
  obtain ⟨before, after, spelled⟩ := List.append_of_mem member
  have others : ∀ b ∈ before, ¬(b.name == a.name) = true := by
    intro b inFront same
    rw [spelled, List.map_append, List.map_cons] at once
    exact (List.nodup_append.mp once).2.2 b.name (List.mem_map_of_mem inFront) a.name
      List.mem_cons_self (beq_iff_eq.mp same)
  have found : (a :: after).find? (fun b => b.name == a.name) = some a :=
    List.find?_cons_of_pos (beq_self_eq_true a.name)
  rw [attribute?, spelled, List.find?_append, List.find?_eq_none.mpr others, Option.none_or, found]
  rfl

/-- The text of an element that has nothing else is stated. -/
theorem confirms_text (alone : e.Alone) (writable : compatible e.ownText = true) :
    Confirms ([], someText e.ownText) e := by
  by_cases empty : e.ownText = ""
  · have nothing : someText e.ownText = none := if_pos empty
    rw [nothing]
    exact ⟨.nil, [], e, e, rfl, rfl, congrArg some empty, rfl, .refl e⟩
  · have given : someText e.ownText = some e.ownText := if_neg empty
    rw [given]
    refine ⟨.nil, [], e, e.withText e.ownText, rfl, rfl, rfl, ?_, .text alone empty⟩
    rw [place, writeText, setText, if_pos writable]
    rfl

/-- What is there is stated of an element by the edits of a child under its step. -/
theorem confirms_child {step : Part} (isStep : step.IsElementStep)
    (byName : ∀ e, step.asks e = true) {child : Element}
    (listed : (e.childrenNamed step.childName)[step.passesOver]? = some child) {inner : List Edit}
    (confirms : ∀ edit ∈ inner, Confirms edit child) :
    ∀ edit ∈ atChild step inner, Confirms edit e := by
  intro edit member
  obtain ⟨inside, inInner, rfl⟩ := List.mem_map.mp member
  rw [childrenNamed_eq isStep byName] at listed
  obtain ⟨f, rfl, rfl, finds⟩ := Focus.exists_finds listed
  exact (confirms inside inInner).step isStep finds

/-- The attributes of what a simple element is wrapped as are stated. -/
theorem Obeys.confirms_attributes (obeys : e.Obeys simpleLaw above)
    {entries : List (String × Value)} (wraps : e.value.wrap = .ok (.mapping entries)) :
    ∀ edit ∈ attributeEdits (Value.attributesOf entries), Confirms edit e := by
  intro edit member
  obtain ⟨⟨name, value⟩, listed, rfl⟩ := List.mem_map.mp member
  obtain ⟨key, inEntries, marked, rfl⟩ := Value.mem_attributesOf.mp listed
  rcases obeys.wrapped_entry wraps inEntries with ⟨a, inAttributes, rfl, rfl⟩ | ⟨isName, _⟩
  · obtain ⟨⟨bare, isName⟩, writable⟩ := obeys.1.plain a inAttributes
    have text : Data.attributeName a.key = a.name.label :=
      (attributeName_mark a.name.text).trans (if_pos bare)
    have had := attribute?_of_mem obeys.1.once inAttributes
    rw [Name.eq_bare bare] at had
    exact text ▸ confirms_attribute isName writable had
  · exact absurd marked (unmarked_of_isNCName isName)

/-- The child elements are stated in what a simple element is wrapped as, if each is in what it is
wrapped as itself. -/
theorem Obeys.confirms_entries (obeys : e.Obeys simpleLaw above)
    {entries : List (String × Value)} (wraps : e.value.wrap = .ok (.mapping entries))
    (spellable : EntriesSpellable entries)
    (inside : ∀ child ∈ e.childElements, ∀ {wrapped : Value}, child.value.wrap = .ok wrapped →
      wrapped.Spellable → ∀ edit ∈ edits wrapped, Confirms edit child) :
    ∀ edit ∈ entryEdits entries, Confirms edit e := by
  intro edit member
  obtain ⟨⟨key, value⟩, inEntries, unmarked, under⟩ := mem_entryEdits.mp member
  rcases obeys.wrapped_entry wraps inEntries with ⟨a, _, rfl, _⟩ | ⟨isName, some, wrapsGroup⟩
  · exact absurd (marksAttribute_mark a.name.text) unmarked
  have isChild : ∀ child ∈ e.childrenNamed key, child ∈ e.childElements :=
    fun child member => List.mem_of_mem_filter member
  rcases wrap_groupValue some wrapsGroup with ⟨child, only, wrapsChild⟩ | ⟨items, rfl, wrapsItems⟩
  · have single := single_of_wrap wrapsChild
    have inner := ((spellable.of_mem inEntries).single unmarked single).2
    have confirms := inside child (isChild child (only ▸ List.mem_cons_self)) wrapsChild inner
    have isStep : (Part.element key).IsElementStep := isName
    rw [editsUnder_single key single] at under
    exact confirms_child isStep (fun _ => rfl) (congrArg (·[0]?) only) confirms edit under
  · obtain ⟨index, item, atIndex, under⟩ := mem_itemEdits.mp under
    obtain ⟨child, listed, wrapsChild⟩ := wrapped_item wrapsItems atIndex
    obtain ⟨_, inner, few⟩ := (spellable.of_mem inEntries).sequence unmarked
    have confirms := inside child (isChild child (List.mem_of_getElem? listed)) wrapsChild
      (itemsSpellable_iff.mp inner item (List.mem_of_getElem? atIndex))
    have within := (List.getElem?_eq_some_iff.mp atIndex).1
    have isStep := isElementStep_position isName (Nat.le_add_right 1 index)
      (Nat.lt_of_le_of_lt (Nat.one_add_le_iff.mpr within) few)
    have passed : (Part.filtered key (.position (1 + index : Nat))).passesOver = index := by
      rw [Part.passesOver, Int.toNat_natCast, Nat.add_sub_cancel_left]
    have atStep := (congrArg ((e.childrenNamed key)[·]?) passed).trans listed
    exact confirms_child isStep (fun _ => rfl) atStep confirms edit under

/-- What an element is wrapped as has edits. -/
theorem edits_ne_nil {wrapped : Value} (wraps : e.value.wrap = .ok wrapped) :
    edits wrapped ≠ [] := by
  obtain ⟨_, rfl⟩ | ⟨_, entries, rfl⟩ := wrap_cases wraps
  · exact List.cons_ne_nil _ _
  · rw [edits]
    split
    · exact List.cons_ne_nil _ _
    · next some => exact mt List.isEmpty_iff.mpr some

/-- So has what a group of elements is wrapped as, under its key. -/
theorem exists_edit_under {members : List Element} (some : members ≠ []) {wrapped : Value}
    (wraps : (groupValue (members.map value)).wrap = .ok wrapped) (key : String) :
    ∃ edit, edit ∈ editsUnder key wrapped := by
  rcases wrap_groupValue some wraps with ⟨child, _, wrapsChild⟩ | ⟨items, rfl, wrapsItems⟩
  · obtain ⟨edit, inside⟩ := List.exists_mem_of_ne_nil _ (edits_ne_nil wrapsChild)
    rw [editsUnder_single key (single_of_wrap wrapsChild)]
    exact ⟨_, List.mem_map_of_mem inside⟩
  · obtain ⟨child, listed⟩ := List.exists_mem_of_ne_nil members some
    obtain ⟨index, found⟩ := List.mem_iff_getElem?.mp listed
    obtain ⟨item, atIndex, wrapsChild⟩ := wrapped_member wrapsItems found
    obtain ⟨edit, inside⟩ := List.exists_mem_of_ne_nil _ (edits_ne_nil wrapsChild)
    exact ⟨_, mem_itemEdits.mpr ⟨index, item, atIndex, List.mem_map_of_mem inside⟩⟩

/-- What a simple element with attributes or child elements is wrapped as has edits of these. -/
theorem Obeys.body_ne_nil (obeys : e.Obeys simpleLaw above)
    {entries : List (String × Value)} (wraps : e.value.wrap = .ok (.mapping entries)) :
    attributeEdits (Value.attributesOf entries) ++ entryEdits entries ≠ [] := by
  have other := not_alone_of_wrap wraps
  rw [Ne, List.append_eq_nil_iff]
  rintro ⟨noAttributes, noChildren⟩
  refine other ⟨List.eq_nil_iff_forall_not_mem.mpr fun a member => ?_,
    List.eq_nil_iff_forall_not_mem.mpr fun child member => ?_⟩
  · rw [obeys.value_dict other] at wraps
    obtain ⟨_, wrapsEntries, ⟨⟩⟩ := map_eq_ok.mp wraps
    obtain ⟨value, inEntries, _⟩ := mem_wrapEntries wrapsEntries
      (List.mem_append_left _ (List.mem_map_of_mem member))
    have listed := Value.mem_attributesOf.mpr
      ⟨a.key, inEntries, marksAttribute_mark a.name.text, rfl⟩
    exact List.ne_nil_of_mem (List.mem_map_of_mem listed) noAttributes
  · have listed : child ∈ e.childrenNamed child.name.text :=
      List.mem_filter.mpr ⟨member, beq_self_eq_true child.name.text⟩
    have some := List.ne_nil_of_mem listed
    obtain ⟨value, inEntries, unmarked, wrapsGroup⟩ := obeys.entry_of_childrenNamed wraps some
    obtain ⟨edit, under⟩ := exists_edit_under some wrapsGroup child.name.text
    have stated := mem_entryEdits.mpr ⟨_, inEntries, unmarked, under⟩
    exact List.ne_nil_of_mem stated noChildren

/-- The edits of what a simple element is wrapped as state what is there. -/
theorem Obeys.confirms (obeys : e.Obeys simpleLaw above) {wrapped : Value}
    (wraps : e.value.wrap = .ok wrapped) (spellable : wrapped.Spellable) :
    ∀ edit ∈ edits wrapped, Confirms edit e := by
  induction e using childInduction generalizing above wrapped with
  | step e ih =>
    obtain ⟨alone, rfl⟩ | ⟨_, entries, rfl⟩ := wrap_cases wraps
    · exact List.forall_mem_singleton.mpr (confirms_text alone obeys.compatible_ownText)
    · have some := mt List.isEmpty_iff.mp (obeys.body_ne_nil wraps)
      rw [edits]
      simp only [if_neg some]
      refine List.forall_mem_append.mpr ⟨obeys.confirms_attributes wraps, ?_⟩
      exact obeys.confirms_entries wraps spellable fun child member =>
        ih child member (obeys.child child member)

/-! ## Stating all of it -/

/-- Edits in order gather texts only, if each states what is there whatever texts are gathered. -/
theorem exists_becomes_gathers {edits : List Edit}
    (confirms : ∀ edit ∈ edits, ∀ later, e.Gathers later → Confirms edit later) :
    ∃ left, Becomes edits e left ∧ e.Gathers left := by
  induction edits generalizing e with
  | nil => exact ⟨e, .refl e, .refl e⟩
  | cons edit rest ih =>
    obtain ⟨here, others⟩ := List.forall_mem_cons.mp confirms
    obtain ⟨tail, _, _, next, _, _, _, wrote, gathers⟩ := here e (.refl e)
    obtain ⟨left, becomes, gathersRest⟩ := ih fun other member later gathersLater =>
      others other member later (gathers.trans gathersLater)
    exact ⟨left, .edit tail wrote becomes, gathers.trans gathersRest⟩

/-- The edits of what a numbered simple element is wrapped as, made in order, gather texts only. -/
theorem Obeys.gathers (obeys : e.Obeys simpleLaw above) (numbered : e.Numbered) {wrapped : Value}
    (wraps : e.value.wrap = .ok wrapped) :
    ∃ left, Becomes (edits wrapped) e left ∧ e.Gathers left := by
  have spellable := obeys.spellable numbered wraps
  refine exists_becomes_gathers fun edit member later gathers => ?_
  exact (gathers.obeys obeys).confirms (gathers.value ▸ wraps) spellable edit member

end Xml.Element

/-! ## Documents -/

namespace Document

/-- The position of each element among its siblings of the same name can be written. -/
def Numbered (d : Document) : Prop := ∀ root ∈ d.root, root.Numbered

/-- A document without the texts in its elements. -/
def textless (d : Document) : Document := { d with root := d.root.map Element.textless }

/-- A write states what is there: its path leads to an element without making anything, and reads
there the text to write. -/
def States (d : Document) (write : Write) : Prop :=
  ∃ steps address found, parse write.1 = .ok steps ∧ d.graft write.1 none = (d, .ok address) ∧
    d.elementAt? address = some found ∧ reads steps found = some (textOf write.2)

/-- What edits state of the root, the writes that spell them state of the document. -/
theorem states_of_confirms {tag : String} {edits : List Edit} {writes : List Write}
    (spells : Spells [.element tag] edits writes) {d : Document} {root : Element}
    (rooted : d.root = some root) (named : root.name = .bare tag)
    (confirms : ∀ edit ∈ edits, Element.Confirms edit root) : ∀ write ∈ writes, d.States write := by
  intro write member
  obtain ⟨edit, inEdits, parsed, text⟩ := spells.mem member
  obtain ⟨_, address, found, _, placed, there, reads, _⟩ := confirms edit inEdits
  obtain ⟨grafted, located, same⟩ := graft_none_of_place parsed rooted named placed there
  exact ⟨_, address, found, parsed, grafted, located, text ▸ same.trans reads⟩

/-- The writes of the data of a document with a simple tree. -/
theorem writes_toValue {d : Document} {root : Element} (rooted : d.root = some root)
    (simple : root.Obeys simpleLaw []) :
    ∃ wrapped, root.value.wrap = .ok wrapped ∧
      d.toValue.writes = writesOf [.element root.name.label] wrapped := by
  obtain ⟨wrapped, wraps, _, wrapsRoot, entry⟩ := wrap_toValue rooted simple
  refine ⟨wrapped, wraps, ?_⟩
  rw [Value.writes, wrapsRoot, ok_bind, entry, ok_bind]

/-- The name of the root of a simple tree is the start of a path. -/
theorem leadsToElement_root {root : Element} (simple : root.Obeys simpleLaw []) :
    LeadsToElement [.element root.name.label] :=
  ⟨List.cons_ne_nil _ _, List.forall_mem_singleton.mpr simple.1.name.2⟩

/-- The writes of the data of a document with a simple tree are listed exactly if the tree is
numbered. -/
theorem Obeys.writes_isOk_iff {d : Document} (obeys : d.Obeys simpleLaw) :
    (∃ pairs, d.toValue.writes = .ok pairs) ↔ d.Numbered := by
  cases rooted : d.root with
  | none =>
    have value : d.toValue = .dict [] := by rw [toValue, rooted]
    rw [Numbered, rooted, value]
    refine iff_of_true ⟨[], rfl⟩ ?_
    rintro _ ⟨⟩
  | some root =>
    have simple := obeys root rooted
    obtain ⟨wrapped, wraps, listed⟩ := writes_toValue rooted simple
    rw [listed, Numbered, rooted, simple.writesOf_isOk_iff wraps (leadsToElement_root simple)]
    exact ⟨fun numbered _ same => Option.some.inj same ▸ numbered, fun all => all root rfl⟩

/-- The writes of the data of a document with a simple tree state what is there, and grafting them
gathers texts only. -/
theorem Obeys.restated {d : Document} (obeys : d.Obeys simpleLaw) {pairs : List Write}
    (listed : d.toValue.writes = .ok pairs) :
    (∀ write ∈ pairs, d.States write) ∧
      ∃ left, d.graftAll pairs = (left, .ok ()) ∧ left.textless = d.textless ∧
        left.toValue = d.toValue ∧
        ((∀ root ∈ d.root, ∀ e ∈ root.elements, e.Alone → e.children = []) → left = d) := by
  cases rooted : d.root with
  | none =>
    have value : d.toValue = .dict [] := by rw [toValue, rooted]
    rw [value] at listed
    cases listed
    exact ⟨List.forall_mem_nil _, d, rfl, rfl, rfl, fun _ => rfl⟩
  | some root =>
    have simple := obeys root rooted
    obtain ⟨wrapped, wraps, same⟩ := writes_toValue rooted simple
    rw [same] at listed
    have numbered := simple.numbered_of_writesOf wraps listed
    obtain ⟨writes, wrote, spells⟩ := simple.spells numbered wraps (leadsToElement_root simple)
    obtain rfl := Except.ok.inj (listed.symm.trans wrote)
    have named := Name.eq_bare simple.1.name.1
    refine ⟨states_of_confirms spells rooted named
      (simple.confirms wraps (simple.spellable numbered wraps)), ?_⟩
    obtain ⟨left, becomes, gathers⟩ := simple.gathers numbered wraps
    refine ⟨{ d with root := some left },
      graftAll_becomes simple.1.name.2 becomes named rooted spells, ?_, ?_, fun bare => ?_⟩
    · rw [textless, textless, rooted, Option.map_some, Option.map_some, gathers.textless]
    · rw [toValue, toValue, rooted]
      show left.rootValue = root.rootValue
      rw [Element.rootValue, Element.rootValue, gathers.name, gathers.value]
    · rw [gathers.eq_self (bare root rfl), ← rooted]

/-- The data of a document that was read or built, and then written to, is a list of writes that
state what is there, if its names have no namespace and no colon. The list is made exactly if the
position of each element among those of its name can be written, and it takes more elements than any
memory holds for one that cannot. The path of each write leads to an element without making
anything, and reads there the text to write. Grafting all of them onto the document succeeds, makes
no element and no attribute, and leaves the data that the document is read as. It leaves the
document as it is if no element without attributes and child elements holds a comment or an
instruction. -/
theorem graftAll_toValue {d : Document} (origin : d.Loaded ∨ ∃ value, ofValue value = .ok d)
    (writes : List (Value × Value))
    (simple : ∀ name ∈ (d.assignAll writes).names, name.Simple) :
    ((∃ pairs, (d.assignAll writes).toValue.writes = .ok pairs) ↔ (d.assignAll writes).Numbered) ∧
      ∀ pairs, (d.assignAll writes).toValue.writes = .ok pairs →
        (∀ write ∈ pairs, (d.assignAll writes).States write) ∧
        ∃ left, (d.assignAll writes).graftAll pairs = (left, .ok ()) ∧
          left.textless = (d.assignAll writes).textless ∧
          left.toValue = (d.assignAll writes).toValue ∧
          ((∀ root ∈ (d.assignAll writes).root, ∀ e ∈ root.elements, e.Alone → e.children = []) →
            left = d.assignAll writes) := by
  have before : d.Obeys denotedLaw := by
    rcases origin with loaded | ⟨value, built⟩
    · exact loaded.denoted
    · exact obeys_ofValue closed_denotedLaw built fun name member =>
        (simple name (names_assignAll writes d member)).1
  have obeys : (d.assignAll writes).Obeys simpleLaw := by
    intro root rooted
    refine (before.assignAll closed_denotedLaw writes root rooted).simple ?_
    have names : (d.assignAll writes).names = root.names := by
      rw [names, rooted]
      rfl
    exact names ▸ simple
  exact ⟨obeys.writes_isOk_iff, fun _ listed => obeys.restated listed⟩

/-- Elements of two names among texts and a comment, and a text around another comment, are stated
where they are. -/
theorem graftAll_toValue_comments :
    ∃ d pairs left,
      read .faithful "<a x=\"1\">t<b/><!--n--><c>u<!--m-->v</c><b>w</b></a>" = .ok d ∧
        d.toValue.writes = .ok pairs ∧ (∀ write ∈ pairs, d.States write) ∧
        d.graftAll pairs = (left, .ok ()) ∧ left.textless = d.textless ∧
        left.toValue = d.toValue := by
  have loaded : read .faithful "<a x=\"1\">t<b/><!--n--><c>u<!--m-->v</c><b>w</b></a>" =
      .ok (.ofRoot ⟨⟨.bare "a", "", [], [⟨.bare "x", "", "1"⟩], some "t"⟩,
        [.element ⟨.bare "b", "", [], [], none⟩ [] none, .comment "n" none,
          .element ⟨.bare "c", "", [], [], some "u"⟩ [.comment "m" (some "v")] none,
          .element ⟨.bare "b", "", [], [], some "w"⟩ [] none]⟩) := rfl
  obtain ⟨listed, states⟩ := graftAll_toValue (.inl ⟨_, _, loaded⟩) [] (by decide)
  obtain ⟨pairs, wrote⟩ := listed.mpr <| by
    rintro _ ⟨⟩ inner member key
    have few : inner.childElements.length ≤ 3 := by
      revert inner
      decide
    refine Nat.lt_of_le_of_lt ((List.length_filter_le _ _).trans few) ?_
    exact length_decimalDigits_le_iff.mp (by decide)
  obtain ⟨stated, left, grafted, elements, same, _⟩ := states pairs wrote
  exact ⟨_, pairs, left, loaded, wrote, stated, grafted, elements, same⟩

/-- A name with a colon comes about where a remark on what follows the root outweighs the one on
its prefix. The path that is listed for it cannot be read. -/
theorem graftAll_toValue_colon :
    ∃ d, read .faithful "<p:a/><?xml-x?>" = .ok d ∧ (∀ name ∈ d.names, name.uri = "") ∧
      d.toValue.writes = .ok [("/p:a", none)] ∧
      d.graftAll [("/p:a", none)] = (d, .error (.invalidPath "/p:a")) :=
  ⟨.ofRoot ⟨⟨.bare "p:a", "", [], [], none⟩, []⟩, rfl, List.forall_mem_singleton.mpr rfl, rfl, rfl⟩

end Document

end XmlGraft
