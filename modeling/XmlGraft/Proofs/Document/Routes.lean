import XmlGraft.Proofs.Document.Listing
import XmlGraft.Proofs.Document.Merge
import XmlGraft.Proofs.Document.Positional
import XmlGraft.Proofs.Document.Upheld
import XmlGraft.Proofs.Path.Braces

/-!
# Routes — building a value, and replaying its writes

A value becomes a document by two routes: it is built (`Value.Builds`), or its writes are grafted
one after another onto an empty document (`Value.Replays`). The first takes the keys for names, the
second pastes them into paths, which are read again. So a key that is no name may still be replayed,
where it reads as a path of its own, and a name with a namespace is built but never replayed, since
no path holds a brace.

Those are all the differences: both routes are open exactly to the values that are open to one of
them and have no other keys than names without a colon, and sequences no longer than positions can
be written (`builds_and_replays_iff`).
-/

namespace XmlGraft

open Xml Data XmlGraft.Path

/-! ## Edits that can be made -/

/-- A positional step makes what is missing. -/
theorem Path.Part.creatable_of_isPositional {step : Part} (positional : step.isPositional = true) :
    step.creatable = true := by
  cases step with
  | filtered name predicate =>
    cases predicate with
    | position index => rfl
    | _ => cases positional
  | _ => rfl

/-- The steps of some edits are positional. -/
def AllPositional (edits : List Edit) : Prop :=
  ∀ edit ∈ edits, ∀ step ∈ edit.1, step.isPositional = true

namespace AllPositional

theorem nil : AllPositional [] := fun _ member => absurd member List.not_mem_nil

theorem append {first second : List Edit} (here : AllPositional first)
    (there : AllPositional second) : AllPositional (first ++ second) :=
  fun edit member => (List.mem_append.mp member).elim (here edit) (there edit)

/-- Edits of a child have one more step. -/
theorem atChild {step : Part} (positional : step.isPositional = true) {edits : List Edit}
    (inside : AllPositional edits) : AllPositional (atChild step edits) :=
  List.forall_mem_map.mpr fun edit member =>
    List.forall_mem_cons.mpr ⟨positional, inside edit member⟩

/-- Attributes are set in one step. -/
theorem attributes (attributes : List (String × Value)) :
    AllPositional (attributeEdits attributes) :=
  List.forall_mem_map.mpr fun _ _ => List.forall_mem_singleton.mpr rfl

end AllPositional

mutual

/-- The edits of a value are positional. -/
theorem allPositional_edits (value : Value) : AllPositional (edits value) := by
  have atEnd : ∀ text : Option String, AllPositional [([], text)] := fun text =>
    List.forall_mem_singleton.mpr (List.forall_mem_nil _)
  cases value with
  | scalar text => exact atEnd (someText text)
  | mapping entries =>
    rw [edits]
    split
    · exact atEnd none
    · exact (AllPositional.attributes _).append (allPositional_entryEdits entries)
  | _ => exact .nil

/-- So are those of entries. -/
theorem allPositional_entryEdits (entries : List (String × Value)) :
    AllPositional (entryEdits entries) := by
  cases entries with
  | nil => exact .nil
  | cons entry rest =>
    obtain ⟨key, value⟩ := entry
    have others := allPositional_entryEdits rest
    by_cases marked : marksAttribute key = true
    · rw [(entryEdits_marked value rest marked []).2]
      exact others
    · have one : ¬value.isSequence = true → AllPositional (entryEdits ((key, value) :: rest)) := by
        intro single
        rw [(entryEdits_single value rest marked single []).2]
        exact ((allPositional_edits value).atChild rfl).append others
      cases value with
      | sequence items =>
        rw [entryEdits, if_neg marked]
        exact (allPositional_itemEdits key 1 items).append others
      | _ => exact one Bool.false_ne_true

/-- So are those of items. -/
theorem allPositional_itemEdits (key : String) (position : Nat) (items : List Value) :
    AllPositional (itemEdits key position items) := by
  cases items with
  | nil => exact .nil
  | cons item rest =>
    exact ((allPositional_edits item).atChild rfl).append
      (allPositional_itemEdits key (position + 1) rest)

end

namespace Xml.Element

/-- A walk along steps that all can make what is missing succeeds, if markup can hold its value. -/
theorem exists_place_eq_ok {steps : List Part} (tail : IsTail steps)
    (creatable : ∀ step ∈ steps, step.creatable = true) {value : Option String}
    (writable : Writable value) (e : Element) :
    ∃ left address, e.place value steps = (left, .ok address) := by
  induction tail generalizing e with
  | nil =>
    cases value with
    | none => exact ⟨e, [], rfl⟩
    | some text =>
      have fits := writable text rfl
      exact ⟨e.withText text, [], by simp [place, writeText, setText, fits]⟩
  | @last key isName =>
    have wrote : ∃ left, e.writeAttribute [] key value = .ok left := by
      rw [writeAttribute_plain isName]
      cases value with
      | none => exact ⟨_, rfl⟩
      | some text => exact ⟨_, if_pos (writable text rfl)⟩
    obtain ⟨left, wrote⟩ := wrote
    exact ⟨left, [], place_last_eq_ok.mpr ⟨wrote, rfl⟩⟩
  | @step step rest head tail ih =>
    obtain ⟨makes, others⟩ := List.forall_mem_cons.mp creatable
    obtain ⟨f, designated⟩ : ∃ f, e.designated step = some f := by
      rw [designated]
      split
      · next f _ => exact ⟨f, rfl⟩
      · exact ⟨_, if_pos makes⟩
    obtain ⟨inner, inside, placed⟩ := ih others f.target
    exact ⟨_, _, (place_step_eq_ok head).mpr ⟨f, inner, inside, designated, placed, rfl, rfl⟩⟩

/-- Edits whose steps make what is missing can be made, if markup can hold their texts. -/
theorem exists_becomes {edits : List Edit} (tails : ∀ edit ∈ edits, IsTail edit.1)
    (positional : AllPositional edits) (writable : AllWritable edits) (e : Element) :
    ∃ left, Becomes edits e left := by
  induction edits generalizing e with
  | nil => exact ⟨e, .refl e⟩
  | cons edit rest ih =>
    obtain ⟨steps, value⟩ := edit
    obtain ⟨tail, tails⟩ := List.forall_mem_cons.mp tails
    obtain ⟨here, positional⟩ := List.forall_mem_cons.mp positional
    obtain ⟨fits, writable⟩ := List.forall_mem_cons.mp writable
    have creatable : ∀ step ∈ steps, step.creatable = true := fun step member =>
      Part.creatable_of_isPositional (here step member)
    obtain ⟨next, address, placed⟩ := exists_place_eq_ok tail creatable fits e
    obtain ⟨left, becomes⟩ := ih tails positional writable next
    exact ⟨left, .edit tail placed becomes⟩

/-- Markup can hold the texts of edits that were made. -/
theorem Becomes.allWritable {edits : List Edit} {e left : Element}
    (becomes : Becomes edits e left) : AllWritable edits := by
  induction becomes with
  | refl e => exact fun _ member => absurd member List.not_mem_nil
  | @edit steps value edits e next left address tail placed _ ih =>
    refine List.forall_mem_cons.mpr ⟨?_, ih⟩
    rintro text rfl
    exact compatible_of_place tail placed

end Xml.Element

/-! ## Keys that both routes accept -/

/-- The paths of some writes can be read. -/
def AllReadable (writes : List Write) : Prop :=
  ∀ write ∈ writes, ∃ steps, parse write.1 = .ok steps

theorem allReadable_append {first second : List Write} :
    AllReadable (first ++ second) ↔ AllReadable first ∧ AllReadable second := by
  simp only [AllReadable, List.mem_append, or_imp, forall_and]

/-- A text that is taken for a name is the label of the name, or begins with a brace. -/
theorem Xml.Name.ofText_cases {s : String} {name : Name} (read : Name.ofText s = .ok name) :
    s = name.label ∨ ∃ rest, s.toList = '\x7b' :: rest := by
  unfold Name.ofText at read
  split at read
  · split at read
    · cases read
    · next rest begins => exact .inr ⟨rest, begins⟩
    · cases read
      exact .inl rfl
  · cases read

/-- Steps can be written, in flat characters. -/
def IsFlatPath (steps : List Part) : Prop :=
  ∃ front, print steps = .ok front ∧ front.toList.all isFlat = true

/-- A step is written behind the steps before it. -/
theorem Path.print_snoc {steps : List Part} {front : String} (printed : print steps = .ok front)
    {step : Part} {shown : String} (last : step.print = .ok shown) :
    print (steps ++ [step]) = .ok (front ++ ("/" ++ shown)) := by
  induction steps generalizing front with
  | nil =>
    cases printed
    rw [List.nil_append, print, last]
    simp [print]
  | cons first rest ih =>
    obtain ⟨text, printedFirst, printed⟩ := bind_eq_ok.mp printed
    obtain ⟨others, printedOthers, same⟩ := bind_eq_ok.mp printed
    cases same
    rw [List.cons_append, print, printedFirst, ok_bind, ih printedOthers, ok_bind]
    simp only [String.append_assoc]
    rfl

/-- A flat path goes on with a step that is written in flat characters. -/
theorem IsFlatPath.snoc {steps : List Part} (flat : IsFlatPath steps) {step : Part} {shown : String}
    (last : step.print = .ok shown) (flatLast : shown.toList.all isFlat = true) :
    IsFlatPath (steps ++ [step]) := by
  obtain ⟨front, printed, flatFront⟩ := flat
  refine ⟨_, print_snoc printed last, ?_⟩
  simp only [String.toList_append, List.all_append, flatFront, flatLast]
  rfl

/-- A flat path goes on with a name without a colon. -/
theorem IsFlatPath.element {steps : List Part} (flat : IsFlatPath steps) {key : String}
    (isName : isNCName key = true) : IsFlatPath (steps ++ [.element key]) := by
  have shown : (Part.element key).print = .ok key := rfl
  exact flat.snoc shown (isFlat_of_isNCName isName)

/-- A position is written in flat characters behind the name. -/
theorem print_position_flat (key : String) {position : Nat}
    (written : position < Decimal.integerLimit) :
    ∃ behind, (Part.filtered key (.position position)).print = .ok (key ++ behind) ∧
      behind.toList.all isFlat = true := by
  have positive : ¬(position : Int) < 0 := by omega
  refine ⟨"[" ++ String.ofList (Decimal.decimalDigits position) ++ "]", ?_, ?_⟩
  · rw [Part.print, Part.print, positionText, Decimal.integer?, Int.natAbs_natCast, if_pos written,
      if_neg positive]
    simp only [Option.elim, ok_map, String.append_assoc]
  · have digits : (Decimal.decimalDigits position).all isFlat = true :=
      isFlat_of_isDigit fun _ => isDigit_of_mem_decimalDigits
    simp only [String.toList_append, String.toList_ofList, List.all_append, digits]
    rfl

/-- A key whose label is a name without a colon is one itself, if it is read in a path, in a step
behind a flat path. -/
theorem isNCName_of_parse {key : String} {name : Name} (read : Name.ofText key = .ok name)
    (isName : isNCName name.label = true) {steps : List Part} (flat : IsFlatPath steps)
    {step : Part} {mark behind : String} (shown : step.print = .ok (mark ++ key ++ behind))
    (flatMark : mark.toList.all isFlat = true) {write : Write}
    (through : Through (steps ++ [step]) write) {path : List Part}
    (parsed : parse write.1 = .ok path) : isNCName key = true := by
  rcases name.ofText_cases read with rfl | ⟨rest, braced⟩
  · exact isName
  · obtain ⟨front, printed, flatFront⟩ := flat
    obtain ⟨whole, more, printedWhole, spelled⟩ := through
    rw [print_snoc printed shown] at printedWhole
    cases printedWhole
    have before : (front ++ "/" ++ mark).toList.all isFlat = true := by
      simp only [String.toList_append, List.all_append, flatFront, flatMark]
      rfl
    have brace : write.1.toList =
        (front ++ "/" ++ mark).toList ++ '\x7b' :: (rest ++ behind.toList ++ more.toList) := by
      simp [spelled, braced]
    exact absurd parsed (parse_brace_ne_ok brace before path)

/-- The key of an element that is made is a name without a colon, if it is read in the paths that
are written for it. -/
theorem isNCName_of_writesOf {key : String} {start : Element} (made : Element.new key = .ok start)
    {steps : List Part} (flat : IsFlatPath steps) {step : Part} {behind : String}
    (shown : step.print = .ok (key ++ behind)) {value : Value} {writes : List Write}
    (wrote : writesOf (steps ++ [step]) value = .ok writes) (readable : AllReadable writes) :
    isNCName key = true := by
  obtain ⟨some, through⟩ := through_of_writesOf value wrote
  obtain ⟨write, member⟩ := List.exists_mem_of_ne_nil writes some
  obtain ⟨path, parsed⟩ := readable write member
  have isName := isNCName_of_elementName (Element.new_eq_ok made).1
  have spelled : step.print = .ok ("" ++ key ++ behind) := by rw [shown, String.empty_append]
  exact isNCName_of_parse (Element.ofText_of_new made) isName flat spelled rfl
    (through write member) parsed

/-- So it is with an element that is told by its name alone. -/
theorem isNCName_of_element {key : String} {start : Element} (made : Element.new key = .ok start)
    {steps : List Part} (flat : IsFlatPath steps) {value : Value} {writes : List Write}
    (wrote : writesOf (steps ++ [.element key]) value = .ok writes)
    (readable : AllReadable writes) : isNCName key = true := by
  have shown : (Part.element key).print = .ok (key ++ "") := by rw [Part.print, String.append_empty]
  exact isNCName_of_writesOf made flat shown wrote readable

/-- The keys of attributes that are set, written and read again are names without a colon. -/
theorem isNCName_of_writesOfAttributes {attributes : List (String × Value)} {e left : Element}
    (set : e.setAttributes attributes = .ok left) {steps : List Part} (flat : IsFlatPath steps)
    {writes : List Write} (wrote : writesOfAttributes steps attributes = .ok writes)
    (readable : AllReadable writes) : ∀ a ∈ attributes, isNCName a.1 = true := by
  induction attributes generalizing e writes with
  | nil => exact List.forall_mem_nil _
  | cons entry rest ih =>
    obtain ⟨key, value⟩ := entry
    obtain ⟨next, setFirst, setOthers⟩ := bind_eq_ok.mp set
    obtain ⟨first, others, wroteFirst, wroteOthers, rfl⟩ := both_eq_ok.mp wrote
    obtain ⟨readableFirst, readableOthers⟩ := allReadable_append.mp readable
    refine List.forall_mem_cons.mpr ⟨?_, ih setOthers wroteOthers readableOthers⟩
    obtain ⟨name, judged, _⟩ := bind_eq_ok.mp setFirst
    obtain ⟨read, isName⟩ := isNCName_of_attributeName judged
    obtain ⟨some, through⟩ := through_of_writeAt wroteFirst
    obtain ⟨write, member⟩ := List.exists_mem_of_ne_nil first some
    obtain ⟨path, parsed⟩ := readableFirst write member
    have spelled : (Part.attribute key).print = .ok ("@" ++ key ++ "") := by
      rw [Part.print, String.append_empty]
    exact isNCName_of_parse read isName flat spelled rfl (through write member) parsed

/-- What denotes an element makes it first. -/
theorem Xml.Element.new_of_ofValue {tag : String} {value : Value} {e : Element}
    (built : ofValue tag value = .ok e) : ∃ start, Element.new tag = .ok start := by
  obtain ⟨_, rfl, built⟩ | ⟨_, start, _, _, _, made, _⟩ := ofValue_cases built
  · obtain ⟨start, made, _⟩ := bind_eq_ok.mp built
    exact ⟨start, made⟩
  · exact ⟨start, made⟩

mutual

/-- A value that denotes an element, and is written behind a flat path so that all of it can be read
again, has no other keys than names without a colon. -/
theorem spellable_of_ofValue (value : Value) {tag : String} {e : Element}
    (built : Element.ofValue tag value = .ok e) {steps : List Part} (flat : IsFlatPath steps)
    {writes : List Write} (wrote : writesOf steps value = .ok writes)
    (readable : AllReadable writes) : value.Spellable := by
  cases value with
  | mapping entries =>
    obtain ⟨_, none, _⟩ | ⟨_, start, marked, children, same, made, set, builtChildren, _⟩ :=
      Element.ofValue_cases built
    · cases none
    cases same
    obtain ⟨attributes, others, wroteAttributes, wroteOthers, body⟩ := writesOf_mapping_eq_ok wrote
    have inside : AllReadable (attributes ++ others) := by
      rcases body with ⟨empty, _⟩ | ⟨_, rfl⟩
      · rw [empty]
        exact List.forall_mem_nil _
      · exact readable
    obtain ⟨readableAttributes, readableOthers⟩ := allReadable_append.mp inside
    have names := isNCName_of_writesOfAttributes set flat wroteAttributes readableAttributes
    exact spellable_of_ofEntries entries names builtChildren flat wroteOthers readableOthers
  | sequence items => cases wrote
  | _ => trivial

/-- So it is with the entries of a mapping, if the keys of its attributes are known to be. -/
theorem spellable_of_ofEntries (entries : List (String × Value))
    (names : ∀ a ∈ Value.attributesOf entries, isNCName a.1 = true) {children : List Element}
    (built : Element.ofEntries entries = .ok children) {steps : List Part}
    (flat : IsFlatPath steps) {writes : List Write}
    (wrote : writesOfEntries steps entries = .ok writes) (readable : AllReadable writes) :
    EntriesSpellable entries := by
  cases entries with
  | nil => trivial
  | cons entry rest =>
    obtain ⟨key, value⟩ := entry
    by_cases marked : marksAttribute key = true
    · rw [Value.attributesOf_marked marked] at names
      rw [Element.ofEntries_marked marked] at built
      rw [(entryEdits_marked value rest marked steps).1] at wrote
      obtain ⟨isName, names⟩ := List.forall_mem_cons.mp names
      refine ⟨?_, spellable_of_ofEntries rest names built flat wrote readable⟩
      rw [if_pos marked]
      exact isName
    · rw [Value.attributesOf_unmarked marked] at names
      have one : ¬value.isSequence = true → EntriesSpellable ((key, value) :: rest) := by
        intro single
        obtain ⟨_, _, builtFirst, builtOthers, _⟩ :=
          (Element.ofEntries_single marked single).mp built
        obtain ⟨first, others, wroteFirst, wroteOthers, rfl⟩ :=
          (writesOfEntries_single marked single).mp wrote
        obtain ⟨readableFirst, readableOthers⟩ := allReadable_append.mp readable
        obtain ⟨start, made⟩ := Element.new_of_ofValue builtFirst
        have isName := isNCName_of_element made flat wroteFirst readableFirst
        have inside := flat.element isName
        refine ⟨?_, spellable_of_ofEntries rest names builtOthers flat wroteOthers readableOthers⟩
        rw [if_neg marked]
        exact .inr ⟨isName, spellable_of_ofValue value builtFirst inside wroteFirst readableFirst⟩
      cases value with
      | sequence items =>
        obtain ⟨_, _, builtFirst, builtOthers, _⟩ := (Element.ofEntries_sequence marked).mp built
        obtain ⟨first, others, wroteFirst, wroteOthers, rfl⟩ :=
          (writesOfEntries_sequence marked).mp wrote
        obtain ⟨readableFirst, readableOthers⟩ := allReadable_append.mp readable
        obtain ⟨inside, named⟩ :=
          spellable_of_ofItems items builtFirst flat wroteFirst readableFirst
        refine ⟨?_, spellable_of_ofEntries rest names builtOthers flat wroteOthers readableOthers⟩
        rw [if_neg marked]
        cases items with
        | nil => exact .inl rfl
        | cons item more =>
          obtain ⟨isName, written⟩ := named (List.cons_ne_nil item more)
          exact .inr ⟨isName, inside, by omega⟩
      | _ => exact one Bool.false_ne_true

/-- So it is with items, whose positions are written too. -/
theorem spellable_of_ofItems (items : List Value) {key : String} {children : List Element}
    (built : Element.ofItems key items = .ok children) {steps : List Part}
    (flat : IsFlatPath steps) {position : Nat} {writes : List Write}
    (wrote : writesOfItems steps key position items = .ok writes)
    (readable : AllReadable writes) :
    ItemsSpellable items ∧ (items ≠ [] → isNCName key = true ∧
      position + items.length ≤ Decimal.integerLimit) := by
  cases items with
  | nil => exact ⟨trivial, fun some => absurd rfl some⟩
  | cons item rest =>
    obtain ⟨_, _, builtFirst, builtOthers, _⟩ := Element.ofItems_cons.mp built
    obtain ⟨first, others, wroteFirst, wroteOthers, rfl⟩ := writesOfItems_cons.mp wrote
    obtain ⟨readableFirst, readableOthers⟩ := allReadable_append.mp readable
    have here := position_lt_of_writesOf wroteFirst
    obtain ⟨start, made⟩ := Element.new_of_ofValue builtFirst
    obtain ⟨behind, shown, flatBehind⟩ := print_position_flat key here
    have isName := isNCName_of_writesOf made flat shown wroteFirst readableFirst
    have inside := flat.snoc shown (by
      rw [String.toList_append, List.all_append, flatBehind, isFlat_of_isNCName isName]
      rfl)
    have first := spellable_of_ofValue item builtFirst inside wroteFirst readableFirst
    obtain ⟨others, named⟩ := spellable_of_ofItems rest builtOthers flat wroteOthers readableOthers
    refine ⟨⟨first, others⟩, fun _ => ⟨isName, ?_⟩⟩
    cases rest with
    | nil => exact here
    | cons next more =>
      obtain ⟨_, written⟩ := named (List.cons_ne_nil next more)
      simp only [List.length_cons] at written ⊢
      omega

end

/-! ## Both routes -/

/-- Writes that are all made have paths that can be read. -/
theorem Document.readable_of_graftAll {writes : List Write} {d : Document}
    (replayed : (d.graftAll writes).2 = .ok ()) : AllReadable writes := by
  induction writes generalizing d with
  | nil => exact List.forall_mem_nil _
  | cons write rest ih =>
    obtain ⟨path, text⟩ := write
    rw [graftAll] at replayed
    split at replayed
    · next grafted =>
      refine List.forall_mem_cons.mpr ⟨?_, ih replayed⟩
      cases parsed : parse path with
      | ok steps => exact ⟨steps, rfl⟩
      | error fault =>
        rw [graft, parsed] at grafted
        cases grafted
    · cases replayed

/-- The writes of a value under a name can all be made in an empty document if markup can hold their
texts. -/
theorem Document.graftAll_isOk_iff {tag : String} (isName : isNCName tag = true) {value : Value}
    {writes : List Write} (spells : Spells [.element tag] (edits value) writes)
    (some : writes ≠ []) :
    (empty.graftAll writes).2 = .ok () ↔ AllWritable (edits value) := by
  have nonempty : edits value ≠ [] := by
    intro none
    rw [none] at spells
    exact some (List.map_eq_nil_iff.mp spells)
  constructor
  · intro replayed
    obtain ⟨_, _, _, becomes, _⟩ := becomes_of_graftAll nonempty spells (Prod.ext rfl replayed)
    exact becomes.allWritable
  · intro writable
    have tails : ∀ edit ∈ edits value, IsTail edit.1 := by
      intro edit member
      have spelled : (Except.ok ([.element tag] ++ edit.1), edit.2) ∈
          writes.map fun write => (parse write.1, write.2) := by
        rw [spells]
        exact List.mem_map.mpr ⟨edit, member, rfl⟩
      obtain ⟨write, _, same⟩ := List.mem_map.mp spelled
      exact (wellFormed_of_parse (Prod.mk.inj same).1).2
    obtain ⟨left, becomes⟩ := Element.exists_becomes tails (allPositional_edits value) writable
      (.blank tag)
    rw [graftAll_empty isName becomes nonempty spells]

/-- Building a value succeeds. -/
def Data.Value.Builds (value : Value) : Prop := ∃ d, Document.ofValue value = .ok d

/-- Listing the writes of a value succeeds, and so does grafting them all onto an empty document. -/
def Data.Value.Replays (value : Value) : Prop :=
  ∃ writes, value.writes = .ok writes ∧ (Document.empty.graftAll writes).2 = .ok ()

/-- A value can be wrapped, and then the paths to its parts can be spelled. -/
def Data.Value.WrapsSpellable (value : Value) : Prop :=
  ∃ wrapped, value.wrap = .ok wrapped ∧ wrapped.Spellable

/-- Under a name, a value whose parts have paths that can be spelled is built exactly if it is
replayed. -/
theorem builds_iff_replays_root {tag : String} (isName : isNCName tag = true) {node : Value}
    (spellable : node.Spellable) :
    (∃ root, Element.ofValue tag node = .ok root) ↔
      ∃ writes, writesOf [.element tag] node = .ok writes ∧
        (Document.empty.graftAll writes).2 = .ok () := by
  have leads : LeadsToElement [.element tag] :=
    ⟨List.cons_ne_nil _ _, List.forall_mem_singleton.mpr isName⟩
  rw [Element.ofValue_isOk_iff node spellable isName]
  constructor
  · rintro ⟨isNode, writable⟩
    obtain ⟨writes, wrote, spells⟩ := writesOf_spells node spellable isNode leads
    obtain ⟨some, _⟩ := through_of_writesOf node wrote
    exact ⟨writes, wrote, (Document.graftAll_isOk_iff isName spells some).mpr writable⟩
  · rintro ⟨writes, listed, replayed⟩
    have isNode := isNode_of_writesOf node listed
    obtain ⟨_, wrote, spells⟩ := writesOf_spells node spellable isNode leads
    obtain rfl := Except.ok.inj (listed.symm.trans wrote)
    obtain ⟨some, _⟩ := through_of_writesOf node wrote
    exact ⟨isNode, (Document.graftAll_isOk_iff isName spells some).mp replayed⟩

/-- Under a name, only a value whose parts have paths that can be spelled is both built and
replayed. -/
theorem spellable_of_both_root {tag : String} {node : Value} {root : Element}
    (built : Element.ofValue tag node = .ok root) {writes : List Write}
    (wrote : writesOf [.element tag] node = .ok writes)
    (replayed : (Document.empty.graftAll writes).2 = .ok ()) :
    isNCName tag = true ∧ node.Spellable := by
  have readable := Document.readable_of_graftAll replayed
  have flat : IsFlatPath [] := ⟨"", rfl, rfl⟩
  obtain ⟨start, made⟩ := Element.new_of_ofValue built
  have isName := isNCName_of_element made flat wrote readable
  exact ⟨isName, spellable_of_ofValue node built (flat.element isName) wrote readable⟩

/-- Under a name, both routes are open exactly if one of them is and the paths can be spelled. -/
theorem both_root_iff {tag : String} {node : Value} :
    ((∃ root, Element.ofValue tag node = .ok root) ∧
      ∃ writes, writesOf [.element tag] node = .ok writes ∧
        (Document.empty.graftAll writes).2 = .ok ()) ↔
    ((∃ root, Element.ofValue tag node = .ok root) ∨
      ∃ writes, writesOf [.element tag] node = .ok writes ∧
        (Document.empty.graftAll writes).2 = .ok ()) ∧ isNCName tag = true ∧ node.Spellable := by
  constructor
  · rintro ⟨⟨root, built⟩, writes, wrote, replayed⟩
    exact ⟨.inl ⟨root, built⟩, spellable_of_both_root built wrote replayed⟩
  · rintro ⟨one, isName, spellable⟩
    have agree := builds_iff_replays_root isName spellable
    exact ⟨one.elim id agree.mpr, one.elim agree.mp id⟩

/-- Building a value and replaying its writes both succeed exactly if one of them does and the paths
to its parts can be spelled: the keys are names without a colon, except where they stand for
nothing, and the positions can be written. So for such values the routes agree, and where they
disagree, the one that succeeds takes a key that is no such name. -/
theorem builds_and_replays_iff (value : Value) :
    value.Builds ∧ value.Replays ↔ (value.Builds ∨ value.Replays) ∧ value.WrapsSpellable := by
  unfold Value.Builds Value.Replays Value.WrapsSpellable Document.ofValue Value.writes
  cases value.wrap with
  | error fault => simp
  | ok wrapped =>
    simp only [ok_bind, Except.ok.injEq, exists_eq_left']
    cases found : documentEntry? wrapped with
    | error fault => simp
    | ok entry =>
      obtain ⟨rfl, shape⟩ := documentEntry?_eq_ok found
      cases entry with
      | none =>
        -- the empty mapping is the empty document, and has no writes
        have builds : ∃ d, (Except.ok Document.empty : Except Fault Document) = .ok d := ⟨_, rfl⟩
        have replays : ∃ writes, (Except.ok [] : Except Fault (List Write)) = .ok writes ∧
            (Document.empty.graftAll writes).2 = .ok () := ⟨[], rfl, rfl⟩
        exact ⟨fun both => ⟨.inl both.1, trivial⟩, fun _ => ⟨builds, replays⟩⟩
      | some entry =>
        obtain ⟨tag, node⟩ := entry
        obtain ⟨unmarked, single⟩ := shape (tag, node) rfl
        have builds : (∃ d, (Element.ofValue tag node >>= fun root =>
            Except.ok (Document.ofRoot root)) = .ok d) ↔
              ∃ root, Element.ofValue tag node = .ok root := by
          simp only [bind_eq_ok]
          constructor
          · rintro ⟨_, root, built, _⟩
            exact ⟨root, built⟩
          · rintro ⟨root, built⟩
            exact ⟨_, root, built, rfl⟩
        have spells : (Value.mapping [(tag, node)]).Spellable ↔
            isNCName tag = true ∧ node.Spellable := by
          constructor
          · exact fun spellable => spellable.single unmarked single
          · intro named
            refine ⟨?_, trivial⟩
            rw [if_neg unmarked]
            exact .inr named
        exact (and_congr_left' builds).trans (both_root_iff.trans
          (and_congr (or_congr_left builds.symm) spells.symm))

/-- It is not so that the routes are open to the same values: a name with a namespace is built but
not replayed, and a key that is a path of two names is replayed but not built. -/
theorem builds_and_replays_differ :
    (Value.Builds (.dict [(.text "\x7bu\x7da", .text "x")]) ∧
      ¬Value.Replays (.dict [(.text "\x7bu\x7da", .text "x")])) ∧
    ¬Value.Builds (.dict [(.text "r", .dict [(.text "a/b", .text "x")])]) ∧
      Value.Replays (.dict [(.text "r", .dict [(.text "a/b", .text "x")])]) := by
  refine ⟨⟨⟨_, rfl⟩, ?_⟩, ?_, _, rfl, rfl⟩
  · rintro ⟨writes, listed, replayed⟩
    have same : Value.writes (.dict [(.text "\x7bu\x7da", .text "x")]) =
        .ok [("/\x7bu\x7da", some "x")] := rfl
    rw [same] at listed
    cases listed
    have refused : (Document.empty.graftAll [("/\x7bu\x7da", some "x")]).2 =
        .error (.invalidPath "/\x7bu\x7da") := rfl
    rw [refused] at replayed
    cases replayed
  · rintro ⟨d, built⟩
    have refused : Document.ofValue (.dict [(.text "r", .dict [(.text "a/b", .text "x")])]) =
        .error (.badElementName "a/b") := rfl
    rw [refused] at built
    cases built

end XmlGraft
