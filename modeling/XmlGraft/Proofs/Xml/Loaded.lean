import XmlGraft.Proofs.Xml.Denoted
import XmlGraft.Xml.Reader

/-!
# Loaded trees — what reading makes

A tree that is read obeys the law of what was read (`Element.obeys_read`), whether it is read
as it stands or for its data alone. Every open element obeys the law as far as it has been built,
among the declarations of those around it (`Build.Sound`), and every piece that was scanned keeps it
so (`Build.Sound.take`).
-/

namespace XmlGraft.Xml

/-- The declarations in force inside some open elements. -/
def declaredIn (opened : List Opened) : List Declaration :=
  (opened.head?.map (·.declared)).getD []

/-- An open element obeys the law of what was read, as far as it has been built. -/
structure Opened.Sound (above : List Declaration) (o : Opened) : Prop where
  declared : o.declared = o.head.declarations ++ above
  head : o.head.Denoted above ∧ o.head.Lacks (.bare "xmlns")
  text : Writable o.head.text
  children : ∀ node ∈ o.children, node.Obeys readLaw o.declared

/-- Open elements obey the law, each among the declarations of those around it. -/
def AllSound : List Opened → Prop
  | [] => True
  | o :: others => o.Sound (declaredIn others) ∧ AllSound others

/-- What has been built obeys the law. -/
structure Build.Sound (b : Build) : Prop where
  opened : AllSound b.opened
  root : ∀ e ∈ b.root, e.Obeys readLaw []

/-! ## Open elements -/

/-- A text that grows by what can stand in markup can stand in it. -/
theorem writable_joinText {text : Option String} (writable : Writable text) {more : String}
    (compatibleMore : compatible more = true) : Writable (joinText text more) := by
  rintro _ ⟨⟩
  have before : compatible (textOf text) = true := by
    cases text with
    | none => rfl
    | some t => exact writable t rfl
  rw [compatible, String.toList_append, List.all_append]
  exact Bool.and_eq_true_iff.mpr ⟨before, compatibleMore⟩

namespace Opened

variable {above : List Declaration} {o : Opened}

/-- Text may be added. -/
theorem Sound.addText (sound : o.Sound above) {text : String} (writable : compatible text = true) :
    (o.addText text).Sound above := by
  unfold Opened.addText
  split
  · exact { sound with
      head := ⟨{ sound.head.1 with }, sound.head.2⟩
      text := writable_joinText sound.text writable }
  · next last others same =>
    have inside := sound.children
    rw [same] at inside
    obtain ⟨first, rest⟩ := List.forall_mem_cons.mp inside
    have tail : Writable last.tail := by
      cases last with
      | _ => exact first.2
    exact { sound with
      children := List.forall_mem_cons.mpr
        ⟨first.withTail (writable_joinText tail writable), rest⟩ }

/-- A child that obeys the law may be added. -/
theorem Sound.addChild (sound : o.Sound above) {node : Node}
    (obeys : node.Obeys readLaw o.declared) : (o.addChild node).Sound above :=
  { sound with children := List.forall_mem_cons.mpr ⟨obeys, sound.children⟩ }

/-- A stretch may be added, whether or not it is kept. -/
theorem Sound.addStretch (sound : o.Sound above) (ahead : Ahead) {stretch : List Char}
    (all : ∀ c ∈ stretch, isXmlChar c = true) : (o.addStretch ahead stretch).Sound above := by
  unfold Opened.addStretch
  split
  · exact sound
  · exact { sound.addText (compatible_ofList.mpr (xmlChars_unifyLineBreaks all)) with }

/-- Stretches may be added. -/
theorem Sound.addStretches (sound : o.Sound above) (ahead : Ahead) {stretches : List (List Char)}
    (all : ∀ stretch ∈ stretches, ∀ c ∈ stretch, isXmlChar c = true) :
    (o.addStretches ahead stretches).Sound above := by
  induction stretches generalizing o with
  | nil => exact sound
  | cons stretch rest ih =>
    obtain ⟨first, others⟩ := List.forall_mem_cons.mp all
    cases rest with
    | nil => exact sound.addStretch ahead first
    | cons next rest => exact ih (sound.addStretch (.ofChars next) first) others

/-- A run of characters may be added. -/
theorem Sound.addRun (sound : o.Sound above) (mode : ReadingMode) {run : List Char}
    (all : ∀ c ∈ run, isXmlChar c = true) (next : Option Markup) :
    (o.addRun mode run next).Sound above := by
  cases mode with
  | faithful => exact sound.addText (compatible_ofList.mpr (xmlChars_unifyLineBreaks all))
  | dataOnly =>
    refine sound.addStretches _ fun stretch member c inStretch => all c ?_
    rw [← flatten_stretches run]
    exact List.mem_flatten_of_mem member inStretch

/-- An open element becomes one that obeys the law. -/
theorem Sound.close (sound : o.Sound above) : o.close.Obeys readLaw above := by
  refine ⟨sound.head, sound.text, allObey_iff.mpr fun node member => ?_⟩
  exact sound.declared ▸ sound.children node (List.mem_reverse.mp member)

end Opened

namespace Build

variable {b left : Build}

/-- The declarations in force take effect. -/
theorem Sound.effective (sound : b.Sound) : ∀ d ∈ b.declared, d.takesEffect = true := by
  obtain ⟨opened, root, identifiers, remark⟩ := b
  cases opened with
  | nil => exact fun _ member => absurd member List.not_mem_nil
  | cons o others =>
    have inner := sound.opened.1
    have declared : declared ⟨o :: others, root, identifiers, remark⟩ =
      o.head.declarations ++ declaredIn others := inner.declared
    rw [declared]
    exact inner.head.1.effective

/-- A finished element may be added. -/
theorem Sound.addElement (sound : b.Sound) {e : Element} (obeys : e.Obeys readLaw b.declared)
    (added : b.addElement e = some left) : left.Sound := by
  obtain ⟨opened, root, identifiers, remark⟩ := b
  unfold Build.addElement at added
  split at added
  · next o others same =>
    cases same
    cases added
    exact ⟨⟨sound.opened.1.addChild (Element.obeys_node.mpr obeys), sound.opened.2⟩, sound.root⟩
  · next same =>
    cases same
    split at added
    · cases added
      refine ⟨trivial, ?_⟩
      rintro _ ⟨⟩
      exact obeys
    · cases added

/-- The innermost open element may be changed. -/
theorem Sound.inside (sound : b.Sound) {change : Opened → Opened}
    (keeps : ∀ {above : List Declaration} {o : Opened}, o.Sound above → (change o).Sound above)
    (changed : b.inside change = some left) : left.Sound := by
  obtain ⟨opened, root, identifiers, remark⟩ := b
  unfold Build.inside at changed
  split at changed
  · next o others same =>
    cases same
    cases changed
    exact ⟨⟨keeps sound.opened.1, sound.opened.2⟩, sound.root⟩
  · cases changed

/-- A comment or an instruction may be added, also where it is not kept. -/
theorem Sound.addAside (sound : b.Sound) {node : Node}
    (obeys : ∀ above, node.Obeys readLaw above) : (b.addAside node).Sound := by
  obtain ⟨opened, root, identifiers, remark⟩ := b
  cases opened with
  | nil => exact sound
  | cons o others => exact ⟨⟨sound.opened.1.addChild (obeys _), sound.opened.2⟩, sound.root⟩

/-- To take note of an identifier changes nothing in the tree. -/
theorem noteIdentifier_eq (head : Head) (b : Build) :
    (b.noteIdentifier head).opened = b.opened ∧ (b.noteIdentifier head).root = b.root := by
  unfold noteIdentifier
  split
  · exact ⟨rfl, rfl⟩
  · exact ⟨rfl, rfl⟩

/-- What is noted does not touch the law. -/
theorem Sound.noted (sound : b.Sound) (remarks : List Remark) (head : Head) :
    ((b.note remarks).noteIdentifier head).Sound := by
  obtain ⟨opened, root⟩ := noteIdentifier_eq head (b.note remarks)
  exact ⟨opened ▸ sound.opened, root ▸ sound.root⟩

/-- An element may be opened, or added where it is empty. -/
theorem Sound.openElement? (sound : b.Sound) {tag : String} (isTag : TagName tag)
    {entries : List (String × String)} (areEntries : ∀ entry ∈ entries, IsEntry entry)
    {empty : Bool} (opens : b.openElement? tag entries empty = some left) : left.Sound := by
  unfold Build.openElement? at opens
  split at opens
  · cases opens
  · split at opens
    · cases opens
    · next head remarks denotes =>
      obtain ⟨denoted, lacks, noText⟩ :=
        Head.denoted_of_ofTag sound.effective isTag areEntries denotes
      have noted := sound.noted remarks head
      obtain ⟨opened, _⟩ := noteIdentifier_eq head (b.note remarks)
      have declared : declaredIn ((b.note remarks).noteIdentifier head).opened = b.declared :=
        congrArg declaredIn opened
      have writable : Writable head.text := noText ▸ writable_none
      dsimp only at opens
      split at opens
      · refine noted.addElement (e := ⟨head, []⟩) ⟨?_, writable, trivial⟩ opens
        rw [Build.declared, ← declaredIn, declared]
        exact ⟨denoted, lacks⟩
      · cases opens
        refine ⟨⟨⟨?_, ?_, writable, fun _ member => absurd member List.not_mem_nil⟩,
          noted.opened⟩, noted.root⟩
        · rw [declared, Build.declared, ← declaredIn, declared]
        · rw [declared]
          exact ⟨denoted, lacks⟩

/-- Every lawful piece may be taken. -/
theorem Sound.take (sound : b.Sound) {mode : ReadingMode} {piece : Markup} (lawful : piece.Lawful)
    {next : Option Markup} (taken : b.take mode piece next = some left) : left.Sound := by
  cases piece with
  | chars run =>
    unfold Build.take at taken
    dsimp only at taken
    split at taken
    · split at taken
      · cases taken
        exact sound
      · cases taken
    · exact sound.inside (fun inner => inner.addRun mode lawful next) taken
  | reference c =>
    have writable : compatible (String.singleton c) = true := by
      rw [compatible, String.toList_singleton, List.all_cons, List.all_nil, Bool.and_true]
      exact lawful
    exact sound.inside (fun inner => inner.addText writable) taken
  | cdata run =>
    exact sound.inside (fun inner => inner.addText (compatible_ofList.mpr lawful)) taken
  | comment content =>
    cases mode with
    | faithful =>
      cases taken
      exact sound.addAside fun _ => ⟨lawful, writable_none⟩
    | dataOnly =>
      cases taken
      exact sound
  | instruction target content =>
    cases taken
    have obeys : ∀ above, (Node.instruction target content none).Obeys readLaw above :=
      fun _ => ⟨lawful, writable_none⟩
    have added := sound.addAside obeys
    exact ⟨added.opened, added.root⟩
  | opening tag entries empty => exact sound.openElement? lawful.1 lawful.2 taken
  | closing tag =>
    obtain ⟨opened, root, identifiers, remark⟩ := b
    cases opened with
    | nil => cases taken
    | cons o others =>
      unfold Build.take at taken
      dsimp only at taken
      split at taken
      · have around : Build.Sound ⟨others, root, identifiers, remark⟩ :=
          ⟨sound.opened.2, sound.root⟩
        exact around.addElement sound.opened.1.close taken
      · cases taken

/-- Lawful pieces may be taken to their end. -/
theorem Sound.takeAll {mode : ReadingMode} {pieces : List Markup}
    (lawful : ∀ piece ∈ pieces, piece.Lawful) (sound : b.Sound)
    (taken : takeAll mode pieces b = some left) : left.Sound := by
  induction pieces generalizing b with
  | nil =>
    cases taken
    exact sound
  | cons piece rest ih =>
    obtain ⟨first, others⟩ := List.forall_mem_cons.mp lawful
    rw [Build.takeAll] at taken
    split at taken
    · next takenFirst => exact ih others (sound.take first takenFirst) taken
    · cases taken

/-- Nothing built yet obeys the law. -/
theorem sound_start : Build.start.Sound := ⟨trivial, fun _ none => nomatch none⟩

end Build

/-- A tree that is read obeys the law of what was read. -/
theorem Element.obeys_read {mode : ReadingMode} {document : String} {e : Element}
    (read : Element.read mode document = some e) : e.Obeys readLaw [] := by
  obtain ⟨cs, _, read⟩ := Option.bind_eq_some_iff.mp read
  obtain ⟨pieces, scanned, read⟩ := Option.bind_eq_some_iff.mp read
  obtain ⟨b, taken, finished⟩ := Option.bind_eq_some_iff.mp read
  have sound := Build.sound_start.takeAll (lawful_of_scanMarkup scanned) taken
  unfold Build.finish at finished
  split at finished
  · exact sound.root e finished
  · cases finished

end XmlGraft.Xml
