import Mathlib.Data.List.Basic
import XmlGraft.Proofs.Xml.Scanned
import XmlGraft.Xml.StartTag

/-!
# Denoted heads — start tags that read as what they were written from

A head that a start tag denotes is written as a tag that denotes it again, among the same
declarations (`Head.Denoted.ofTag`). The first tag may have held more: declarations that take no
effect are not kept, so the remarks on them are not made again. An attribute called `xmlns` would be
read as a declaration; no tag denotes one, and what follows sets it apart.

This comes from the names. The name that a tag or an attribute denotes is kept with the prefix that
it was written with, and the two spell what was written (`qualified_nameOf`), also where the prefix
was not declared and became part of the label.
-/

namespace XmlGraft.Xml

open Text

/-! ## Qualified names -/

/-- A name without a colon has none. -/
theorem colon_not_mem {name : List Char} (isName : Text.isNCName name = true) :
    ∀ c ∈ name, c ≠ ':' := by
  obtain ⟨first, rest, rfl, start, all⟩ := Path.isNCName_eq_true_iff.mp isName
  have noColon : ∀ c, isNameChar c = true → c ≠ ':' := by
    rintro c isChar rfl
    exact absurd isChar (by decide)
  exact List.forall_mem_cons.mpr ⟨noColon first (isNameChar_of_isNameStart start),
    fun c member => noColon c (all c member)⟩

/-- A name without a colon is a qualified name without a prefix. -/
theorem splitQualified_of_isNCName {name : List Char} (isName : Text.isNCName name = true) :
    splitQualified name = some ([], name) := by
  have none : name.dropWhile (· ≠ ':') = [] := by
    have inside : ∀ c ∈ name, decide (c ≠ ':') = true := fun c member =>
      decide_eq_true (colon_not_mem isName c member)
    have stops : ∀ c ∈ ([] : List Char).head?, decide (c ≠ ':') = false :=
      fun _ none => nomatch none
    have dropped := (Path.takeWhile_run inside stops).2
    rwa [List.append_nil] at dropped
  rw [splitQualified, none]
  exact if_pos isName

/-- A qualified name has a prefix and a label around a colon, or no colon and is all label. -/
theorem splitQualified_eq_some {name nsPrefix label : List Char}
    (split : splitQualified name = some (nsPrefix, label)) :
    Text.isNCName label = true ∧
      (nsPrefix = [] ∧ name = label ∨
        Text.isNCName nsPrefix = true ∧ name = nsPrefix ++ ':' :: label) := by
  unfold splitQualified at split
  split at split
  · split at split
    · next isName =>
      cases split
      exact ⟨isName, .inl ⟨rfl, rfl⟩⟩
    · cases split
  · next colon rest dropped =>
    dsimp only at split
    split at split
    · next areNames =>
      cases split
      obtain ⟨isPrefix, isLabel⟩ := Bool.and_eq_true_iff.mp areNames
      have isColon : colon = ':' := by
        have stopped := List.head?_dropWhile_not (· ≠ ':') name
        rw [dropped] at stopped
        simpa using stopped
      refine ⟨isLabel, .inr ⟨isPrefix, ?_⟩⟩
      subst isColon
      rw [← dropped]
      exact List.takeWhile_append_dropWhile.symm
    · cases split

/-! ## Names -/

/-- What is written is a prefix that stands for a namespace and a label, or it is all label; an
attribute that is all label has no namespace. -/
theorem nameOf_cases (declared : List Declaration) (isAttribute : Bool) (written : String) :
    (∃ nsPrefix name, nameOf declared isAttribute written = (nsPrefix, name) ∧ nsPrefix ≠ "" ∧
        namespaceOf? declared nsPrefix = some name.uri ∧
        written = nsPrefix ++ ":" ++ name.label) ∨
      ∃ name, nameOf declared isAttribute written = ("", name) ∧ name.label = written ∧
        (isAttribute = true → name.uri = "") := by
  have whole : ∃ name, (("", Name.bare written) : String × Name) = ("", name) ∧
      name.label = written ∧ (isAttribute = true → name.uri = "") :=
    ⟨.bare written, rfl, rfl, fun _ => rfl⟩
  unfold nameOf nameOf?
  split
  · next c nsPrefix label split =>
    obtain ⟨_, ⟨none, _⟩ | ⟨isPrefix, spelled⟩⟩ := splitQualified_eq_some split
    · cases none
    · dsimp only
      cases found : namespaceOf? declared (String.ofList (c :: nsPrefix)) with
      | none => exact .inr whole
      | some uri =>
        refine .inl ⟨_, _, rfl, ?_, found, ?_⟩
        · intro none
          have none := congrArg String.toList none
          rw [String.toList_ofList] at none
          cases none
        · rw [← String.toList_inj, spelled]
          simp
  · cases isAttribute with
    | true => exact .inr whole
    | false =>
      refine .inr ?_
      rw [if_neg Bool.false_ne_true]
      cases namespaceOf? declared "" with
      | none => exact ⟨_, rfl, rfl, fun no => nomatch no⟩
      | some uri => exact ⟨_, rfl, rfl, fun no => nomatch no⟩

/-- The prefix and the label of a name spell what was written. -/
theorem qualified_nameOf (declared : List Declaration) (isAttribute : Bool) (written : String) :
    qualified (nameOf declared isAttribute written).1
      (nameOf declared isAttribute written).2.label = written := by
  rcases nameOf_cases declared isAttribute written with
    ⟨nsPrefix, name, found, isPrefix, _, spelled⟩ | ⟨name, found, spelled, _⟩
  · rw [found, qualified, if_neg isPrefix]
    exact spelled.symm
  · rw [found, qualified, if_pos rfl]
    exact spelled

/-- No prefix stands for nothing, among declarations that take effect. -/
theorem namespaceOf?_ne_empty {declared : List Declaration}
    (effective : ∀ d ∈ declared, d.takesEffect = true) {nsPrefix uri : String}
    (found : namespaceOf? declared nsPrefix = some uri) (isPrefix : nsPrefix ≠ "") : uri ≠ "" := by
  unfold namespaceOf? at found
  split at found
  · cases found
    decide
  · split at found
    · next d first =>
      cases found
      have effect := effective d (List.mem_of_find?_eq_some first)
      have same : d.nsPrefix = nsPrefix := by simpa using List.find?_some first
      rintro none
      simp [Declaration.takesEffect, none, same, isPrefix] at effect
    · cases found

/-- A name without a namespace is written without a prefix, as its label. -/
theorem nameOf_bare {declared : List Declaration}
    (effective : ∀ d ∈ declared, d.takesEffect = true) {isAttribute : Bool}
    {written nsPrefix : String} {name : Name}
    (denotes : nameOf declared isAttribute written = (nsPrefix, name)) (bare : name.uri = "") :
    nsPrefix = "" ∧ name = .bare written := by
  rcases nameOf_cases declared isAttribute written with
    ⟨p, n, found, isPrefix, bound, _⟩ | ⟨n, found, spelled, _⟩
  · cases found.symm.trans denotes
    exact absurd bare (namespaceOf?_ne_empty effective bound isPrefix)
  · cases found.symm.trans denotes
    cases name
    cases bare
    cases spelled
    exact ⟨rfl, rfl⟩

/-- An attribute name without a colon denotes itself. -/
theorem nameOf_attribute {key : String} (isName : isNCName key = true)
    (declared : List Declaration) : nameOf declared true key = ("", .bare key) := by
  rw [nameOf, nameOf?, splitQualified_of_isNCName isName]
  rfl

/-- An element name without a colon denotes itself where no default namespace is in force. -/
theorem nameOf_element {name : String} (isName : isNCName name = true)
    {declared : List Declaration} (noDefault : namespaceOf? declared "" = some "") :
    nameOf declared false name = ("", .bare name) := by
  rw [nameOf, nameOf?, splitQualified_of_isNCName isName]
  dsimp only
  rw [if_neg Bool.false_ne_true, noDefault]
  rfl

/-- Where a name without a colon denotes itself as that of an element, no default namespace is in
force. -/
theorem noDefault_of_nameOf {name : String} (isName : isNCName name = true)
    {declared : List Declaration} {nsPrefix : String}
    (denotes : nameOf declared false name = (nsPrefix, .bare name)) :
    namespaceOf? declared "" = some "" := by
  rw [nameOf, nameOf?, splitQualified_of_isNCName isName] at denotes
  dsimp only at denotes
  rw [if_neg Bool.false_ne_true] at denotes
  unfold namespaceOf? at denotes ⊢
  rw [if_neg (by decide)] at denotes ⊢
  split at denotes
  · have same := congrArg (fun found => found.2.uri) denotes
    exact congrArg some same
  · rfl

/-! ## Declarations -/

/-- An attribute that makes a declaration is that declaration, written. -/
theorem entry_of_declaration? {entry : String × String} {d : Declaration}
    (declares : declaration? entry = some d) : d.entry = entry := by
  obtain ⟨written, value⟩ := entry
  unfold declaration? at declares
  split at declares
  · next isDefault =>
    cases declares
    cases isDefault
    rfl
  · split at declares
    · next nsPrefix label split =>
      split at declares
      · next isDeclaration =>
        cases declares
        obtain ⟨isLabel, ⟨none, _⟩ | ⟨_, spelled⟩⟩ := splitQualified_eq_some split
        · rw [none] at isDeclaration
          cases isDeclaration
        · have some : String.ofList label ≠ "" := by
            intro none
            have none := congrArg String.toList none
            rw [String.toList_ofList] at none
            rw [none] at isLabel
            cases isLabel
          rw [Declaration.entry, if_neg some, isDeclaration] at *
          refine congrArg (·, value) (String.toList_inj.mp ?_)
          rw [spelled]
          simp
      · cases declares
    · cases declares

/-- Which prefix an attribute declares does not depend on its value. -/
theorem isSome_declaration? (written value other : String) :
    (declaration? (written, value)).isSome = (declaration? (written, other)).isSome := by
  unfold declaration?
  dsimp only
  split
  · rfl
  · split
    · split
      · rfl
      · rfl
    · rfl

/-- An attribute with a name without a colon declares nothing, unless it is `xmlns`. -/
theorem declaration?_eq_none {key : String} (isName : isNCName key = true) (other : key ≠ "xmlns")
    (value : String) : declaration? (key, value) = none := by
  unfold declaration?
  dsimp only
  rw [if_neg other, splitQualified_of_isNCName isName]
  rfl

/-! ## Heads -/

/-- Whether no two members are equal, as a proposition. -/
theorem allDifferent_iff {α : Type _} [BEq α] [LawfulBEq α] {xs : List α} :
    allDifferent xs = true ↔ xs.Nodup := by
  induction xs with
  | nil => simp [allDifferent]
  | cons x rest ih => simp [allDifferent, ih]

/-- No attribute of a head has some name. -/
def Head.Lacks (name : Name) (head : Head) : Prop := ∀ a ∈ head.attributes, a.name ≠ name

/-- A head that stands for a start tag among some declarations, but for attributes called `xmlns`.
-/
structure Head.Denoted (above : List Declaration) (head : Head) : Prop where
  around : ∀ d ∈ above, d.takesEffect = true
  tag : TagName head.tag
  name : nameOf (head.declarations ++ above) false head.tag = (head.nsPrefix, head.name)
  declared : ∀ d ∈ head.declarations, declaration? d.entry = some d ∧ d.takesEffect = true
  prefixes : (head.declarations.map (·.nsPrefix)).Nodup
  entries : ∀ entry ∈ head.entries, IsEntry entry
  plain : ∀ a ∈ head.attributes,
    nameOf (head.declarations ++ above) true a.entry.1 = (a.nsPrefix, a.name) ∧
      (a.name ≠ .bare "xmlns" → declaration? a.entry = none)
  written : (head.attributes.map fun a => a.entry.1).Nodup

/-- The remarks on the start tag that a head is written as: on its name, on what it holds, and on
what shows only when all names are known. -/
def Head.remarks (above : List Declaration) (head : Head) : List Remark :=
  let declared := head.declarations ++ above
  let allResolved := (nameOf? declared false head.tag).isSome &&
    head.attributes.all fun a => (nameOf? declared true a.entry.1).isSome
  (remarkOnName? head.tag).toList ++ head.entries.flatMap remarksOnEntry ++
    if allResolved && allDifferent (head.attributes.map (·.name)) then [] else [.objection]

namespace Head

/-- The declarations in force inside a denoted head take effect. -/
theorem Denoted.effective {above : List Declaration} {head : Head} (denoted : head.Denoted above) :
    ∀ d ∈ head.declarations ++ above, d.takesEffect = true := fun d member =>
  (List.mem_append.mp member).elim (fun own => (denoted.declared d own).2) (denoted.around d)

/-- The entries of a denoted head are its declarations and what declares nothing. -/
theorem Denoted.declarations_entries {above : List Declaration} {head : Head}
    (denoted : head.Denoted above) (lacks : head.Lacks (.bare "xmlns")) :
    (head.entries.filterMap declaration?).filter Declaration.takesEffect = head.declarations ∧
      (head.entries.filter fun entry => (declaration? entry).isNone) =
        head.attributes.map Attribute.entry := by
  have none : ∀ a ∈ head.attributes, declaration? a.entry = none := fun a member =>
    (denoted.plain a member).2 (lacks a member)
  have declarations : (head.declarations.map Declaration.entry).filterMap declaration? =
      head.declarations := by
    rw [List.filterMap_map]
    refine (List.filterMap_congr fun d member => ?_).trans List.filterMap_some
    exact (denoted.declared d member).1
  have attributes : (head.attributes.map Attribute.entry).filterMap declaration? = [] := by
    rw [List.filterMap_map, List.filterMap_eq_nil_iff]
    exact none
  have notDeclarations : (head.declarations.map Declaration.entry).filter
      (fun entry => (declaration? entry).isNone) = [] := by
    rw [List.filter_map, List.map_eq_nil_iff, List.filter_eq_nil_iff]
    intro d member
    simp [(denoted.declared d member).1]
  have allAttributes : (head.attributes.map Attribute.entry).filter
      (fun entry => (declaration? entry).isNone) = head.attributes.map Attribute.entry := by
    rw [List.filter_eq_self, List.forall_mem_map]
    intro a member
    rw [none a member]
    rfl
  constructor
  · rw [Head.entries, List.filterMap_append, declarations, attributes, List.append_nil,
      List.filter_eq_self]
    exact fun d member => (denoted.declared d member).2
  · rw [Head.entries, List.filter_append, notDeclarations, allAttributes, List.nil_append]

/-- The start tag that a denoted head is written as denotes it again. Its text is not part of the
tag. -/
theorem Denoted.ofTag {above : List Declaration} {head : Head} (denoted : head.Denoted above)
    (lacks : head.Lacks (.bare "xmlns")) :
    Head.ofTag above head.tag head.entries =
      some ({ head with text := none }, head.remarks above) := by
  obtain ⟨declarations, plain⟩ := denoted.declarations_entries lacks
  have prefixes := allDifferent_iff.mpr denoted.prefixes
  have written : allDifferent ((head.attributes.map Attribute.entry).map (·.1)) = true := by
    rw [List.map_map]
    exact allDifferent_iff.mpr denoted.written
  have attributes : (head.attributes.map Attribute.entry).map
      (fun entry => (⟨(nameOf (head.declarations ++ above) true entry.1).2,
        (nameOf (head.declarations ++ above) true entry.1).1, entry.2⟩ : Attribute)) =
      head.attributes := by
    rw [List.map_map]
    refine (List.map_congr_left fun a member => ?_).trans (List.map_id _)
    simp only [Function.comp_apply, (denoted.plain a member).1]
    rfl
  unfold Head.ofTag
  simp only [declarations, plain, prefixes, written, attributes, denoted.name, Bool.and_self,
    if_true, List.all_map]
  rfl

/-- The head that a start tag denotes stands for one, and has no attribute called `xmlns`. -/
theorem denoted_of_ofTag {above : List Declaration} (around : ∀ d ∈ above, d.takesEffect = true)
    {tag : String} (isTag : TagName tag) {entries : List (String × String)}
    (areEntries : ∀ entry ∈ entries, IsEntry entry) {head : Head} {remarks : List Remark}
    (denotes : Head.ofTag above tag entries = some (head, remarks)) :
    head.Denoted above ∧ head.Lacks (.bare "xmlns") ∧ head.text = none := by
  unfold Head.ofTag at denotes
  dsimp only at denotes
  split at denotes
  · next different =>
    obtain ⟨prefixes, written⟩ := Bool.and_eq_true_iff.mp different
    cases denotes
    generalize declarationsAre :
      (entries.filterMap declaration?).filter Declaration.takesEffect = declarations at *
    have declared : ∀ d ∈ declarations, d.entry ∈ entries ∧
        declaration? d.entry = some d ∧ d.takesEffect = true := by
      intro d member
      rw [← declarationsAre] at member
      obtain ⟨member, effect⟩ := List.mem_filter.mp member
      obtain ⟨entry, inEntries, declares⟩ := List.mem_filterMap.mp member
      rw [entry_of_declaration? declares]
      exact ⟨inEntries, declares, effect⟩
    have spelled : ∀ entry : String × String,
        (⟨(nameOf (declarations ++ above) true entry.1).2,
          (nameOf (declarations ++ above) true entry.1).1, entry.2⟩ : Attribute).entry = entry :=
      fun entry => congrArg (·, entry.2) (qualified_nameOf _ _ _)
    have effective : ∀ d ∈ declarations ++ above, d.takesEffect = true := fun d member =>
      (List.mem_append.mp member).elim (fun own => (declared d own).2.2) (around d)
    refine ⟨⟨around, ?_, ?_, fun d member => (declared d member).2, allDifferent_iff.mp prefixes,
      ?_, ?_, ?_⟩, ?_, rfl⟩
    · rw [Head.tag, qualified_nameOf]
      exact isTag
    · rw [Head.tag, qualified_nameOf]
    · intro entry member
      rcases List.mem_append.mp member with member | member
      · obtain ⟨d, inDeclarations, rfl⟩ := List.mem_map.mp member
        exact areEntries _ (declared d inDeclarations).1
      · simp only [List.map_map, List.mem_map, Function.comp_apply, spelled] at member
        obtain ⟨entry, inPlain, rfl⟩ := member
        exact areEntries _ (List.mem_filter.mp inPlain).1
    · intro a member
      obtain ⟨entry, inPlain, rfl⟩ := List.mem_map.mp member
      rw [spelled]
      exact ⟨rfl, fun _ => Option.isNone_iff_eq_none.mp (List.mem_filter.mp inPlain).2⟩
    · rw [List.map_map]
      simp only [Function.comp_def, spelled]
      exact allDifferent_iff.mp written
    · intro a member isXmlns
      obtain ⟨entry, inPlain, rfl⟩ := List.mem_map.mp member
      have notDeclaration := (List.mem_filter.mp inPlain).2
      have denotes : nameOf (declarations ++ above) true entry.1 = (_, .bare "xmlns") :=
        Prod.ext rfl isXmlns
      have same : entry.1 = "xmlns" :=
        (congrArg Name.label (nameOf_bare effective denotes rfl).2).symm
      rw [declaration?, if_pos same] at notDeclaration
      cases notDeclaration
  · cases denotes

end Head

end XmlGraft.Xml
