import XmlGraft.Proofs.Xml.Reread

/-!
# Quiet trees — trees that call for no remark

A tree without namespaces, comments and instructions calls for no remark (`Element.Obeys.quiet`),
since every name in it is a name without a colon. Such trees without empty texts obey a closed law
(`quietLaw`): what is built without namespaces, and then written to, is quiet.
-/

namespace XmlGraft.Xml

/-- A head whose names have no namespace and no colon, and that declares nothing. -/
structure Head.Quiet (head : Head) : Prop where
  name : head.name.uri = "" ∧ isNCName head.name.label = true
  declarations : head.declarations = []
  plain : ∀ a ∈ head.attributes, a.name.uri = "" ∧ isNCName a.name.label = true

/-- The law of trees that call for no remark and have no empty texts. -/
def quietLaw : Law where
  head above head := head.Denoted above ∧ head.Quiet
  text text := Writable text ∧ text ≠ some ""
  text_none := ⟨writable_none, fun none => nomatch none⟩
  comment _ := False
  instruction _ _ := False

/-- Quiet trees stay quiet where they are edited. -/
theorem closed_quietLaw : quietLaw.Closed where
  text text obeys := ⟨closed_denotedLaw.text text obeys.1, { obeys.2 with }⟩
  filled filled writable := ⟨writable_some writable, fun empty => filled (Option.some.inj empty)⟩
  put {_ head key value} isName writable obeys := by
    refine ⟨closed_denotedLaw.put isName writable obeys.1, { obeys.2 with plain := ?_ }⟩
    rcases putAttribute_cases ⟨.bare key, "", value⟩ head.attributes with
      ⟨before, a, after, spelled, _, put⟩ | ⟨_, put⟩
    · have plain := obeys.2.plain
      rw [spelled] at plain
      obtain ⟨atFront, rest⟩ := List.forall_mem_append.mp plain
      obtain ⟨here, atEnd⟩ := List.forall_mem_cons.mp rest
      rw [put]
      exact List.forall_mem_append.mpr ⟨atFront, List.forall_mem_cons.mpr ⟨here, atEnd⟩⟩
    · rw [put]
      exact List.forall_mem_append.mpr
        ⟨obeys.2.plain, List.forall_mem_singleton.mpr ⟨rfl, isName⟩⟩
  root isName := ⟨closed_denotedLaw.root isName, ⟨rfl, isName⟩, rfl,
    fun _ member => absurd member List.not_mem_nil⟩
  child obeys named isParent isName := ⟨closed_denotedLaw.child obeys.1 named isParent isName,
    ⟨rfl, isName⟩, rfl, fun _ member => absurd member List.not_mem_nil⟩

/-- What is quiet stands for markup. -/
theorem Element.Obeys.of_quiet {e : Element} {above : List Declaration}
    (obeys : e.Obeys quietLaw above) : e.Obeys denotedLaw above := by
  refine obeys_node.mp (Node.Obeys.imp e.node ?_ ?_ ?_ ?_ (obeys_node.mpr obeys))
  · exact fun _ _ obeys => obeys.1
  · exact fun _ obeys => obeys.1
  · exact fun _ none => none.elim
  · exact fun _ _ none => none.elim

/-- A name without a colon calls for no remark. -/
theorem remarkOnName?_eq_none {name : String} (isName : isNCName name = true) :
    remarkOnName? name = none := by
  rw [remarkOnName?, splitQualified_of_isNCName isName]
  rfl

/-- An attribute with a name without a colon calls for no remark, unless it is a declaration. -/
theorem remarksOnEntry_eq_nil {entry : String × String} (isName : isNCName entry.1 = true)
    (notDeclaration : declaration? entry = none) : remarksOnEntry entry = [] := by
  have notSpace : entry.1 ≠ "xml:space" := by
    intro same
    rw [same] at isName
    exact absurd isName (by decide)
  have noRemark : remarkOnValue? entry = none := by
    rw [remarkOnValue?]
    simp [notSpace]
  rw [remarksOnEntry, remarkOnName?_eq_none isName, noRemark, notDeclaration]
  rfl

/-- A quiet head calls for no remark. -/
theorem Head.Denoted.remarks_eq_nil {above : List Declaration} {head : Head}
    (denoted : head.Denoted above) (quiet : head.Quiet) (lacks : head.Lacks (.bare "xmlns")) :
    head.remarks above = [] := by
  obtain ⟨bare, isName⟩ := quiet.name
  have own : head.name = .bare head.tag := (nameOf_bare denoted.effective denoted.name bare).2
  have isTag : isNCName head.tag = true := by
    rw [own] at isName
    exact isName
  have written : ∀ a ∈ head.attributes, a.name = .bare a.entry.1 := fun a member =>
    (nameOf_bare denoted.effective (denoted.plain a member).1 (quiet.plain a member).1).2
  have areNames : ∀ a ∈ head.attributes, isNCName a.entry.1 = true := by
    intro a member
    have isName := (quiet.plain a member).2
    rw [written a member] at isName
    exact isName
  have onEntries : head.entries.flatMap remarksOnEntry = [] := by
    rw [List.flatMap_eq_nil_iff, Head.entries, quiet.declarations, List.map_nil, List.nil_append]
    intro entry member
    obtain ⟨a, inside, rfl⟩ := List.mem_map.mp member
    exact remarksOnEntry_eq_nil (areNames a inside)
      ((denoted.plain a inside).2 (lacks a inside))
  have tagResolved : (nameOf? (head.declarations ++ above) false head.tag).isSome = true := by
    rw [nameOf?, splitQualified_of_isNCName isTag]
    dsimp only
    rw [if_neg Bool.false_ne_true, namespaceOf?, if_neg (by decide)]
    split
    · rfl
    · rfl
  have allResolved : (head.attributes.all fun a =>
      (nameOf? (head.declarations ++ above) true a.entry.1).isSome) = true := by
    refine List.all_eq_true.mpr fun a member => ?_
    rw [nameOf?, splitQualified_of_isNCName (areNames a member)]
    rfl
  have different : allDifferent (head.attributes.map (·.name)) = true := by
    have names : head.attributes.map (·.name) =
        (head.attributes.map fun a => a.entry.1).map Name.bare := by
      rw [List.map_map]
      exact List.map_congr_left written
    rw [allDifferent_iff, names]
    exact denoted.written.map fun _ _ same => congrArg Name.label same
  rw [Head.remarks, remarkOnName?_eq_none isTag, onEntries, tagResolved, allResolved, different]
  rfl

/-- A quiet head identifies nothing. -/
theorem Head.Quiet.identifier? {head : Head} (quiet : head.Quiet) : head.identifier? = none := by
  rw [Head.identifier?, Option.map_eq_none_iff, List.find?_eq_none]
  intro a member
  have bare := (quiet.plain a member).1
  simp only [beq_iff_eq]
  intro same
  rw [same] at bare
  exact absurd bare (by decide)

mutual

/-- Nothing is noted about a quiet node that lacks attributes called `xmlns`. -/
theorem Node.noted_quiet (node : Node) {above : List Declaration}
    (obeys : node.Obeys quietLaw above) (lacks : node.Lacks (.bare "xmlns")) (b : Build) :
    node.noted above b = b := by
  cases node with
  | element head children tail =>
    obtain ⟨⟨⟨denoted, quiet⟩, _, inside⟩, _⟩ := obeys
    rw [Node.noted, denoted.remarks_eq_nil quiet lacks.1, Build.noteIdentifier, quiet.identifier?]
    exact notedAll_quiet children inside lacks.2 _
  | comment content tail => exact obeys.1.elim
  | instruction target content tail => exact obeys.1.elim

/-- So it is with nodes side by side. -/
theorem notedAll_quiet (nodes : List Node) {above : List Declaration}
    (obey : AllObey quietLaw above nodes) (lack : AllLack (.bare "xmlns") nodes) (b : Build) :
    notedAll above nodes b = b := by
  cases nodes with
  | nil => rfl
  | cons node rest =>
    rw [notedAll, node.noted_quiet obey.1 lack.1]
    exact notedAll_quiet rest obey.2 lack.2 b

end

/-- A quiet element calls for no remark, if it lacks attributes called `xmlns`. -/
theorem Element.Obeys.quiet {e : Element} (obeys : e.Obeys quietLaw [])
    (lacks : e.Lacks (.bare "xmlns")) : e.lastRemark = none := by
  rw [lastRemark, e.node.noted_quiet (obeys_node.mpr obeys) lacks]
  rfl

end XmlGraft.Xml
