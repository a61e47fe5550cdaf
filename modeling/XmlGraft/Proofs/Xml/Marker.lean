import XmlGraft.Xml.Scanner

/-!
# Markers — where what a marker ends can be found again

What stands before a marker is found again before the same marker, whatever follows
(`splitAtMarker_append`), since whether the marker begins earlier shows before it ends
(`MarkerFirst`). Bringing line breaks into one form makes no marker begin earlier, as long as it has
no line break itself.
-/

namespace XmlGraft.Xml

/-- A marker that follows some characters does not begin among them. -/
def MarkerFirst (marker : List Char) : List Char → Prop
  | [] => True
  | c :: rest => ¬marker <+: c :: rest ++ marker ∧ MarkerFirst marker rest

/-- Characters are found again before a marker that does not begin among them. -/
theorem splitAtMarker_append {marker before : List Char} (some : marker ≠ [])
    (first : MarkerFirst marker before) (after : List Char) :
    splitAtMarker marker (before ++ marker ++ after) = .some (before, after) := by
  induction before with
  | nil =>
    cases marker with
    | nil => exact absurd rfl some
    | cons m marker =>
      have here : (m :: marker).isPrefixOf (m :: (marker ++ after)) = true :=
        List.isPrefixOf_iff_prefix.mpr ⟨after, rfl⟩
      rw [List.nil_append, List.cons_append, splitAtMarker, if_pos here]
      exact congrArg (fun after => Option.some ([], after)) List.drop_left
  | cons c rest ih =>
    -- an occurrence that begins here would end before the marker does
    have notHere : ¬marker.isPrefixOf (c :: (rest ++ marker ++ after)) = true := by
      intro here
      refine first.1 ?_
      refine List.prefix_of_prefix_length_le (List.isPrefixOf_iff_prefix.mp here)
        ⟨after, rfl⟩ ?_
      simp only [List.cons_append, List.length_cons, List.length_append]
      omega
    rw [List.cons_append, List.cons_append, splitAtMarker, if_neg notHere, ih first.2]
    rfl

/-- What was found before a marker has the marker after it, and not earlier. -/
theorem splitAtMarker_eq_some {marker : List Char} {cs before after : List Char}
    (split : splitAtMarker marker cs = some (before, after)) :
    cs = before ++ marker ++ after ∧ MarkerFirst marker before := by
  induction cs generalizing before after with
  | nil => cases split
  | cons c rest ih =>
    rw [splitAtMarker] at split
    split at split
    · next here =>
      cases split
      obtain ⟨after, same⟩ := List.isPrefixOf_iff_prefix.mp here
      rw [← same, List.drop_left, List.nil_append]
      exact ⟨rfl, trivial⟩
    · next notHere =>
      obtain ⟨⟨inner, after⟩, found, same⟩ := Option.map_eq_some_iff.mp split
      cases same
      obtain ⟨rfl, first⟩ := ih found
      refine ⟨rfl, fun here => notHere (List.isPrefixOf_iff_prefix.mpr ?_), first⟩
      obtain ⟨more, same⟩ := here
      exact ⟨more ++ after, by rw [← List.append_assoc, same]; simp only [List.cons_append]⟩

/-! ## Line breaks -/

/-- A character that is no carriage return stays as it is. -/
theorem unifyLineBreaks_cons {c : Char} (notReturn : c ≠ '\r') (rest : List Char) :
    unifyLineBreaks (c :: rest) = c :: unifyLineBreaks rest := by
  rw [unifyLineBreaks]
  · rintro _ rfl
    exact absurd rfl notReturn
  · rintro rfl
    exact absurd rfl notReturn

/-- A carriage return becomes a line feed. -/
theorem unifyLineBreaks_return (rest : List Char) :
    ∃ more, unifyLineBreaks ('\r' :: rest) = '\n' :: more := by
  rw [unifyLineBreaks.eq_def]
  split
  · next none => cases none
  · exact ⟨_, rfl⟩
  · exact ⟨_, rfl⟩
  · next notReturn same =>
    obtain ⟨rfl, _⟩ := List.cons.inj same
    exact absurd rfl notReturn

/-- Characters without a carriage return stay as they are. -/
theorem unifyLineBreaks_eq_self {cs : List Char} (none : '\r' ∉ cs) : unifyLineBreaks cs = cs := by
  induction cs with
  | nil => rfl
  | cons c rest ih =>
    have notReturn : c ≠ '\r' := fun same => none (same ▸ List.mem_cons_self)
    rw [unifyLineBreaks_cons notReturn, ih fun member => none (List.mem_cons_of_mem c member)]

/-- Bringing line breaks into one form leaves no carriage return. -/
theorem not_mem_unifyLineBreaks (cs : List Char) : '\r' ∉ unifyLineBreaks cs := by
  fun_induction unifyLineBreaks cs with
  | case1 => exact List.not_mem_nil
  | case2 rest ih => exact fun member => (List.mem_cons.mp member).elim (by decide) ih
  | case3 rest _ ih => exact fun member => (List.mem_cons.mp member).elim (by decide) ih
  | case4 c rest _ other ih =>
    refine fun member => (List.mem_cons.mp member).elim ?_ ih
    exact fun same => other same.symm

/-- Bringing line breaks into one form leaves only line feeds and characters that were there. -/
theorem mem_unifyLineBreaks {c : Char} {cs : List Char} (member : c ∈ unifyLineBreaks cs) :
    c = '\n' ∨ c ∈ cs := by
  fun_induction unifyLineBreaks cs with
  | case1 => exact absurd member List.not_mem_nil
  | case2 rest ih =>
    refine (List.mem_cons.mp member).imp_right fun inRest => ?_
    rcases ih inRest with rfl | inRest
    · exact List.mem_cons_of_mem _ List.mem_cons_self
    · exact List.mem_cons_of_mem _ (List.mem_cons_of_mem _ inRest)
  | case3 rest _ ih =>
    rcases List.mem_cons.mp member with rfl | inRest
    · exact .inl rfl
    · exact (ih inRest).imp_right (List.mem_cons_of_mem _)
  | case4 d rest _ _ ih =>
    rcases List.mem_cons.mp member with rfl | inRest
    · exact .inr List.mem_cons_self
    · exact (ih inRest).imp_right (List.mem_cons_of_mem _)

/-- Where characters begin with something that is no line break, they did so before their line
breaks were brought into one form. -/
theorem prefix_of_unifyLineBreaks {front : List Char} (plain : '\n' ∉ front)
    {cs more : List Char} (starts : front <+: unifyLineBreaks cs ++ more) :
    front <+: cs ++ more := by
  induction front generalizing cs with
  | nil => exact List.nil_prefix
  | cons c front ih =>
    obtain ⟨notBreak, others⟩ := List.ne_and_not_mem_of_not_mem_cons plain
    cases cs with
    | nil => exact starts
    | cons d rest =>
      by_cases isReturn : d = '\r'
      · subst isReturn
        obtain ⟨_, unified⟩ := unifyLineBreaks_return rest
        rw [unified] at starts
        exact absurd (List.cons_prefix_cons.mp starts).1.symm notBreak
      · rw [unifyLineBreaks_cons isReturn] at starts
        obtain ⟨same, startsToo⟩ := List.cons_prefix_cons.mp starts
        exact List.cons_prefix_cons.mpr ⟨same, ih others startsToo⟩

/-- No marker begins earlier where line breaks are brought into one form. -/
theorem MarkerFirst.unifyLineBreaks {marker before : List Char} (some : marker ≠ [])
    (plain : '\n' ∉ marker) (first : MarkerFirst marker before) :
    MarkerFirst marker (unifyLineBreaks before) := by
  have notBreak : ∀ more : List Char, ¬marker <+: '\n' :: more := by
    intro more starts
    cases marker with
    | nil => exact some rfl
    | cons m marker =>
      obtain ⟨rfl, _⟩ := List.cons_prefix_cons.mp starts
      exact plain List.mem_cons_self
  fun_induction Xml.unifyLineBreaks before with
  | case1 => trivial
  | case2 rest ih => exact ⟨notBreak _, ih first.2.2⟩
  | case3 rest _ ih => exact ⟨notBreak _, ih first.2⟩
  | case4 c rest notPair notReturn ih =>
    refine ⟨fun starts => first.1 ?_, ih first.2⟩
    rw [← unifyLineBreaks_cons fun same => notReturn same] at starts
    exact prefix_of_unifyLineBreaks plain starts

end XmlGraft.Xml
