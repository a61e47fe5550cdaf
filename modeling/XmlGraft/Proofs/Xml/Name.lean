import XmlGraft.Proofs.Outcome
import XmlGraft.Xml.Name

/-!
# Names read back — the text that a name was given as

A text that is taken apart into a namespace and a label is put together again by the text of the
name, unless it gives an empty namespace in braces: that name has no namespace, and its text is the
label alone.
-/

namespace XmlGraft.Xml

/-- Whether a text gives an empty namespace in braces. -/
def hasEmptyNamespace (s : String) : Bool := s.toList.take 2 == ['\x7b', '\x7d']

/-- The text of a name is the text that it was taken from. -/
theorem Name.text_ofText {s : String} (spelled : ¬hasEmptyNamespace s = true) {n : Name}
    (read : Name.ofText s = .ok n) : n.text = s := by
  unfold Name.ofText at read
  split at read
  · split at read
    · cases read
    · next rest braced =>
      have whole : rest.takeWhile (· ≠ '\x7d') ++ rest.dropWhile (· ≠ '\x7d') = rest :=
        List.takeWhile_append_dropWhile
      split at read
      · cases read
      · cases read
      · next c label _ dropped =>
        cases read
        have closing : c = '\x7d' := by
          have stops := List.head?_dropWhile_not (fun c => decide (c ≠ '\x7d')) rest
          rw [dropped] at stops
          exact Decidable.not_not.mp (of_decide_eq_false stops)
        subst closing
        rw [dropped] at whole
        cases namespaced : rest.takeWhile (· ≠ '\x7d') with
        | nil =>
          rw [namespaced] at whole
          refine absurd ?_ spelled
          rw [hasEmptyNamespace, braced, ← whole]
          rfl
        | cons d more =>
          have some : String.ofList (d :: more) ≠ "" := by
            intro empty
            have none := congrArg String.toList empty
            rw [String.toList_ofList] at none
            cases none
          rw [namespaced] at whole
          rw [Name.text, if_neg some, ← String.toList_inj, braced, ← whole]
          simp only [String.toList_append, String.toList_ofList]
          show ['\x7b'] ++ (d :: more) ++ ['\x7d'] ++ label = _
          rw [List.append_assoc, List.append_assoc]
          rfl
    · cases read
      rfl
  · cases read

end XmlGraft.Xml
