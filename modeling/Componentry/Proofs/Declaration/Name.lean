import Componentry.Declaration.Name
import Componentry.Proofs.Text.Case

/-!
# Names do not depend on letter case

The member that a tag declares is named by the words between its hyphens, and these are taken in
lower case. So it does not matter that tags are kept in lower case (`memberName_lower`).
-/

namespace Componentry

open Text

theorem splitAt_map_toLower (s : List Char) :
    Text.splitAt '-' (s.map Char.toLower) = (Text.splitAt '-' s).map (List.map Char.toLower) := by
  induction s with
  | nil => rfl
  | cons c s ih =>
      rw [List.map_cons, Text.splitAt, Text.splitAt, ih]
      have hiff : c.toLower = '-' ↔ c = '-' := toLower_eq_iff (by decide)
      by_cases hc : c = '-'
      · rw [if_pos hc, if_pos (hiff.2 hc)]
        rfl
      · rw [if_neg hc, if_neg (mt hiff.1 hc)]
        cases Text.splitAt '-' s <;> rfl

theorem tagSegments_lower (tag : String) : tagSegments (lower tag) = tagSegments tag := by
  have hfilter : ∀ ws : List (List Char),
      (ws.map (List.map Char.toLower)).filter (· ≠ []) =
        (ws.filter (· ≠ [])).map (List.map Char.toLower) := by
    intro ws
    rw [List.filter_map]
    simp [Function.comp_def]
  rw [tagSegments, tagSegments, toList_lower, splitAt_map_toLower, hfilter, List.map_map]
  simp [Function.comp_def]

/-- A tag in lower case declares the same member. -/
theorem memberName_lower (tag : String) : memberName (lower tag) = memberName tag := by
  rw [memberName, memberName, tagSegments_lower]

end Componentry
