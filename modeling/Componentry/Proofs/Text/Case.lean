import Componentry.Text.Ascii
import Mathlib

/-!
# Letters in lower case

To lower a character is to lower an ASCII letter and to leave every other character alone. So a
string that was lowered once is not changed again (`lower_lower`), and a character that is no letter
is met in the lowered string where it stood before (`toLower_eq_iff`). Nothing smaller than the
whole library has the laws of a single character that this rests on.
-/

namespace Componentry.Text

theorem toLower_eq_iff {c d : Char} (hd : d.isAlpha = false) : c.toLower = d ↔ c = d := by
  by_cases h : c.isUpper = true
  · -- a letter stays a letter
    have hc : c.isAlpha = true := by rw [Char.isAlpha, h, Bool.true_or]
    have hlow : c.toLower.isAlpha = true := by rw [Char.isAlpha_toLower_eq_isAlpha, hc]
    constructor
    · rintro rfl
      exact absurd hlow (Bool.eq_false_iff.1 hd)
    · rintro rfl
      exact absurd hc (Bool.eq_false_iff.1 hd)
  · rw [Char.toLower_eq_of_not_isUpper h]

theorem map_toLower_eq_self {w : List Char} (h : ∀ c ∈ w, c.isUpper = false) :
    w.map Char.toLower = w := by
  refine (List.map_congr_left fun c hc => ?_).trans (List.map_id w)
  exact Char.toLower_eq_of_not_isUpper (Bool.eq_false_iff.1 (h c hc))

theorem lower_lower (s : String) : lower (lower s) = lower s := by
  rw [← String.toList_inj, toList_lower, toList_lower, List.map_map]
  exact List.map_congr_left fun c _ => Char.toLower_toLower_eq_toLower c

end Componentry.Text
