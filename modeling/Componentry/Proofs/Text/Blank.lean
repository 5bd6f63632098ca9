import Componentry.Text.Blank

/-!
# Texts without blanks in them

The ASCII letters are two runs of characters and the digits a third, and no blank is among them. A
text without blanks is not changed by trimming, and blanks put behind it are all that trimming
removes (`trimEnd_append`).
-/

namespace Componentry.Text

variable {s : List Char}

theorem toNat_of_isAlpha {c : Char} (h : c.isAlpha = true) :
    65 ≤ c.toNat ∧ c.toNat ≤ 90 ∨ 97 ≤ c.toNat ∧ c.toNat ≤ 122 := by
  have hcases : (c.isUpper || c.isLower) = true := h
  rcases Bool.or_eq_true_iff.1 hcases with hupper | hlower
  · have hcode : 'A'.val ≤ c.val ∧ c.val ≤ 'Z'.val := of_decide_eq_true hupper
    exact .inl hcode
  · have hcode := Bool.and_eq_true_iff.1 hlower
    exact .inr ⟨of_decide_eq_true hcode.1, of_decide_eq_true hcode.2⟩

theorem toNat_of_isAlphanum {c : Char} (h : c.isAlphanum = true) :
    48 ≤ c.toNat ∧ c.toNat ≤ 57 ∨ 65 ≤ c.toNat ∧ c.toNat ≤ 90 ∨ 97 ≤ c.toNat ∧ c.toNat ≤ 122 := by
  have hcases : (c.isAlpha || c.isDigit) = true := h
  rcases Bool.or_eq_true_iff.1 hcases with halpha | hdigit
  · exact .inr (toNat_of_isAlpha halpha)
  · have hcode := Bool.and_eq_true_iff.1 hdigit
    exact .inl ⟨of_decide_eq_true hcode.1, of_decide_eq_true hcode.2⟩

theorem isBlank_eq_false_of_isAlphanum {c : Char} (h : c.isAlphanum = true) :
    isBlank c = false := by
  have hcode := toNat_of_isAlphanum h
  have hspace : ' '.toNat = 32 := rfl
  simp only [isBlank, ← Char.toNat_inj, ← Bool.not_eq_true, Bool.or_eq_true, Bool.and_eq_true,
    beq_iff_eq, decide_eq_true_eq]
  omega

theorem isAsciiBlank_eq_false {c : Char} (h : isBlank c = false) : isAsciiBlank c = false := by
  rw [← Bool.not_eq_true] at h ⊢
  exact mt isBlank_of_isAsciiBlank h

theorem trimStart_eq_self (h : ∀ c ∈ s, isBlank c = false) : trimStart s = s := by
  cases s with
  | nil => rfl
  | cons c s => rw [trimStart_cons, h c List.mem_cons_self]; rfl

theorem trimEnd_append (h : ∀ c ∈ s, isBlank c = false) {gap : List Char}
    (hgap : ∀ c ∈ gap, isBlank c = true) : trimEnd (s ++ gap) = s := by
  have hreverse : ∀ c ∈ s.reverse, isBlank c = false := fun c hc => h c (List.mem_reverse.1 hc)
  rw [trimEnd, List.reverse_append,
    List.dropWhile_append_of_pos fun c hc => hgap c (List.mem_reverse.1 hc)]
  exact (congrArg List.reverse (trimStart_eq_self hreverse)).trans s.reverse_reverse

theorem trimmed_eq_self (h : ∀ c ∈ s, isBlank c = false) : trimmed s = s := by
  have hnil : ∀ c ∈ ([] : List Char), isBlank c = true := nofun
  have hend := trimEnd_append h hnil
  rw [List.append_nil] at hend
  rw [trimmed, trimStart_eq_self h, hend]

end Componentry.Text
