import Componentry.Proofs.Loading.Key
import Mathlib.Order.Bounds.Defs

/-!
# The search for a fresh key

A key that is in use is numbered, and the numbers are tried from 2 on. `KeySearch` is this search
without a bound. It ends with the least number that makes the key free (`keySearch_iff`), and it
always ends: the numbered keys of one key differ from each other and from the key itself, so that
fewer of them are in use than there are keys in use. `freshKey` is what the search finds
(`freshKey_least`).
-/

namespace Componentry

variable {used : List String} {key : String}

/-- The search for a number that makes the key free, from one number on, ends with another. -/
inductive KeySearch (used : List String) (key : String) : Nat → Nat → Prop where
  | free {n : Nat} : numberedKey key n ∉ used → KeySearch used key n n
  | taken {n m : Nat} :
      numberedKey key n ∈ used → KeySearch used key (n + 1) m → KeySearch used key n m

def freeNumbers (used : List String) (key : String) (n : Nat) : Set Nat :=
  {k | n ≤ k ∧ numberedKey key k ∉ used}

theorem freeNumbers_succ {n : Nat} (h : numberedKey key n ∈ used) :
    freeNumbers used key (n + 1) = freeNumbers used key n := by
  ext k
  refine and_congr_left fun hk => ⟨Nat.le_of_succ_le, fun hle => ?_⟩
  rcases Nat.eq_or_lt_of_le hle with rfl | hlt
  · exact absurd h hk
  · exact hlt

/-- The search ends with the least number that makes the key free, and with no other. -/
theorem keySearch_iff {n m : Nat} :
    KeySearch used key n m ↔ IsLeast (freeNumbers used key n) m := by
  constructor
  · intro h
    induction h with
    | free hfree => exact ⟨⟨Nat.le_refl _, hfree⟩, fun k hk => hk.1⟩
    | taken htaken _ ih => rwa [freeNumbers_succ htaken] at ih
  · intro h
    obtain ⟨d, hd⟩ := Nat.exists_eq_add_of_le h.1.1
    induction d generalizing n with
    | zero =>
        subst hd
        exact .free h.1.2
    | succ d ih =>
        -- the first number gives a key in use, as the least that gives a free one comes later
        have htaken : numberedKey key n ∈ used := by
          by_contra hfree
          have hle : m ≤ n := h.2 ⟨Nat.le_refl n, hfree⟩
          omega
        rw [← freeNumbers_succ htaken] at h
        exact .taken htaken (ih h (by omega))

theorem exists_isLeast_number (h : key ∈ used) :
    ∃ n, IsLeast (freeNumbers used key 2) n ∧ n ≤ used.length + 1 ∧
      freshKey used key = numberedKey key n := by
  obtain ⟨n, heq, hn, hfree, hbefore⟩ := exists_first_number h
  have hleast : IsLeast (freeNumbers used key 2) n := by
    refine ⟨⟨hn, hfree⟩, fun k hk => ?_⟩
    by_contra hlt
    exact hk.2 (hbefore k hk.1 (Nat.lt_of_not_le hlt))
  obtain ⟨k, hk, hle, hkfree⟩ := exists_numberedKey_not_mem h
  exact ⟨n, hleast, Nat.le_trans (hleast.2 ⟨hk, hkfree⟩) hle, heq⟩

/-- A fresh key is not in use. It is the key itself, or, if this is in use, the key with the least
number from 2 on that makes it free; the search for this number ends, after no more tries than there
are keys in use. -/
theorem freshKey_least (used : List String) (key : String) :
    freshKey used key ∉ used ∧
      (key ∉ used ∧ freshKey used key = key ∨
        key ∈ used ∧ ∃ n, IsLeast (freeNumbers used key 2) n ∧ KeySearch used key 2 n ∧
          n ≤ used.length + 1 ∧ freshKey used key = numberedKey key n) := by
  refine ⟨freshKey_not_mem used key, ?_⟩
  by_cases h : key ∈ used
  · obtain ⟨n, hleast, hle, hfresh⟩ := exists_isLeast_number h
    exact .inr ⟨h, n, hleast, keySearch_iff.2 hleast, hle, hfresh⟩
  · exact .inl ⟨h, freshKey_of_not_mem h⟩

/-- The numbered key of another key is in use, and a number is free between two that are not. -/
example : freshKey ["a [2]", "a", "a [2] [2]", "a [4]"] "a" = "a [3]" := by decide +kernel

end Componentry
