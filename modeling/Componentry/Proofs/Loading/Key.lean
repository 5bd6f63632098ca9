import Componentry.Loading.Loader
import Mathlib.Data.List.Nodup
import Mathlib.Data.List.Perm.Subperm

/-!
# The keys of components

An inline definition is keyed by its number alone; every other component gets the first key that is
not in use, out of the text that names it and that text with a number behind it. The key of an
address contains a colon, and the key of an inline definition does not, so these two never meet.
Nothing keeps the text of an unusable source from being the key of an inline definition.
-/

namespace Componentry

theorem toString_injective {m n : Nat} (h : toString m = toString n) : m = n := by
  have hd : Nat.toDigits 10 m = Nat.toDigits 10 n := by
    have hl := congrArg String.toList h
    simpa only [Nat.toString_eq_repr, Nat.toList_repr] using hl
  have hv := congrArg (Nat.ofDigitChars 10 · 0) hd
  simpa only [Nat.ofDigitChars_ten_toDigits] using hv

theorem append_left_cancel {s t u : String} (h : s ++ t = s ++ u) : t = u := by
  rw [← String.toList_inj] at h ⊢
  rw [String.toList_append, String.toList_append] at h
  exact List.append_cancel_left h

theorem inlineKey_injective {m n : Nat} (h : inlineKey m = inlineKey n) : m = n :=
  toString_injective (append_left_cancel h)

theorem numberedKey_injective (key : String) : Function.Injective (numberedKey key) := by
  intro m n h
  unfold numberedKey at h
  rw [String.append_assoc, String.append_assoc, String.append_assoc, String.append_assoc] at h
  have hs := congrArg String.toList (append_left_cancel (append_left_cancel h))
  rw [String.toList_append, String.toList_append] at hs
  exact toString_injective (String.toList_inj.1 (List.append_cancel_right hs))

theorem numberedKey_ne_self (key : String) (n : Nat) : numberedKey key n ≠ key := by
  intro h
  have hlength := congrArg String.length h
  simp only [numberedKey, String.length_append] at hlength
  have hbracket : 0 < " [".length := by decide
  omega

/-- Of the first numbers, as many as there are keys in use, one makes a key in use free. -/
theorem exists_numberedKey_not_mem {used : List String} {key : String} (h : key ∈ used) :
    ∃ n, 2 ≤ n ∧ n ≤ used.length + 1 ∧ numberedKey key n ∉ used := by
  by_contra hall
  simp only [not_exists, not_and, not_not] at hall
  -- the key and its first numbered keys would be one more than there are keys in use
  have hnodup : (key :: (List.range' 2 used.length).map (numberedKey key)).Nodup := by
    refine List.nodup_cons.2 ⟨?_, List.Nodup.map (numberedKey_injective key) List.nodup_range'⟩
    rw [List.mem_map]
    rintro ⟨n, -, hn⟩
    exact numberedKey_ne_self key n hn
  have hsubset : key :: (List.range' 2 used.length).map (numberedKey key) ⊆ used := by
    refine List.cons_subset.2 ⟨h, fun k hk => ?_⟩
    obtain ⟨n, hn, rfl⟩ := List.mem_map.1 hk
    rw [List.mem_range'_1] at hn
    exact hall n hn.1 (by omega)
  have hle := (List.Nodup.subperm hnodup hsubset).length_le
  rw [List.length_cons, List.length_map, List.length_range'] at hle
  omega

/-- The number that a key in use gets is the first that makes it free. -/
theorem exists_first_number {used : List String} {key : String} (h : key ∈ used) :
    ∃ n, freshKey used key = numberedKey key n ∧ 2 ≤ n ∧ numberedKey key n ∉ used ∧
      ∀ k, 2 ≤ k → k < n → numberedKey key k ∈ used := by
  obtain ⟨k, hk, hle, hfree⟩ := exists_numberedKey_not_mem h
  have hmem : k ∈ List.range' 2 (used.length + 1) := List.mem_range'_1.2 ⟨hk, by omega⟩
  obtain ⟨n, hn⟩ := Option.isSome_iff_exists.1
    (List.find?_isSome (p := (fun k => !used.contains k) ∘ numberedKey key) |>.2
      ⟨k, hmem, by simpa using hfree⟩)
  obtain ⟨hnfree, hnmem, hbefore⟩ := List.find?_range'_eq_some.1 hn
  refine ⟨n, ?_, (List.mem_range'_1.1 hnmem).1, by simpa using hnfree, fun j hj hlt => ?_⟩
  · rw [freshKey, if_pos (List.contains_iff_mem.2 h), List.find?_map, hn]
    rfl
  · simpa using hbefore j hj hlt

/-- The numbered key that is taken, where the key itself is in use. -/
theorem freshKey_of_mem {used : List String} {key : String} (h : key ∈ used) :
    ∃ n, freshKey used key = numberedKey key n ∧ numberedKey key n ∉ used := by
  obtain ⟨n, heq, -, hfree, -⟩ := exists_first_number h
  exact ⟨n, heq, hfree⟩

theorem freshKey_of_not_mem {used : List String} {key : String} (h : key ∉ used) :
    freshKey used key = key := by
  rw [freshKey, if_neg (by simpa using h)]

theorem freshKey_cases (used : List String) (key : String) :
    freshKey used key = key ∨ ∃ n, freshKey used key = numberedKey key n := by
  by_cases h : key ∈ used
  · obtain ⟨n, heq, -⟩ := freshKey_of_mem h
    exact Or.inr ⟨n, heq⟩
  · exact Or.inl (freshKey_of_not_mem h)

/-- A fresh key is not in use. -/
theorem freshKey_not_mem (used : List String) (key : String) : freshKey used key ∉ used := by
  by_cases h : key ∈ used
  · obtain ⟨n, heq, hfree⟩ := freshKey_of_mem h
    rw [heq]
    exact hfree
  · rw [freshKey_of_not_mem h]
    exact h

/-- The characters of a key are in every fresh key made from it. -/
theorem mem_freshKey (used : List String) {key : String} {c : Char} (hc : c ∈ key.toList) :
    c ∈ (freshKey used key).toList := by
  rcases freshKey_cases used key with heq | ⟨n, heq⟩
  · rw [heq]
    exact hc
  · rw [heq, numberedKey]
    simp only [String.toList_append, List.mem_append]
    exact Or.inl (Or.inl (Or.inl hc))

/-- The key of an inline definition has only a few letters and digits. -/
theorem not_mem_inlineKey {c : Char} (hword : c ∉ "inline#".toList) (hdigit : c.isDigit = false)
    (n : Nat) : c ∉ (inlineKey n).toList := by
  rw [inlineKey, String.toList_append, List.mem_append, Nat.toString_eq_repr, Nat.toList_repr]
  rintro (h | h)
  · exact hword h
  · have hd := Nat.isDigit_of_mem_toDigits (by decide) (by decide) h
    rw [hdigit] at hd
    exact Bool.noConfusion hd

theorem colon_not_mem_inlineKey (n : Nat) : ':' ∉ (inlineKey n).toList :=
  not_mem_inlineKey (by decide) rfl n

theorem numberedKey_ne_inlineKey (key : String) (m n : Nat) :
    numberedKey key m ≠ inlineKey n := by
  intro h
  have hm : ']' ∈ (numberedKey key m).toList := by simp [numberedKey]
  rw [h] at hm
  exact not_mem_inlineKey (by decide) rfl n hm

end Componentry
