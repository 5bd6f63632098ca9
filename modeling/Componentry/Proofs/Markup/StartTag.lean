import Componentry.Proofs.Markup.Progress

/-!
# Passing through a start tag

A pass through a start tag ends it or takes something of the text. The one exception is a blank that
is no gap: it ends the attribute in front of it and is not skipped, so the pass reads an attribute
without a name and takes nothing (`closes_or_length_lt_iff`, `pass_of_atStrayBlank`). `Ends` is the
whole way through a start tag, with no regard to progress. It comes to the end exactly if
`attributes?` gives an answer (`attributes?_eq_some_iff`), and so always if all blanks are gaps.
-/

namespace Componentry.Markup

open Text

variable {s r : List Char}

def Pass.Closes : Pass → Prop
  | .close _ _ => True
  | .slash _ => False
  | .attribute _ _ => False

/-- A blank that is no gap comes next. -/
def AtStrayBlank (s : List Char) : Prop := ∃ c ∈ s.head?, isBlank c = true ∧ isGap c = false

/-- Passes through a start tag, from the attributes that have been read and the text that is left to
the attributes of the tag, whether it ends in a slash, and what follows it. -/
inductive Ends : List Attribute → List Char → List Attribute × Bool × List Char → Prop where
  | ended {read : List Attribute} {s r : List Char} {selfClosing : Bool} :
      pass (s.dropWhile isGap) = .close selfClosing r → Ends read s (read, selfClosing, r)
  | skipped {read : List Attribute} {s r : List Char} {out : List Attribute × Bool × List Char} :
      pass (s.dropWhile isGap) = .slash r → Ends read r out → Ends read s out
  | taken {read : List Attribute} {s r : List Char} {a : Attribute}
      {out : List Attribute × Bool × List Char} :
      pass (s.dropWhile isGap) = .attribute a r → Ends (addAttribute read a) r out →
        Ends read s out

theorem AtStrayBlank.dropWhile_isGap (h : AtStrayBlank s) : s.dropWhile isGap = s := by
  obtain ⟨c, hc, -, hgap⟩ := h
  obtain ⟨t, rfl⟩ := List.head?_eq_some_iff.1 hc
  exact List.dropWhile_cons_of_neg (by simp [hgap])

/-- In front of a blank that is no gap, a pass reads nothing. -/
theorem pass_of_atStrayBlank (h : AtStrayBlank s) : pass s = .attribute ⟨"", none⟩ s := by
  obtain ⟨c, hc, hblank, hgap⟩ := h
  obtain ⟨t, rfl⟩ := List.head?_eq_some_iff.1 hc
  have hne : ∀ d, isBlank d = false → c ≠ d := by
    rintro d hd rfl
    exact Bool.noConfusion (hblank.symm.trans hd)
  have hname : continuesName c = false := by simp [continuesName, continuesTag, hblank]
  have hscanName : scanName (c :: t) = ([], c :: t) := by
    unfold scanName
    split
    · next heq => exact absurd (List.cons.inj heq).1 (hne '=' (by decide))
    · rw [List.takeWhile_cons_of_neg (by simp [hname]),
        List.dropWhile_cons_of_neg (by simp [hname])]
  have hscan : scanAttribute (c :: t) = (⟨"", none⟩, c :: t) := by
    unfold scanAttribute
    simp only [hscanName]
    rw [List.dropWhile_cons_of_neg (by simp [hgap])]
    split
    · next heq => exact absurd (List.cons.inj heq).1 (hne '=' (by decide))
    · rfl
  unfold pass
  split
  · next heq => exact absurd heq (List.cons_ne_nil c t)
  · next heq => exact absurd (List.cons.inj heq).1 (hne '>' (by decide))
  · next heq => exact absurd (List.cons.inj heq).1 (hne '/' (by decide))
  · next heq => exact absurd (List.cons.inj heq).1 (hne '/' (by decide))
  · rw [hscan]

/-- Apart from such a blank, a pass that does not end the tag takes something. -/
theorem closes_or_length_lt (hgap : ∀ c ∈ s.head?, isGap c = false) (h : ¬ AtStrayBlank s) :
    (pass s).Closes ∨ (pass s).rest.length < s.length := by
  match hp : pass s with
  | .close b r => exact .inl trivial
  | .slash r => exact .inr (length_of_pass_eq_slash hp)
  | .attribute a r =>
      obtain ⟨c, t, rfl, hslash, hclose, hscan⟩ := of_pass_eq_attribute hp
      have hblank : isBlank c = false :=
        Bool.eq_false_iff.2 fun hb => h ⟨c, rfl, hb, hgap c rfl⟩
      have hrest := (scanAttribute_cons (c := c) (by simp [continuesTag, *]) t).2
      rw [hscan] at hrest
      exact .inr (Nat.lt_succ_of_le hrest.length_le)

theorem isGap_of_mem_head?_dropWhile (s : List Char) :
    ∀ c ∈ (s.dropWhile isGap).head?, isGap c = false := by
  intro c hc
  have hhead := List.head?_dropWhile_not isGap s
  rw [Option.mem_def.1 hc] at hhead
  exact hhead

/-- Behind the gaps, a pass ends the tag or takes something, unless a blank that is no gap comes. -/
theorem closes_or_length_lt_iff (s : List Char) :
    (pass (s.dropWhile isGap)).Closes ∨
        (pass (s.dropWhile isGap)).rest.length < (s.dropWhile isGap).length ↔
      ¬ AtStrayBlank (s.dropWhile isGap) := by
  refine ⟨fun h hstray => ?_, closes_or_length_lt (isGap_of_mem_head?_dropWhile s)⟩
  rw [pass_of_atStrayBlank hstray] at h
  rcases h with hcloses | hlt
  · exact hcloses
  · exact Nat.lt_irrefl _ hlt

/-- A start tag in which a blank comes that is no gap never ends. -/
theorem not_ends_of_atStrayBlank (h : AtStrayBlank (s.dropWhile isGap)) {read : List Attribute}
    {out : List Attribute × Bool × List Char} : ¬ Ends read s out := by
  intro hends
  induction hends with
  | ended hp => exact nomatch (pass_of_atStrayBlank h).symm.trans hp
  | skipped hp => exact nomatch (pass_of_atStrayBlank h).symm.trans hp
  | taken hp _ ih =>
      cases (pass_of_atStrayBlank h).symm.trans hp
      exact ih (by rwa [h.dropWhile_isGap])

theorem attributes?_of_slash {read : List Attribute} (h : pass (s.dropWhile isGap) = .slash r) :
    attributes? read s = attributes? read r := by
  have hlt := Nat.lt_of_lt_of_le (length_of_pass_eq_slash h) (length_dropWhile_le isGap s)
  rw [attributes?.eq_def]
  split <;> simp_all

/-- The way through a start tag ends exactly if `attributes?` gives an answer, and with this. -/
theorem attributes?_eq_some_iff {read : List Attribute}
    {out : List Attribute × Bool × List Char} :
    attributes? read s = some out ↔ Ends read s out := by
  constructor
  · intro h
    fun_induction attributes? read s with
    | case1 read s b r hp =>
        cases h
        exact .ended hp
    | case2 read s r hp _ ih => exact .skipped hp (ih h)
    | case3 => cases h
    | case4 read s a r hp _ ih => exact .taken hp (ih h)
    | case5 => cases h
  · intro h
    induction h with
    | ended hp => exact attributes?_of_close hp
    | skipped hp _ ih => rw [attributes?_of_slash hp, ih]
    | @taken read s r a out hp hends ih =>
        -- the pass took something, or else the passes that follow would not end
        have hstray : ¬ AtStrayBlank (s.dropWhile isGap) := by
          intro hstray
          cases (pass_of_atStrayBlank hstray).symm.trans hp
          exact not_ends_of_atStrayBlank (hstray.dropWhile_isGap.symm ▸ hstray) hends
        have hlt : r.length < s.length := by
          rcases (closes_or_length_lt_iff s).2 hstray with hcloses | hlt
          · rw [hp] at hcloses
            exact hcloses.elim
          · rw [hp] at hlt
            exact Nat.lt_of_lt_of_le hlt (length_dropWhile_le isGap s)
        rw [attributes?_of_attribute hp hlt, ih]

theorem exists_ends (h : Spaced s) (read : List Attribute) : ∃ out, Ends read s out := by
  obtain ⟨out, hout⟩ := exists_attributes? h read
  exact ⟨out, attributes?_eq_some_iff.1 hout⟩

end Componentry.Markup
