import Componentry.Text.Scan

/-!
# Breaking a text that was put together

`breakOn?` and `breakBeforeFolded` part a text where a word stands first. These laws go the other
way: a text put together from a part `a`, the word and a rest breaks into just these, when the word
does not stand in `a` and cannot begin in `a` and reach beyond it. A single character never does,
and neither does a word whose first character does not occur in it again.
-/

namespace Componentry.Text

theorem after?_append (p r : List Char) : after? p (p ++ r) = some r :=
  after?_eq_some_iff.2 rfl

theorem after?_eq_none_iff {p s : List Char} : after? p s = none ↔ ¬ p <+: s := by
  constructor
  · rintro h ⟨r, rfl⟩
    rw [after?_append] at h
    cases h
  · intro h
    cases hs : after? p s with
    | none => rfl
    | some r => exact absurd ⟨r, (after?_eq_some_iff.1 hs).symm⟩ h

theorem breakOn?_self_append (p r : List Char) : breakOn? p (p ++ r) = some ([], r) := by
  cases hs : p ++ r with
  | nil =>
      obtain ⟨rfl, rfl⟩ := List.append_eq_nil_iff.1 hs
      rfl
  | cons c cs =>
      have h : after? p (c :: cs) = some r := by rw [← hs, after?_append]
      simp [breakOn?, h]

/-- A text breaks at a word that begins nowhere before it. -/
theorem breakOn?_append {p a r : List Char}
    (h : ∀ b, b ≠ [] → b <:+ a → ¬ p <+: b ++ p ++ r) :
    breakOn? p (a ++ p ++ r) = some (a, r) := by
  induction a with
  | nil => exact breakOn?_self_append p r
  | cons c a ih =>
      have hc : after? p (c :: (a ++ p ++ r)) = none :=
        after?_eq_none_iff.2 (h (c :: a) (List.cons_ne_nil c a) (List.suffix_refl _))
      have ha := ih fun b hb hs => h b hb (hs.trans (List.suffix_cons c a))
      rw [List.cons_append, List.cons_append, breakOn?, hc, ha]
      rfl

theorem breakOn?_singleton_append {c : Char} {a : List Char} (h : c ∉ a) (r : List Char) :
    breakOn? [c] (a ++ c :: r) = some (a, r) := by
  have hb : ∀ b, b ≠ [] → b <:+ a → ¬ [c] <+: b ++ [c] ++ r := by
    intro b hb hs hp
    obtain ⟨d, b, rfl⟩ := List.exists_cons_of_ne_nil hb
    obtain ⟨t, ht⟩ := hp
    have hd : c = d := (List.cons.inj ht).1
    exact h (hd ▸ hs.subset List.mem_cons_self)
  have := breakOn?_append hb
  rwa [List.append_assoc, List.singleton_append] at this

section firstPlace

variable {p s a r : List Char}

/-- A word does not stand in front of its first place. -/
theorem not_infix_of_breakOn? (hp : p ≠ []) (h : breakOn? p s = some (a, r)) : ¬ p <:+: a := by
  induction s generalizing a with
  | nil =>
      obtain ⟨_, -, heq⟩ := Option.map_eq_some_iff.1 h
      cases heq
      exact fun hin => hp (List.infix_nil.1 hin)
  | cons c s ih =>
      rw [breakOn?] at h
      split at h
      · cases h
        exact fun hin => hp (List.infix_nil.1 hin)
      · next hnone =>
        obtain ⟨⟨a', r'⟩, hbreak, heq⟩ := Option.map_eq_some_iff.1 h
        cases heq
        rintro hin
        rcases List.infix_cons_iff.1 hin with hpre | hin
        · have hs := eq_append_of_breakOn? hbreak
          rw [List.append_assoc] at hs
          exact after?_eq_none_iff.1 hnone (hpre.trans ⟨p ++ r', by rw [hs]; rfl⟩)
        · exact ih hbreak hin

theorem not_infix_of_breakOn?_eq_none (h : breakOn? p s = none) : ¬ p <:+: s := by
  induction s with
  | nil =>
      intro hin
      rw [List.infix_nil.1 hin] at h
      cases h
  | cons c s ih =>
      rw [breakOn?] at h
      split at h
      · cases h
      · next hnone =>
        intro hin
        rcases List.infix_cons_iff.1 hin with hpre | hin
        · exact after?_eq_none_iff.1 hnone hpre
        · exact ih (Option.map_eq_none_iff.1 h) hin

theorem breakOn?_singleton_eq_some_iff {c : Char} :
    breakOn? [c] s = some (a, r) ↔ s = a ++ c :: r ∧ c ∉ a := by
  constructor
  · intro h
    have hs := eq_append_of_breakOn? h
    rw [List.append_assoc, List.singleton_append] at hs
    refine ⟨hs, fun hc => not_infix_of_breakOn? (List.cons_ne_nil c []) h ?_⟩
    obtain ⟨b, b', hb⟩ := List.append_of_mem hc
    exact ⟨b, b', by rw [hb, List.append_assoc, List.singleton_append]⟩
  · rintro ⟨rfl, hc⟩
    exact breakOn?_singleton_append hc r

end firstPlace

/-- A word that the text `a` begins with, up to letter case, if it ends in front of the character
`c`, which is not in it. -/
theorem prefix_of_afterFolded? {p a t r : List Char} {c : Char} (hc : c.toLower ∉ p)
    (h : afterFolded? p (a ++ c :: t) = some r) : p <+: a.map Char.toLower := by
  induction p generalizing a with
  | nil => exact List.nil_prefix
  | cons q p ih =>
      cases a with
      | nil =>
          have hq : q ≠ c.toLower := fun hq => hc (hq ▸ List.mem_cons_self)
          simp [afterFolded?, hq] at h
      | cons d a =>
          simp only [List.cons_append, afterFolded?] at h
          split at h
          · next hq =>
              have hp := ih (fun hm => hc (List.mem_cons_of_mem q hm)) h
              simpa [hq] using hp
          · cases h

theorem afterFolded?_append {p : List Char} (hp : p.map Char.toLower = p) (r : List Char) :
    afterFolded? p (p ++ r) = some r := by
  induction p with
  | nil => exact afterFolded?_nil r
  | cons q p ih =>
      rw [List.map_cons, List.cons.injEq] at hp
      simp [afterFolded?, hp.1, ih hp.2]

theorem breakBeforeFolded_cons_of_some {p : List Char} {c : Char} {s r : List Char}
    (h : afterFolded? p (c :: s) = some r) : breakBeforeFolded p (c :: s) = ([], c :: s) := by
  simp [breakBeforeFolded, h]

theorem breakBeforeFolded_cons_of_none {p : List Char} {c : Char} {s : List Char}
    (h : afterFolded? p (c :: s) = none) :
    breakBeforeFolded p (c :: s) =
      (c :: (breakBeforeFolded p s).1, (breakBeforeFolded p s).2) := by
  simp [breakBeforeFolded, h]

/-- A text breaks before a word in lower case whose first character does not occur in it again. -/
theorem breakBeforeFolded_append_word {c : Char} {p a : List Char} (hc : c ∉ p)
    (hp : (c :: p).map Char.toLower = c :: p)
    (ha : ¬ (c :: p) <:+: a.map Char.toLower) (r : List Char) :
    breakBeforeFolded (c :: p) (a ++ (c :: p ++ r)) = (a, c :: p ++ r) := by
  have hlow : c.toLower = c := (List.cons.inj hp).1
  induction a with
  | nil => exact breakBeforeFolded_cons_of_some (afterFolded?_append hp r)
  | cons d a ih =>
      have hnone : afterFolded? (c :: p) (d :: (a ++ (c :: p ++ r))) = none := by
        cases hs : afterFolded? (c :: p) (d :: (a ++ (c :: p ++ r))) with
        | none => rfl
        | some t =>
            simp only [afterFolded?] at hs
            split at hs
            · next hd =>
                -- behind its first character the word would have to end within `a`
                have hpre := prefix_of_afterFolded? (by rwa [hlow]) hs
                obtain ⟨u, hu⟩ := hpre
                exact absurd ⟨[], u, by simp [hd, ← hu]⟩ ha
            · cases hs
      have hrest := ih fun hin => ha (hin.trans (List.suffix_cons _ _).isInfix)
      rw [List.cons_append, breakBeforeFolded_cons_of_none hnone, hrest]

end Componentry.Text
