import Mathlib.Data.List.Infix
import Componentry.Proofs.Markup.WrittenParts

/-!
# Texts that can be read to the end

What is left after a token is the end of the text (`suffix_scanToken?`), so it holds no blank that
the text does not. In a start tag each pass then takes something, unless it meets a blank that is no
gap: a text without such blanks is `Spaced`, and always has tokens (`exists_tokens?`).
-/

namespace Componentry

namespace Text

variable {s r p a : List Char}

/-- The blanks in the text may all stand between the parts of a tag. -/
def Spaced (s : List Char) : Prop := ∀ c ∈ s, isBlank c = true → isGap c = true

instance (s : List Char) : Decidable (Spaced s) := List.decidableBAll _ s

theorem Spaced.of_suffix (h : Spaced s) (hr : r <:+ s) : Spaced r :=
  fun c hc => h c (hr.subset hc)

theorem suffix_of_breakOn? (h : breakOn? p s = some (a, r)) : r <:+ s :=
  ⟨a ++ p, (eq_append_of_breakOn? h).symm⟩

theorem suffix_of_after? (h : after? p s = some r) : r <:+ s :=
  ⟨p, (after?_eq_some_iff.1 h).symm⟩

theorem suffix_of_afterFolded? (h : afterFolded? p s = some r) : r <:+ s := by
  induction p generalizing s with
  | nil =>
      rw [afterFolded?_nil] at h
      exact Option.some_inj.1 h ▸ List.suffix_refl s
  | cons q p ih =>
      cases s with
      | nil => cases h
      | cons c s =>
          rw [afterFolded?] at h
          split at h
          · exact (ih h).trans (List.suffix_cons c s)
          · cases h

theorem suffix_breakBeforeFolded (p s : List Char) : (breakBeforeFolded p s).2 <:+ s :=
  ⟨_, breakBeforeFolded_append p s⟩

end Text

namespace Markup

open Text

variable {s r : List Char}

theorem suffix_untilClose (s : List Char) : (untilClose s).2 <:+ s := by
  unfold untilClose
  cases h : breakOn? ['>'] s with
  | none => exact List.nil_suffix
  | some parts => exact suffix_of_breakOn? h

theorem suffix_tagName? {name : List Char} (h : tagName? s = some (name, r)) : r <:+ s := by
  cases s with
  | nil => cases h
  | cons c s =>
      rw [tagName?] at h
      split at h
      · cases h
        exact (List.dropWhile_suffix _).trans (List.suffix_cons c s)
      · cases h

theorem suffix_scanValue (s : List Char) : (scanValue s).2 <:+ s := by
  unfold scanValue
  split
  · exact ((List.tail_suffix _).trans (List.dropWhile_suffix _)).trans (List.suffix_cons _ _)
  · exact ((List.tail_suffix _).trans (List.dropWhile_suffix _)).trans (List.suffix_cons _ _)
  · exact List.dropWhile_suffix _

theorem suffix_scanName (s : List Char) : (scanName s).2 <:+ s := by
  unfold scanName
  split
  · exact (List.dropWhile_suffix _).trans (List.suffix_cons _ _)
  · exact List.dropWhile_suffix _

/-- A name begins with any character that does not end a tag or stand between its parts. -/
theorem exists_scanName_cons {c : Char} (hc : continuesTag c = true) (s : List Char) :
    ∃ n, (scanName (c :: s)).1 = c :: n ∧ (scanName (c :: s)).2 <:+ s := by
  by_cases heq : c = '='
  · subst heq
    exact ⟨_, rfl, List.dropWhile_suffix _⟩
  · have hname : continuesName c = true := by simp [continuesName, hc, heq]
    have hscan : scanName (c :: s) =
        ((c :: s).takeWhile continuesName, (c :: s).dropWhile continuesName) := by
      unfold scanName
      split
      · next h => exact absurd (List.cons.inj h).1 heq
      · rfl
    rw [hscan, List.takeWhile_cons_of_pos hname, List.dropWhile_cons_of_pos hname]
    exact ⟨_, rfl, List.dropWhile_suffix _⟩

theorem name_scanAttribute (s : List Char) :
    (scanAttribute s).1.name = String.ofList (scanName s).1 := by
  unfold scanAttribute
  rcases scanName s with ⟨name, r⟩
  simp only
  split
  · rfl
  · rfl

theorem suffix_scanAttribute (s : List Char) : (scanAttribute s).2 <:+ (scanName s).2 := by
  unfold scanAttribute
  rcases scanName s with ⟨name, r⟩
  simp only
  split
  · next v heq =>
    have hvalue := (suffix_scanValue (v.dropWhile isGap)).trans (List.dropWhile_suffix _)
    exact hvalue.trans ((List.suffix_cons '=' v).trans (heq ▸ List.dropWhile_suffix _))
  · exact List.suffix_refl _

def Pass.rest : Pass → List Char
  | .close _ r => r
  | .slash r => r
  | .attribute _ r => r

theorem suffix_pass (s : List Char) : (pass s).rest <:+ s := by
  unfold pass
  split
  · exact List.suffix_refl _
  · exact List.suffix_cons _ _
  · exact (List.suffix_cons _ _).trans (List.suffix_cons _ _)
  · exact List.suffix_cons _ _
  · exact (suffix_scanAttribute _).trans (suffix_scanName _)

theorem suffix_of_pass {p : Pass} (h : pass (s.dropWhile isGap) = p) : p.rest <:+ s :=
  h ▸ (suffix_pass _).trans (List.dropWhile_suffix _)

theorem length_of_pass_eq_slash (h : pass s = .slash r) : r.length < s.length := by
  unfold pass at h
  split at h
  · exact nomatch h
  · exact nomatch h
  · exact nomatch h
  · cases h
    exact Nat.lt_succ_self _
  · exact nomatch h

theorem of_pass_eq_attribute {a : Attribute} (h : pass s = .attribute a r) :
    ∃ c t, s = c :: t ∧ c ≠ '/' ∧ c ≠ '>' ∧ scanAttribute s = (a, r) := by
  unfold pass at h
  split at h
  · exact nomatch h
  · exact nomatch h
  · exact nomatch h
  · exact nomatch h
  · next hnil hclose _ hslash =>
    cases h
    obtain ⟨c, t, rfl⟩ := List.exists_cons_of_ne_nil hnil
    exact ⟨c, t, rfl, fun hc => hslash t (hc ▸ rfl), fun hc => hclose t (hc ▸ rfl), rfl⟩

/-- An attribute that begins with a character of a name takes this character. -/
theorem scanAttribute_cons {c : Char} (hc : continuesTag c = true) (s : List Char) :
    (scanAttribute (c :: s)).1.name ≠ "" ∧ (scanAttribute (c :: s)).2 <:+ s := by
  obtain ⟨n, hname, hrest⟩ := exists_scanName_cons hc s
  refine ⟨?_, (suffix_scanAttribute (c :: s)).trans hrest⟩
  rw [name_scanAttribute, hname, ne_eq, ← String.toList_inj, String.toList_ofList]
  exact List.cons_ne_nil c n

/-- In a text whose blanks are gaps, a pass that reads an attribute reads its name. -/
theorem of_pass_dropWhile_isGap (h : Spaced s) {a : Attribute}
    (hp : pass (s.dropWhile isGap) = .attribute a r) : a.name ≠ "" ∧ r.length < s.length := by
  obtain ⟨c, t, hs, hslash, hclose, hscan⟩ := of_pass_eq_attribute hp
  have hsuffix : c :: t <:+ s := hs ▸ List.dropWhile_suffix _
  have hgap : isGap c = false := by
    have hhead := List.head?_dropWhile_not isGap s
    rw [hs] at hhead
    exact hhead
  have hc : continuesTag c = true := by
    have hblank : isBlank c = false :=
      Bool.eq_false_iff.2 fun hb =>
        Bool.eq_false_iff.1 hgap (h c (hsuffix.subset List.mem_cons_self) hb)
    simp [continuesTag, hblank, hslash, hclose]
  obtain ⟨hname, hrest⟩ := scanAttribute_cons hc t
  rw [hs] at hscan
  rw [hscan] at hname hrest
  exact ⟨hname, Nat.lt_of_lt_of_le (Nat.lt_succ_of_le hrest.length_le) hsuffix.length_le⟩

theorem suffix_attributes? {read as : List Attribute} {b : Bool}
    (h : attributes? read s = some (as, b, r)) : r <:+ s := by
  fun_induction attributes? read s with
  | case1 read s b' r' hp =>
      cases h
      exact suffix_of_pass hp
  | case2 read s r' hp _ ih => exact (ih h).trans (suffix_of_pass hp)
  | case3 => cases h
  | case4 read s a r' hp _ ih => exact (ih h).trans (suffix_of_pass hp)
  | case5 => cases h

/-- So each start tag ends. -/
theorem exists_attributes? (h : Spaced s) (read : List Attribute) :
    ∃ t, attributes? read s = some t := by
  fun_induction attributes? read s with
  | case1 read s b r hp => exact ⟨_, rfl⟩
  | case2 read s r hp _ ih => exact ih (h.of_suffix (suffix_of_pass hp))
  | case3 read s r hp hge =>
      have hlt := Nat.lt_of_lt_of_le (length_of_pass_eq_slash hp) (length_dropWhile_le isGap s)
      exact absurd hlt hge
  | case4 read s a r hp _ ih => exact ih (h.of_suffix (suffix_of_pass hp))
  | case5 read s a r hp hge => exact absurd (of_pass_dropWhile_isGap h hp).2 hge

theorem suffix_scanDeclaration (s : List Char) : (scanDeclaration s).2 <:+ s := by
  unfold scanDeclaration
  split
  · next r h =>
    have hr := suffix_of_after? h
    split
    · next h' => exact (suffix_of_breakOn? h').trans hr
    · exact List.nil_suffix
  · split
    · next r h => exact (suffix_untilClose r).trans (suffix_of_afterFolded? h)
    · exact suffix_untilClose s

theorem suffix_scanEndTag (s : List Char) : (scanEndTag s).2 <:+ s := by
  unfold scanEndTag
  split
  · next name r h => exact (suffix_untilClose r).trans (suffix_tagName? h)
  · exact suffix_untilClose s

/-- What begins with `<` is a declaration, an end tag, a comment in question marks, a start tag, or
no markup at all. -/
theorem scanMarkup?_cases {t : Token} (h : scanMarkup? s = some (t, r)) :
    (∃ s', s = '!' :: s' ∧ scanDeclaration s' = (t, r)) ∨
    (∃ s', s = '/' :: s' ∧ scanEndTag s' = (t, r)) ∨
    (∃ body s', s = '?' :: s' ∧ breakOn? ['>'] s' = some (body, r) ∧
      t = .comment ('?' :: body)) ∨
    (∃ name s' attributes selfClosing, tagName? s = some (name, s') ∧
      attributes? [] s' = some (attributes, selfClosing, r) ∧
      t = .startTag (String.ofList name) attributes selfClosing) ∨
    (t = .text ['<'] ∧ r = s) := by
  unfold scanMarkup? at h
  split at h
  · exact .inl ⟨_, rfl, Option.some_inj.1 h⟩
  · exact .inr (.inl ⟨_, rfl, Option.some_inj.1 h⟩)
  · split at h
    · next hbreak =>
      cases h
      exact .inr (.inr (.inl ⟨_, _, rfl, hbreak, rfl⟩))
    · cases h
      exact .inr (.inr (.inr (.inr ⟨rfl, rfl⟩)))
  · split at h
    · next hname =>
      obtain ⟨parts, hattributes, heq⟩ := Option.map_eq_some_iff.1 h
      cases heq
      exact .inr (.inr (.inr (.inl ⟨_, _, _, _, hname, hattributes, rfl⟩)))
    · cases h
      exact .inr (.inr (.inr (.inr ⟨rfl, rfl⟩)))

theorem suffix_scanMarkup? {t : Token} (h : scanMarkup? s = some (t, r)) : r <:+ s := by
  rcases scanMarkup?_cases h with ⟨s', rfl, heq⟩ | ⟨s', rfl, heq⟩ | ⟨body, s', rfl, hbreak, -⟩ |
    ⟨name, s', as, b, hname, hattributes, -⟩ | ⟨-, rfl⟩
  · have hr := suffix_scanDeclaration s'
    rw [heq] at hr
    exact hr.trans (List.suffix_cons _ _)
  · have hr := suffix_scanEndTag s'
    rw [heq] at hr
    exact hr.trans (List.suffix_cons _ _)
  · exact (suffix_of_breakOn? hbreak).trans (List.suffix_cons _ _)
  · exact (suffix_attributes? hattributes).trans (suffix_tagName? hname)
  · exact List.suffix_refl _

theorem suffix_scanToken? {c : Char} {t : Token} (h : scanToken? c s = some (t, r)) : r <:+ s := by
  unfold scanToken? at h
  split at h
  · exact suffix_scanMarkup? h
  · cases h
    exact List.dropWhile_suffix _

/-- What holds of each token that is read at some place of a text, and of each content of a raw
element, holds of all tokens of the text. -/
theorem forall_tokens? {P : Token → Prop} {ts : List Token} (h : tokens? s = some ts)
    (hscan : ∀ c cs t r, c :: cs <:+ s → scanToken? c cs = some (t, r) → P t)
    (hraw : ∀ body, body ≠ [] → P (.rawText body)) : ∀ t ∈ ts, P t := by
  fun_induction tokens? s generalizing ts with
  | case1 =>
      cases h
      exact List.forall_mem_nil _
  | case2 => cases h
  | case3 c cs t r hfirst _ ih =>
      obtain ⟨rest, hrest, rfl⟩ := Option.map_eq_some_iff.1 h
      have hr := (suffix_scanToken? hfirst).trans (List.suffix_cons c cs)
      exact List.forall_mem_cons.2 ⟨hscan c cs t r (List.suffix_refl _) hfirst,
        ih hrest fun d ds t' r' hds => hscan d ds t' r' (hds.trans hr)⟩
  | case4 c cs t r hfirst word _ parts =>
      rename_i ih
      obtain ⟨rest, hrest, rfl⟩ := Option.map_eq_some_iff.1 h
      have hr := (suffix_breakBeforeFolded word r).trans
        ((suffix_scanToken? hfirst).trans (List.suffix_cons c cs))
      have htail := ih hrest fun d ds t' r' hds => hscan d ds t' r' (hds.trans hr)
      refine List.forall_mem_cons.2 ⟨hscan c cs t r (List.suffix_refl _) hfirst, ?_⟩
      split
      · exact htail
      · next hne => exact List.forall_mem_cons.2 ⟨hraw _ hne, htail⟩

theorem exists_scanMarkup? (h : Spaced s) : ∃ t r, scanMarkup? s = some (t, r) := by
  unfold scanMarkup?
  split
  · exact ⟨_, _, rfl⟩
  · exact ⟨_, _, rfl⟩
  · split
    · exact ⟨_, _, rfl⟩
    · exact ⟨_, _, rfl⟩
  · split
    · next name r hname =>
      obtain ⟨⟨as, b, rest⟩, hattributes⟩ :=
        exists_attributes? (h.of_suffix (suffix_tagName? hname)) []
      rw [hattributes]
      exact ⟨_, _, rfl⟩
    · exact ⟨_, _, rfl⟩

theorem exists_scanToken? (h : Spaced s) (c : Char) : ∃ t r, scanToken? c s = some (t, r) := by
  unfold scanToken?
  split
  · exact exists_scanMarkup? h
  · exact ⟨_, _, rfl⟩

/-- A text whose blanks are gaps has tokens. -/
theorem exists_tokens? (h : Spaced s) : ∃ ts, tokens? s = some ts := by
  fun_induction tokens? s with
  | case1 => exact ⟨[], rfl⟩
  | case2 c cs hscan =>
      obtain ⟨t, r, hsome⟩ := exists_scanToken? (h.of_suffix (List.suffix_cons c cs)) c
      exact nomatch hscan.symm.trans hsome
  | case3 c cs t r hscan hraw ih =>
      have hr := (suffix_scanToken? hscan).trans (List.suffix_cons c cs)
      obtain ⟨ts, hts⟩ := ih (h.of_suffix hr)
      rw [hts]
      exact ⟨_, rfl⟩
  | case4 c cs t r hscan word _ parts =>
      rename_i ih
      have hr := (suffix_scanToken? hscan).trans (List.suffix_cons c cs)
      obtain ⟨ts, hts⟩ := ih (h.of_suffix ((suffix_breakBeforeFolded word r).trans hr))
      rw [hts]
      exact ⟨_, rfl⟩

end Markup

end Componentry
