import Componentry.Proofs.Declaration.Name
import Componentry.Proofs.Text.Blank
import Mathlib.Data.Set.Function

/-!
# Names can be read back

In the name of a member a capital letter stands where a word of its tag begins, the first word
aside. `hyphenated` puts a hyphen in front of each capital letter and so gives the tag back, if the
tag is `WellSpelled`: its words are not empty, they have no capital letters, and those after the
first begin with a letter. No other tag is given back. So well-spelled tags with the same name are
the same (`memberName_readable`).
-/

namespace Componentry

open Text

/-- A capital letter in lower case with a hyphen in front, and any other character as it is. -/
def hyphenate (c : Char) : List Char := if c.isUpper then ['-', c.toLower] else [c]

def hyphenated (name : String) : String := String.ofList (name.toList.flatMap hyphenate)

def BeginsLower (w : List Char) : Prop := ∃ c ∈ w.head?, c.isLower = true

/-- Words that a name keeps apart. -/
structure IsSpelling (words : List (List Char)) : Prop where
  ne_nil : ∀ w ∈ words, w ≠ []
  plain : ∀ w ∈ words, ∀ c ∈ w, c ≠ '-' ∧ c.isUpper = false
  beginsLower : ∀ w ∈ words.tail, BeginsLower w

/-- Such words with single hyphens between them. -/
def WellSpelled (tag : String) : Prop :=
  ∃ words, IsSpelling words ∧ tag.toList = ['-'].intercalate words

theorem splitAt_eq_splitOn (c : Char) (s : List Char) : Text.splitAt c s = s.splitOn c := by
  induction s with
  | nil => rfl
  | cons d s ih =>
      rw [Text.splitAt, ih, List.splitOn_cons_eq_if_modifyHead]
      by_cases hd : d = c
      · rw [if_pos hd, if_pos (beq_iff_eq.2 hd)]
      · rw [if_neg hd, if_neg (mt beq_iff_eq.1 hd)]
        cases hs : s.splitOn c with
        | nil => exact absurd hs (List.splitOn_ne_nil c s)
        | cons w ws => rfl

theorem intercalate_hyphen_cons (w : List Char) (ws : List (List Char)) :
    ['-'].intercalate (w :: ws) = w ++ ws.flatMap ('-' :: ·) := by
  induction ws generalizing w with
  | nil => simp
  | cons v ws ih => rw [List.intercalate_cons_cons, ih, List.flatMap_cons]; simp

section reading

theorem hyphenate_of_isUpper_eq_false {c : Char} (h : c.isUpper = false) : hyphenate c = [c] := by
  simp [hyphenate, h]

theorem hyphenate_toUpper {c : Char} (h : c.isLower = true) :
    hyphenate c.toUpper = ['-', c] := by
  have hupper : c.toUpper.isUpper = true := by
    rw [Char.isUpper_toUpper_eq_isAlpha, Char.isAlpha, h, Bool.or_true]
  have hlower : c.toUpper.toLower = c := by
    rw [Char.toLower_toUpper_eq_toLower,
      Char.toLower_eq_of_not_isUpper (Char.not_isUpper_of_isLower h)]
  rw [hyphenate, if_pos hupper, hlower]

theorem flatMap_hyphenate_eq_self {w : List Char} (h : ∀ c ∈ w, c.isUpper = false) :
    w.flatMap hyphenate = w := by
  induction w with
  | nil => rfl
  | cons c w ih =>
      rw [List.forall_mem_cons] at h
      rw [List.flatMap_cons, hyphenate_of_isUpper_eq_false h.1, ih h.2]
      rfl

theorem toNat_lt_of_isAlpha {c : Char} (h : c.isAlpha = true) : c.toNat < 0x80 := by
  have hcode := toNat_of_isAlpha h
  omega

theorem upperForm_of_isLower {c : Char} (h : c.isLower = true) : upperForm c = [c.toUpper] := by
  have halpha : c.isAlpha = true := by rw [Char.isAlpha, h, Bool.or_true]
  rw [upperForm, if_pos (toNat_lt_of_isAlpha halpha)]

/-- The capital letter of a word becomes the hyphen in front of it. -/
theorem flatMap_hyphenate_capitalize {w : List Char} (h : ∀ c ∈ w, c.isUpper = false)
    (hw : BeginsLower w) : (capitalize w).flatMap hyphenate = '-' :: w := by
  obtain ⟨c, hc, hlower⟩ := hw
  obtain ⟨r, rfl⟩ := List.head?_eq_some_iff.1 hc
  rw [List.forall_mem_cons] at h
  rw [capitalize_cons, upperForm_of_isLower hlower, List.flatMap_append, List.flatMap_singleton,
    hyphenate_toUpper hlower, flatMap_hyphenate_eq_self h.2]
  rfl

/-- The words of a tag are found again in it. -/
theorem IsSpelling.tagSegments_eq {words : List (List Char)} (h : IsSpelling words) {tag : String}
    (htag : tag.toList = ['-'].intercalate words) : tagSegments tag = words := by
  have hmap : words.map (List.map Char.toLower) = words := by
    refine (List.map_congr_left fun w hw => ?_).trans (List.map_id words)
    exact map_toLower_eq_self fun c hc => (h.plain w hw c hc).2
  have hfilter : words.filter (· ≠ []) = words :=
    List.filter_eq_self.2 fun w hw => decide_eq_true (h.ne_nil w hw)
  rw [tagSegments, splitAt_eq_splitOn, htag]
  by_cases hnil : words = []
  · rw [hnil]
    rfl
  · rw [List.splitOn_intercalate '-' (fun w hw hc => (h.plain w hw '-' hc).1 rfl) hnil, hfilter,
      hmap]

theorem toList_memberName (tag : String) {w : List Char} {ws : List (List Char)}
    (h : tagSegments tag = w :: ws) : (memberName tag).toList = w ++ ws.flatMap capitalize := by
  rw [memberName, h, String.toList_ofList]

theorem WellSpelled.hyphenated_memberName {tag : String} (h : WellSpelled tag) :
    hyphenated (memberName tag) = tag := by
  obtain ⟨words, hwords, htag⟩ := h
  have hsegments := hwords.tagSegments_eq htag
  rw [← String.toList_inj, hyphenated, String.toList_ofList, htag]
  cases words with
  | nil => rw [memberName, hsegments]; rfl
  | cons w ws =>
      have hplain : ∀ v ∈ w :: ws, ∀ c ∈ v, c.isUpper = false := fun v hv c hc =>
        (hwords.plain v hv c hc).2
      rw [toList_memberName tag hsegments, List.flatMap_append,
        flatMap_hyphenate_eq_self (hplain w List.mem_cons_self), List.flatMap_assoc,
        intercalate_hyphen_cons]
      congr 1
      exact List.flatMap_congr fun v hv => flatMap_hyphenate_capitalize
        (hplain v (List.mem_cons_of_mem w hv)) (hwords.beginsLower v hv)

end reading

section spelling

/-- Every shift of letters to upper case leads beyond the hyphen. -/
theorem hyphen_lt_shift : ∀ r ∈ upperShifts, ('-'.toNat : Int) < r.first + r.places := by
  decide +kernel

theorem wideCases_ne_hyphen : ∀ e ∈ wideCases, ∀ n ∈ e.2, Char.ofNat n ≠ '-' := by decide +kernel

theorem shifted_ne_hyphen {c : Char} (h : c ≠ '-') : (shifted? upperShifts c).getD c ≠ '-' := by
  cases hs : shifted? upperShifts c with
  | none => exact h
  | some d =>
      obtain ⟨r, hr, rfl⟩ := Option.map_eq_some_iff.1 hs
      have hshift := hyphen_lt_shift r (List.mem_of_find?_eq_some hr)
      have hcovers := List.find?_some hr
      simp only [Shift.covers, Bool.and_eq_true, decide_eq_true_eq] at hcovers
      have hbeyond : '-'.toNat < (c.toNat + r.places).toNat := by omega
      intro heq
      have hcode := congrArg Char.toNat heq
      rw [Option.getD_some, Char.toNat_ofNat] at hcode
      split at hcode
      · exact absurd hcode (Nat.ne_of_gt hbeyond)
      · exact absurd hcode (by decide)

/-- Only the hyphen itself has a hyphen in its upper-case form. -/
theorem hyphen_not_mem_upperForm {c : Char} (h : c ≠ '-') : '-' ∉ upperForm c := by
  intro hmem
  unfold upperForm at hmem
  split at hmem
  · rw [List.mem_singleton] at hmem
    have hlower : ¬ c.isLower = true := by
      intro hlower
      have halpha := Char.isAlpha_toUpper_eq_isAlpha c
      rw [← hmem, Char.isAlpha, Char.isAlpha, hlower, Bool.or_true] at halpha
      exact absurd halpha (by decide)
    rw [Char.toUpper_eq_of_not_isLower hlower] at hmem
    exact h hmem.symm
  · split at hmem
    · next ns hns =>
      obtain ⟨n, hn, heq⟩ := List.mem_map.1 hmem
      obtain ⟨front, back, htable, -⟩ := List.lookup_eq_some_iff.1 hns
      refine wideCases_ne_hyphen (c.toNat, ns) ?_ n hn heq
      exact htable ▸ List.mem_append_right front List.mem_cons_self
    · rw [List.mem_singleton] at hmem
      exact shifted_ne_hyphen h hmem.symm

theorem hyphen_not_mem_capitalize {w : List Char} (h : '-' ∉ w) : '-' ∉ capitalize w := by
  cases w with
  | nil => exact h
  | cons c w =>
      rw [List.mem_cons, not_or] at h
      rw [capitalize_cons, List.mem_append, not_or]
      exact ⟨hyphen_not_mem_upperForm (Ne.symm h.1), h.2⟩

theorem not_mem_of_mem_splitOn {c : Char} {s w : List Char} (h : w ∈ s.splitOn c) : c ∉ w := by
  induction s generalizing w with
  | nil =>
      rw [List.splitOn_nil, List.mem_singleton] at h
      exact h ▸ List.not_mem_nil
  | cons d s ih =>
      rw [List.splitOn_cons_eq_if_modifyHead] at h
      split at h
      · rcases List.mem_cons.1 h with rfl | hw
        · exact List.not_mem_nil
        · exact ih hw
      · next hd =>
        cases hs : s.splitOn c with
        | nil => exact absurd hs (List.splitOn_ne_nil c s)
        | cons v vs =>
            rw [hs, List.modifyHead_cons, List.mem_cons] at h
            rcases h with rfl | hw
            · rw [List.mem_cons, not_or]
              exact ⟨fun hc => hd (beq_iff_eq.2 hc.symm), ih (hs ▸ List.mem_cons_self)⟩
            · exact ih (hs ▸ List.mem_cons_of_mem v hw)

/-- The words of a tag have no hyphens and no capital letters, and none is empty. -/
theorem of_mem_tagSegments {tag : String} {w : List Char} (h : w ∈ tagSegments tag) :
    w ≠ [] ∧ '-' ∉ w ∧ ∀ c ∈ w, c.isUpper = false := by
  rw [tagSegments, splitAt_eq_splitOn] at h
  obtain ⟨v, hv, rfl⟩ := List.mem_map.1 h
  obtain ⟨hmem, hne⟩ := List.mem_filter.1 hv
  refine ⟨?_, ?_, ?_⟩
  · exact mt List.map_eq_nil_iff.1 (of_decide_eq_true hne)
  · intro hhyphen
    obtain ⟨c, hc, hlower⟩ := List.mem_map.1 hhyphen
    rw [(toLower_eq_iff (by decide)).1 hlower] at hc
    exact not_mem_of_mem_splitOn hmem hc
  · intro c hc
    obtain ⟨d, -, rfl⟩ := List.mem_map.1 hc
    exact Char.isUpper_toLower_eq_false d

theorem hyphen_not_mem_memberName (tag : String) : '-' ∉ (memberName tag).toList := by
  cases h : tagSegments tag with
  | nil => rw [memberName, h]; exact List.not_mem_nil
  | cons w ws =>
      have hwords : ∀ v ∈ w :: ws, '-' ∉ v := by
        rw [← h]
        exact fun v hv => (of_mem_tagSegments hv).2.1
      rw [toList_memberName tag h, List.mem_append, not_or, List.mem_flatMap]
      refine ⟨hwords w List.mem_cons_self, ?_⟩
      rintro ⟨v, hv, hmem⟩
      exact hyphen_not_mem_capitalize (hwords v (List.mem_cons_of_mem w hv)) hmem

theorem head?_memberName (tag : String) :
    ∀ c ∈ (memberName tag).toList.head?, c.isUpper = false := by
  cases h : tagSegments tag with
  | nil =>
      rw [memberName, h]
      intro c hc
      cases hc
  | cons w ws =>
      have hmem : w ∈ tagSegments tag := h ▸ List.mem_cons_self
      obtain ⟨hne, -, hupper⟩ := of_mem_tagSegments hmem
      obtain ⟨d, r, rfl⟩ := List.exists_cons_of_ne_nil hne
      rw [toList_memberName tag h, List.cons_append, List.head?_cons]
      intro c hc
      cases hc
      exact hupper _ List.mem_cons_self

/-- The words that the capital letters of a text begin, with what is in front of the first. -/
theorem exists_hyphenated_words {s : List Char} (hs : '-' ∉ s) :
    ∃ w ws, s.flatMap hyphenate = ['-'].intercalate (w :: ws) ∧
      (∀ v ∈ w :: ws, ∀ c ∈ v, c ≠ '-' ∧ c.isUpper = false) ∧ (∀ v ∈ ws, BeginsLower v) ∧
      (w = [] → ∀ c ∈ s.head?, c.isUpper = true) := by
  induction s with
  | nil => exact ⟨[], [], by simp, by simp, by simp, by simp⟩
  | cons c s ih =>
      rw [List.mem_cons, not_or] at hs
      obtain ⟨w, ws, hcut, hplain, hlower, -⟩ := ih hs.2
      rw [List.forall_mem_cons] at hplain
      by_cases hc : c.isUpper = true
      · have hletter : c.toLower.isLower = true := by
          rw [Char.isLower_toLower_eq_isAlpha, Char.isAlpha, hc, Bool.true_or]
        refine ⟨[], (c.toLower :: w) :: ws, ?_, ?_, ?_, ?_⟩
        · rw [List.flatMap_cons, hcut, hyphenate, if_pos hc, intercalate_hyphen_cons,
            intercalate_hyphen_cons]
          simp
        · rw [List.forall_mem_cons, List.forall_mem_cons, List.forall_mem_cons]
          refine ⟨nofun, ⟨⟨?_, Char.isUpper_toLower_eq_false c⟩, hplain.1⟩, hplain.2⟩
          intro heq
          exact absurd (heq ▸ hletter) (by decide)
        · exact List.forall_mem_cons.2 ⟨⟨_, rfl, hletter⟩, hlower⟩
        · rintro - d hd
          cases hd
          exact hc
      · rw [Bool.not_eq_true] at hc
        refine ⟨c :: w, ws, ?_, ?_, hlower, nofun⟩
        · rw [List.flatMap_cons, hcut, hyphenate_of_isUpper_eq_false hc, intercalate_hyphen_cons,
            intercalate_hyphen_cons]
          rfl
        · rw [List.forall_mem_cons, List.forall_mem_cons]
          exact ⟨⟨⟨Ne.symm hs.1, hc⟩, hplain.1⟩, hplain.2⟩

/-- A name without hyphens that begins with no capital letter names a well-spelled tag. -/
theorem wellSpelled_hyphenated {name : String} (hname : '-' ∉ name.toList)
    (hhead : ∀ c ∈ name.toList.head?, c.isUpper = false) : WellSpelled (hyphenated name) := by
  rw [WellSpelled, hyphenated, String.toList_ofList]
  by_cases hnil : name.toList = []
  · rw [hnil]
    exact ⟨[], ⟨nofun, nofun, nofun⟩, rfl⟩
  · obtain ⟨w, ws, hcut, hplain, hlower, hfirst⟩ := exists_hyphenated_words hname
    obtain ⟨c, s, hs⟩ := List.exists_cons_of_ne_nil hnil
    have hc : c ∈ name.toList.head? := by rw [hs]; rfl
    have hw : w ≠ [] := fun hw => Bool.noConfusion ((hhead c hc).symm.trans (hfirst hw c hc))
    refine ⟨w :: ws, ⟨List.forall_mem_cons.2 ⟨hw, fun v hv => ?_⟩, hplain, hlower⟩, hcut⟩
    obtain ⟨d, hd, -⟩ := hlower v hv
    rintro rfl
    exact nomatch hd

end spelling

theorem toList_className (tag : String) :
    (className tag).toList = capitalize (memberName tag).toList := by
  rw [className, String.toList_ofList]
  cases h : tagSegments tag with
  | nil => rw [memberName, h]; rfl
  | cons w ws =>
      have hmem : w ∈ tagSegments tag := h ▸ List.mem_cons_self
      obtain ⟨c, r, rfl⟩ := List.exists_cons_of_ne_nil (of_mem_tagSegments hmem).1
      rw [toList_memberName tag h, List.flatMap_cons, List.cons_append, capitalize_cons,
        capitalize_cons, List.append_assoc]

/-- A tag is read back from the name of its member exactly if it is well spelled, so that no two
well-spelled tags have one name. The class of any tag is named as the member, with the first
character in upper case. -/
theorem memberName_readable :
    (∀ tag, hyphenated (memberName tag) = tag ↔ WellSpelled tag) ∧
      Set.InjOn memberName {tag | WellSpelled tag} ∧
      ∀ tag, (className tag).toList = capitalize (memberName tag).toList := by
  refine ⟨fun tag => ⟨fun h => ?_, WellSpelled.hyphenated_memberName⟩, ?_, toList_className⟩
  · exact h ▸ wellSpelled_hyphenated (hyphen_not_mem_memberName tag) (head?_memberName tag)
  · have hread : Set.LeftInvOn hyphenated memberName {tag | WellSpelled tag} :=
      fun tag h => WellSpelled.hyphenated_memberName h
    exact hread.injOn

/-- The words `1größe`, `ab` and `n2` are read back; with two hyphens between the first two, the
member is the same and the tag is not. A first character may become two. -/
theorem memberName_readable_beyondAscii :
    WellSpelled "1größe-ab-n2" ∧ memberName "1größe-ab-n2" = "1größeAbN2" ∧
      (∀ tag, WellSpelled tag → memberName tag = "1größeAbN2" → tag = "1größe-ab-n2") ∧
      memberName "1größe--ab-n2" = "1größeAbN2" ∧ ¬ WellSpelled "1größe--ab-n2" ∧
      memberName "ß-ab" = "ßAb" ∧ className "ß-ab" = "SSAb" := by
  obtain ⟨hread, hinj, hclass⟩ := memberName_readable
  have hspelled : WellSpelled "1größe-ab-n2" :=
    ⟨[['1', 'g', 'r', 'ö', 'ß', 'e'], ['a', 'b'], ['n', '2']],
      ⟨by simp, by simp, by simp [BeginsLower]⟩, by decide⟩
  have hname : memberName "1größe-ab-n2" = "1größeAbN2" := by decide +kernel
  have hname' : memberName "1größe--ab-n2" = "1größeAbN2" := by decide +kernel
  refine ⟨hspelled, hname, fun tag htag heq => hinj htag hspelled (heq.trans hname.symm), hname',
    ?_, by decide +kernel, by decide +kernel⟩
  rw [← hread, hname', ← hname, (hread _).2 hspelled]
  decide

end Componentry
