import Componentry.Text.Blank
import Componentry.Text.Scan

/-!
# The words of a text

The words of a text are what is left of it without the separators, cut where these stood
(`flatten_wordsBy`, `wordsBy_append`). `joined` puts words together with single blanks. For a text
that begins and ends in a word that only makes each run of separators one blank, which
`joined_wordsBy_append` says of the first of them.
-/

namespace Componentry.Text

variable {p : Char → Bool} {s w : List Char}

def AtWordEnd (p : Char → Bool) (s : List Char) : Prop := ∀ c ∈ s.head?, p c = true

theorem AtWordEnd.nil : AtWordEnd p [] := by simp [AtWordEnd]

theorem AtWordEnd.cons {c : Char} (h : p c = true) (s : List Char) : AtWordEnd p (c :: s) := by
  simpa [AtWordEnd] using h

/-- A text begins with what is left of a word. -/
theorem exists_word_append (s : List Char) :
    ∃ w r, s = w ++ r ∧ (∀ c ∈ w, p c = false) ∧ AtWordEnd p r := by
  refine ⟨s.takeWhile (!p ·), s.dropWhile (!p ·), List.takeWhile_append_dropWhile.symm, ?_, ?_⟩
  · intro c hc
    simpa using List.all_eq_true.1 List.all_takeWhile c hc
  · intro c hc
    have hhead := List.head?_dropWhile_not (!p ·) s
    rw [Option.mem_def.1 hc] at hhead
    simpa using hhead

theorem exists_wordsBy_cons {c : Char} (h : p c = false) (s : List Char) :
    ∃ w ws, wordsBy p (c :: s) = (c :: w) :: ws := by
  unfold wordsBy
  rw [h]
  split
  · next hc => exact absurd hc Bool.false_ne_true
  · split
    · exact ⟨[], [], rfl⟩
    · split
      · exact ⟨[], _, rfl⟩
      · split
        · exact ⟨[], [], rfl⟩
        · exact ⟨_, _, rfl⟩

/-- The first of two characters that are no separators goes to the word of the other. -/
theorem wordsBy_cons_cons {c d : Char} (hc : p c = false) (hd : p d = false) (s : List Char) :
    wordsBy p (c :: d :: s) = (wordsBy p (d :: s)).modifyHead (c :: ·) := by
  obtain ⟨w, ws, hws⟩ := exists_wordsBy_cons hd s
  rw [wordsBy, hc, hws]
  simp [hd]

theorem wordsBy_cons_of_atWordEnd {c : Char} (hc : p c = false) (hs : AtWordEnd p s) :
    wordsBy p (c :: s) = [c] :: wordsBy p s := by
  cases s with
  | nil => simp [wordsBy, hc]
  | cons d s =>
      have hd : p d = true := hs d rfl
      rw [wordsBy, hc]
      simp [hd]

theorem wordsBy_append_separators (h : ∀ c ∈ w, p c = true) (s : List Char) :
    wordsBy p (w ++ s) = wordsBy p s := by
  induction w with
  | nil => rfl
  | cons c w ih =>
      rw [List.cons_append, wordsBy_cons_separator _ (h c List.mem_cons_self),
        ih fun d hd => h d (List.mem_cons_of_mem c hd)]

theorem wordsBy_dropWhile (p : Char → Bool) (s : List Char) :
    wordsBy p (s.dropWhile p) = wordsBy p s := by
  have happend := wordsBy_append_separators (w := s.takeWhile p)
    (fun c hc => List.all_eq_true.1 List.all_takeWhile c hc) (s.dropWhile p)
  rw [List.takeWhile_append_dropWhile] at happend
  exact happend.symm

/-- A word that ends is the first of the words. -/
theorem wordsBy_append (hne : w ≠ []) (hw : ∀ c ∈ w, p c = false) (hs : AtWordEnd p s) :
    wordsBy p (w ++ s) = w :: wordsBy p s := by
  induction w with
  | nil => exact absurd rfl hne
  | cons c w ih =>
      have hc := hw c List.mem_cons_self
      have hrest : ∀ d ∈ w, p d = false := fun d hd => hw d (List.mem_cons_of_mem c hd)
      cases w with
      | nil => exact wordsBy_cons_of_atWordEnd hc hs
      | cons d w =>
          rw [List.cons_append, List.cons_append,
            wordsBy_cons_cons hc (hrest d List.mem_cons_self), ← List.cons_append,
            ih (List.cons_ne_nil d w) hrest]
          rfl

/-- The words put together are the text without its separators. -/
theorem flatten_wordsBy (p : Char → Bool) (s : List Char) :
    (wordsBy p s).flatten = s.filter fun c => !p c := by
  induction s with
  | nil => rfl
  | cons c s ih =>
      by_cases hc : p c = true
      · rw [wordsBy_cons_separator s hc, ih, List.filter_cons_of_neg (by simp [hc])]
      · rw [Bool.not_eq_true] at hc
        rw [List.filter_cons_of_pos (by simp [hc]), ← ih]
        cases s with
        | nil => rw [wordsBy_cons_of_atWordEnd hc AtWordEnd.nil]; rfl
        | cons d s =>
            by_cases hd : p d = true
            · rw [wordsBy_cons_of_atWordEnd hc (AtWordEnd.cons hd s)]
              rfl
            · rw [Bool.not_eq_true] at hd
              obtain ⟨w, ws, hws⟩ := exists_wordsBy_cons hd s
              rw [wordsBy_cons_cons hc hd, hws]
              rfl

theorem ne_nil_of_mem_wordsBy (h : w ∈ wordsBy p s) : w ≠ [] := by
  induction s generalizing w with
  | nil => exact absurd h List.not_mem_nil
  | cons c s ih =>
      by_cases hc : p c = true
      · rw [wordsBy_cons_separator s hc] at h
        exact ih h
      · rw [Bool.not_eq_true] at hc
        cases s with
        | nil =>
            rw [wordsBy_cons_of_atWordEnd hc AtWordEnd.nil, wordsBy_nil, List.mem_singleton] at h
            exact h ▸ List.cons_ne_nil c []
        | cons d s =>
            by_cases hd : p d = true
            · rw [wordsBy_cons_of_atWordEnd hc (AtWordEnd.cons hd s),
                List.mem_cons] at h
              rcases h with rfl | h
              · exact List.cons_ne_nil c []
              · exact ih h
            · rw [Bool.not_eq_true] at hd
              obtain ⟨v, ws, hws⟩ := exists_wordsBy_cons hd s
              rw [wordsBy_cons_cons hc hd, hws, List.modifyHead_cons, List.mem_cons] at h
              rcases h with rfl | h
              · exact List.cons_ne_nil c _
              · exact ih (hws ▸ List.mem_cons_of_mem _ h)

/-- The last word of a text ends as the text does. -/
theorem exists_wordsBy_concat {c : Char} (h : p c = false) (s : List Char) :
    ∃ ws w, wordsBy p (s ++ [c]) = ws ++ [w ++ [c]] ∧ ws.flatten ++ w = s.filter fun d => !p d := by
  have hflat := flatten_wordsBy p (s ++ [c])
  rw [List.filter_append, List.filter_cons_of_pos (by simp [h]), List.filter_nil] at hflat
  rcases List.eq_nil_or_concat (wordsBy p (s ++ [c])) with hnil | ⟨ws, v, hws⟩
  · rw [hnil] at hflat
    simp at hflat
  · rcases List.eq_nil_or_concat v with rfl | ⟨w, d, rfl⟩
    · exact absurd rfl (ne_nil_of_mem_wordsBy (p := p) (s := s ++ [c]) (w := []) (by simp [hws]))
    · rw [List.concat_eq_append, List.concat_eq_append] at hws
      rw [hws, List.flatten_append, List.flatten_singleton, ← List.append_assoc] at hflat
      obtain ⟨hrest, hlast⟩ := List.append_inj' hflat rfl
      cases hlast
      exact ⟨ws, w, hws, hrest⟩

def joined (ws : List (List Char)) : List Char := [' '].intercalate ws

@[simp] theorem joined_singleton (w : List Char) : joined [w] = w := by simp [joined]

theorem joined_cons_cons (w v : List Char) (ws : List (List Char)) :
    joined (w :: v :: ws) = w ++ ' ' :: joined (v :: ws) := by
  simp [joined, List.intercalate_cons_cons]

theorem joined_cons (c : Char) (w : List Char) (ws : List (List Char)) :
    joined ((c :: w) :: ws) = c :: joined (w :: ws) := by
  cases ws with
  | nil => simp
  | cons v ws => rw [joined_cons_cons, joined_cons_cons]; rfl

def oneBlank (gap : List Char) : List Char := if gap = [] then [] else [' ']

/-- A character in front of a word goes to the word. -/
theorem joined_wordsBy_cons {c d : Char} (hc : p c = false) (hd : p d = false) (s : List Char) :
    joined (wordsBy p (c :: d :: s)) = c :: joined (wordsBy p (d :: s)) := by
  obtain ⟨v, vs, hv⟩ := exists_wordsBy_cons hd s
  rw [wordsBy_cons_cons hc hd, hv, List.modifyHead_cons, joined_cons]

/-- The words of a text in front of its first run of separators, and those behind. -/
theorem joined_wordsBy_append {gap : List Char} (hne : w ≠ []) (hw : ∀ c ∈ w, p c = false)
    (hgap : ∀ c ∈ gap, p c = true) {c : Char} (hc : p c = false) (s : List Char) :
    joined (wordsBy p (w ++ (gap ++ c :: s))) =
      w ++ (oneBlank gap ++ joined (wordsBy p (c :: s))) := by
  by_cases hnil : gap = []
  · rw [hnil, List.nil_append, oneBlank, if_pos rfl, List.nil_append]
    induction w with
    | nil => exact absurd rfl hne
    | cons d w ih =>
        have hd := hw d List.mem_cons_self
        cases w with
        | nil => exact joined_wordsBy_cons hd hc s
        | cons e w =>
            have hrest : ∀ f ∈ e :: w, p f = false := fun f hf => hw f (List.mem_cons_of_mem d hf)
            have hjoined := ih (List.cons_ne_nil e w) hrest
            rw [List.cons_append] at hjoined
            rw [List.cons_append, List.cons_append,
              joined_wordsBy_cons hd (hrest e List.mem_cons_self), hjoined]
            rfl
  · obtain ⟨v, vs, hv⟩ := exists_wordsBy_cons hc s
    have hend : AtWordEnd p (gap ++ c :: s) := by
      obtain ⟨g, gs, rfl⟩ := List.exists_cons_of_ne_nil hnil
      exact AtWordEnd.cons (hgap g List.mem_cons_self) _
    rw [wordsBy_append hne hw hend, wordsBy_append_separators hgap, hv, joined_cons_cons, oneBlank,
      if_neg hnil]
    rfl

end Componentry.Text
