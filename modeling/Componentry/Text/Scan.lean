/-!
# Looking into a text

Texts are read as lists of characters. `after?` takes an expected beginning off, `breakOn?` parts a
text at the first place where a given word stands, and `words` parts it at blanks. The laws say
that the parts put together give the text back.
-/

namespace Componentry.Text

def after? : List Char → List Char → Option (List Char)
  | [], s => some s
  | _ :: _, [] => none
  | p :: ps, c :: cs => if p = c then after? ps cs else none

@[simp] theorem after?_nil (s : List Char) : after? [] s = some s := by
  cases s <;> rfl

@[simp] theorem after?_cons_nil (p : Char) (ps : List Char) : after? (p :: ps) [] = none := rfl

theorem after?_cons_cons (p : Char) (ps : List Char) (c : Char) (cs : List Char) :
    after? (p :: ps) (c :: cs) = if p = c then after? ps cs else none := rfl

theorem after?_eq_some_iff {p s r : List Char} : after? p s = some r ↔ s = p ++ r := by
  induction p generalizing s with
  | nil => simp [eq_comm]
  | cons p ps ih =>
    cases s with
    | nil => simp
    | cons c cs =>
      rw [after?_cons_cons]
      by_cases h : p = c
      · simp [h, ih]
      · simp [h, Ne.symm h]

/-- As `after?`, for a word in lower case and a text whose ASCII letters may have either case. -/
def afterFolded? : List Char → List Char → Option (List Char)
  | [], s => some s
  | _ :: _, [] => none
  | p :: ps, c :: cs => if p = c.toLower then afterFolded? ps cs else none

@[simp] theorem afterFolded?_nil (s : List Char) : afterFolded? [] s = some s := by
  cases s <;> rfl

theorem length_afterFolded? {p s r : List Char} (h : afterFolded? p s = some r) :
    p.length + r.length = s.length := by
  induction p generalizing s with
  | nil => simp at h; simp [h]
  | cons p ps ih =>
    cases s with
    | nil => simp [afterFolded?] at h
    | cons c cs =>
      simp only [afterFolded?] at h
      split at h
      · have := ih h
        simp only [List.length_cons]
        omega
      · simp at h

def breakOn? (p : List Char) : List Char → Option (List Char × List Char)
  | [] => (after? p []).map ([], ·)
  | c :: cs =>
    match after? p (c :: cs) with
    | some r => some ([], r)
    | none => (breakOn? p cs).map fun parts => (c :: parts.1, parts.2)

theorem eq_append_of_breakOn? {p s a r : List Char} (h : breakOn? p s = some (a, r)) :
    s = a ++ p ++ r := by
  induction s generalizing a with
  | nil =>
    simp only [breakOn?, Option.map_eq_some_iff, Prod.mk.injEq] at h
    obtain ⟨_, h, rfl, rfl⟩ := h
    simpa using after?_eq_some_iff.1 h
  | cons c cs ih =>
    simp only [breakOn?] at h
    split at h
    · next r' h' =>
      simp only [Option.some.injEq, Prod.mk.injEq] at h
      obtain ⟨rfl, rfl⟩ := h
      simpa using after?_eq_some_iff.1 h'
    · simp only [Option.map_eq_some_iff, Prod.mk.injEq, Prod.exists] at h
      obtain ⟨a', r', h, rfl, rfl⟩ := h
      simp [ih h]

/-- The text before the first place where the word `p` stands, letters in either case, and the
text from that place on; the whole text and nothing when the word does not stand in it. -/
def breakBeforeFolded (p : List Char) : List Char → List Char × List Char
  | [] => ([], [])
  | c :: cs =>
    match afterFolded? p (c :: cs) with
    | some _ => ([], c :: cs)
    | none => ((c :: (breakBeforeFolded p cs).1), (breakBeforeFolded p cs).2)

theorem breakBeforeFolded_append (p s : List Char) :
    (breakBeforeFolded p s).1 ++ (breakBeforeFolded p s).2 = s := by
  induction s with
  | nil => rfl
  | cons c cs ih =>
    simp only [breakBeforeFolded]
    split
    · rfl
    · simp [ih]

def splitAt (c : Char) : List Char → List (List Char)
  | [] => [[]]
  | d :: ds =>
    if d = c then [] :: splitAt c ds
    else match splitAt c ds with
      | [] => [[d]]
      | w :: ws => (d :: w) :: ws

def wordsBy (isSeparator : Char → Bool) : List Char → List (List Char)
  | [] => []
  | c :: cs =>
    if isSeparator c then wordsBy isSeparator cs
    else match cs with
      | [] => [[c]]
      | d :: _ =>
        if isSeparator d then [c] :: wordsBy isSeparator cs
        else match wordsBy isSeparator cs with
          | [] => [[c]]
          | w :: ws => (c :: w) :: ws

@[simp] theorem wordsBy_nil (p : Char → Bool) : wordsBy p [] = [] := rfl

theorem wordsBy_cons_separator {p : Char → Bool} {c : Char} (cs : List Char) (h : p c = true) :
    wordsBy p (c :: cs) = wordsBy p cs := by
  simp [wordsBy, h]

theorem length_dropWhile_le (p : Char → Bool) (s : List Char) :
    (s.dropWhile p).length ≤ s.length :=
  (List.dropWhile_sublist p).length_le

end Componentry.Text
