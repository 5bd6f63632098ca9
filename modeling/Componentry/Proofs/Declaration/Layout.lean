import Mathlib.Data.List.TakeWhile
import Componentry.Declaration.Parameters
import Componentry.Proofs.Text.Blank
import Componentry.Proofs.Text.Words

/-!
# Parameter lists with any white space

`listText` writes a parameter list with any gaps between its parts. However wide the gaps are, it is
read as the names in it (`openParameters_listText`), and its words joined by single blanks are
`listText` with other gaps (`joined_listText`).

In the other direction, what is read from a text is not longer than the text: every name that is
read, and a parenthesis or a comma for each, stands there (`cost_lt_of_openParameters`). A list that
has lost a word can therefore not be read as the same names.
-/

namespace Componentry

open Text

/-- A letter, an underscore or a dollar sign, and then these and digits. -/
def isIdentifier : List Char → Bool
  | [] => false
  | c :: cs => beginsParameter c && cs.all continuesParameter

structure Listed where
  before : List Char
  name : List Char
  after : List Char
  deriving DecidableEq, Repr

namespace Listed

def isPlain (l : Listed) : Bool := l.before.all isGap && isIdentifier l.name && l.after.all isGap

/-- The same parameter with gaps of at most one blank. -/
def narrow (l : Listed) : Listed := ⟨oneBlank l.before, l.name, oneBlank l.after⟩

theorem isPlain_iff {l : Listed} : l.isPlain = true ↔
    (∀ c ∈ l.before, isGap c = true) ∧ isIdentifier l.name = true ∧
      ∀ c ∈ l.after, isGap c = true := by
  simp [isPlain, and_assoc]

end Listed

def itemsText (l : Listed) : List Listed → List Char
  | [] => l.before ++ (l.name ++ (l.after ++ [')']))
  | m :: ms => l.before ++ (l.name ++ (l.after ++ ',' :: itemsText m ms))

/-- A parameter list; `gap` is what an empty one holds. -/
def listText (gap : List Char) : List Listed → List Char
  | [] => '(' :: (gap ++ [')'])
  | l :: ls => '(' :: itemsText l ls

def namesOf (ls : List Listed) : List String := ls.map fun l => String.ofList l.name

section identifiers

variable {name : List Char}

theorem exists_cons_of_isIdentifier (h : isIdentifier name = true) :
    ∃ c cs, name = c :: cs ∧ beginsParameter c = true ∧
      ∀ d ∈ cs, continuesParameter d = true := by
  cases name with
  | nil => exact absurd h Bool.false_ne_true
  | cons c cs =>
      rw [isIdentifier, Bool.and_eq_true, List.all_eq_true] at h
      exact ⟨c, cs, rfl, h⟩

theorem continuesParameter_of_mem (h : isIdentifier name = true) {c : Char} (hc : c ∈ name) :
    continuesParameter c = true := by
  obtain ⟨d, cs, rfl, hd, hcs⟩ := exists_cons_of_isIdentifier h
  rcases List.mem_cons.1 hc with rfl | hc
  · simp only [beginsParameter, continuesParameter, Char.isAlphanum, Bool.or_eq_true] at hd ⊢
    exact hd.imp_left (Or.imp_left Or.inl)
  · exact hcs c hc

theorem isBlank_eq_false_of_continuesParameter {c : Char} (h : continuesParameter c = true) :
    isBlank c = false := by
  simp only [continuesParameter, Bool.or_eq_true, beq_iff_eq] at h
  rcases h with (h | rfl) | rfl
  · exact isBlank_eq_false_of_isAlphanum h
  · decide
  · decide

/-- No character of a parameter has a meaning in a list. -/
theorem ne_of_continuesParameter {c : Char} (h : continuesParameter c = true) :
    c ≠ '(' ∧ c ≠ ',' ∧ c ≠ ')' := by
  refine ⟨?_, ?_, ?_⟩ <;> rintro rfl <;> exact absurd h (by decide)

theorem parameterOf_append (h : isIdentifier name = true) {after : List Char}
    (hafter : ∀ c ∈ after, isBlank c = true) :
    parameterOf (name ++ after) = .ok (String.ofList name) := by
  obtain ⟨c, cs, rfl, hc, hcs⟩ := exists_cons_of_isIdentifier h
  have hblank : ∀ d ∈ c :: cs, isBlank d = false := fun d hd =>
    isBlank_eq_false_of_continuesParameter (continuesParameter_of_mem h hd)
  have hscan : scanParameter? (c :: cs) = some (c :: cs, []) := by
    rw [scanParameter?, if_pos hc, List.takeWhile_eq_self_iff.2 hcs,
      List.dropWhile_eq_nil_iff.2 hcs]
  rw [parameterOf, trimEnd_append hblank hafter, hscan]

end identifiers

section reading

variable {read : List String} {current s : List Char}

/-- Blanks before a parameter are dropped. -/
theorem parametersFrom_before {before : List Char} (h : ∀ c ∈ before, isAsciiBlank c = true) :
    parametersFrom read [] (before ++ s) = parametersFrom read [] s := by
  induction before with
  | nil => rfl
  | cons c before ih =>
      have hc := h c List.mem_cons_self
      have hne : ∀ d ∈ ['(', ',', ')'], c ≠ d := by
        rintro d hd rfl
        simp only [List.mem_cons, List.not_mem_nil, or_false] at hd
        rcases hd with rfl | rfl | rfl <;> exact absurd hc (by decide)
      rw [List.cons_append, parametersFrom, if_neg (hne '(' (by simp)),
        if_neg (hne ',' (by simp)), if_neg (hne ')' (by simp)), if_pos (by simp [hc])]
      exact ih fun d hd => h d (List.mem_cons_of_mem c hd)

/-- Other characters go to the parameter, and so do blanks after it has begun. -/
theorem parametersFrom_append {cs : List Char} (hcurrent : current ≠ [])
    (h : ∀ c ∈ cs, c ≠ '(' ∧ c ≠ ',' ∧ c ≠ ')') :
    parametersFrom read current (cs ++ s) = parametersFrom read (current ++ cs) s := by
  induction cs generalizing current with
  | nil => rw [List.nil_append, List.append_nil]
  | cons c cs ih =>
      obtain ⟨hopen, hcomma, hclose⟩ := h c List.mem_cons_self
      rw [List.cons_append, parametersFrom, if_neg hopen, if_neg hcomma, if_neg hclose,
        if_neg (by simp [hcurrent]), ih (by simp) fun d hd => h d (List.mem_cons_of_mem c hd),
        List.append_assoc, List.singleton_append]

/-- A parameter is under way when its name and the gaps around it have been read. -/
theorem parametersFrom_listed {l : Listed} (h : l.isPlain = true) (read : List String)
    (s : List Char) :
    parametersFrom read [] (l.before ++ (l.name ++ (l.after ++ s))) =
      parametersFrom read (l.name ++ l.after) s := by
  obtain ⟨hbefore, hname, hafter⟩ := Listed.isPlain_iff.1 h
  obtain ⟨c, cs, hcons, -⟩ := exists_cons_of_isIdentifier hname
  have hc := continuesParameter_of_mem hname (hcons ▸ List.mem_cons_self)
  have hplain : ∀ d ∈ cs ++ l.after, d ≠ '(' ∧ d ≠ ',' ∧ d ≠ ')' := by
    intro d hd
    rcases List.mem_append.1 hd with hd | hd
    · exact ne_of_continuesParameter
        (continuesParameter_of_mem hname (hcons ▸ List.mem_cons_of_mem c hd))
    · refine ⟨?_, ?_, ?_⟩ <;> rintro rfl <;> exact absurd (hafter _ hd) (by decide)
  obtain ⟨hopen, hcomma, hclose⟩ := ne_of_continuesParameter hc
  have hsolid : (isAsciiBlank c && ([] : List Char).isEmpty) = false := by
    simp [isAsciiBlank_eq_false (isBlank_eq_false_of_continuesParameter hc)]
  rw [parametersFrom_before fun d hd => isAsciiBlank_of_isGap (hbefore d hd), hcons,
    List.cons_append, parametersFrom, if_neg hopen, if_neg hcomma, if_neg hclose, hsolid,
    if_neg Bool.false_ne_true, List.nil_append, ← List.append_assoc,
    parametersFrom_append (List.cons_ne_nil c []) hplain]
  rfl

theorem parameterOf_listed {l : Listed} (h : l.isPlain = true) :
    parameterOf (l.name ++ l.after) = .ok (String.ofList l.name) := by
  obtain ⟨-, hname, hafter⟩ := Listed.isPlain_iff.1 h
  exact parameterOf_append hname fun c hc => isBlank_of_isAsciiBlank
    (isAsciiBlank_of_isGap (hafter c hc))

theorem append_ne_nil_of_isPlain {l : Listed} (h : l.isPlain = true) : l.name ++ l.after ≠ [] := by
  obtain ⟨c, cs, hcons, -⟩ := exists_cons_of_isIdentifier (Listed.isPlain_iff.1 h).2.1
  rw [hcons]
  exact List.cons_ne_nil c _

/-- The parameters of a list are read in order. -/
theorem parametersFrom_itemsText {l : Listed} {ls : List Listed}
    (h : ∀ m ∈ l :: ls, m.isPlain = true) (read : List String) :
    parametersFrom read [] (itemsText l ls) = .ok (read ++ namesOf (l :: ls)) := by
  induction ls generalizing l read with
  | nil =>
      have hl := h l List.mem_cons_self
      rw [itemsText, parametersFrom_listed hl, parametersFrom, if_neg (by decide),
        if_neg (by decide), if_pos rfl, closeParameters, if_neg (append_ne_nil_of_isPlain hl),
        parameterOf_listed hl]
      rfl
  | cons m ms ih =>
      have hl := h l List.mem_cons_self
      rw [itemsText, parametersFrom_listed hl, parametersFrom, if_neg (by decide), if_pos rfl,
        if_neg (append_ne_nil_of_isPlain hl), parameterOf_listed hl]
      simp only
      rw [ih fun k hk => h k (List.mem_cons_of_mem l hk)]
      simp [namesOf]

/-- A list is read as the names in it. -/
theorem openParameters_listText {gap : List Char} (hgap : ∀ c ∈ gap, isGap c = true)
    {ls : List Listed} (h : ∀ l ∈ ls, l.isPlain = true) :
    openParameters (listText gap ls) = .ok (namesOf ls) := by
  cases ls with
  | nil =>
      rw [listText, openParameters, if_pos rfl,
        parametersFrom_before fun c hc => isAsciiBlank_of_isGap (hgap c hc)]
      rfl
  | cons l ls =>
      rw [listText, openParameters, if_pos rfl, parametersFrom_itemsText h, List.nil_append]

end reading

section joining

theorem isGap_of_mem_oneBlank {gap : List Char} {c : Char} (h : c ∈ oneBlank gap) :
    isGap c = true := by
  unfold oneBlank at h
  split at h
  · exact absurd h List.not_mem_nil
  · rw [List.mem_singleton.1 h]
    decide

theorem Listed.isPlain_narrow {l : Listed} (h : l.isPlain = true) : l.narrow.isPlain = true := by
  obtain ⟨-, hname, -⟩ := isPlain_iff.1 h
  exact isPlain_iff.2 ⟨fun _ => isGap_of_mem_oneBlank, hname, fun _ => isGap_of_mem_oneBlank⟩

theorem isGap_eq_false_of_mem {name : List Char} (h : isIdentifier name = true) {c : Char}
    (hc : c ∈ name) : isGap c = false := by
  have hblank := isBlank_eq_false_of_continuesParameter (continuesParameter_of_mem h hc)
  rw [← Bool.not_eq_true] at hblank ⊢
  exact mt (fun hgap => isBlank_of_isAsciiBlank (isAsciiBlank_of_isGap hgap)) hblank

/-- The gaps around a parameter become narrow. -/
theorem joined_listed {l : Listed} (h : l.isPlain = true) {c d : Char} (hc : isGap c = false)
    (hd : isGap d = false) (s : List Char) :
    joined (wordsBy isGap (c :: (l.before ++ (l.name ++ (l.after ++ d :: s))))) =
      c :: (l.narrow.before ++ (l.narrow.name ++ (l.narrow.after ++
        joined (wordsBy isGap (d :: s))))) := by
  obtain ⟨hbefore, hname, hafter⟩ := Listed.isPlain_iff.1 h
  obtain ⟨e, es, hcons, -⟩ := exists_cons_of_isIdentifier hname
  have hsolid : ∀ f ∈ l.name, isGap f = false := fun f hf => isGap_eq_false_of_mem hname hf
  have hfirst : ∀ f ∈ [c], isGap f = false := fun f hf => List.mem_singleton.1 hf ▸ hc
  have hname' := joined_wordsBy_append (hcons ▸ List.cons_ne_nil e es) hsolid hafter hd s
  have hopen := joined_wordsBy_append (List.cons_ne_nil c []) hfirst hbefore
    (hsolid e (hcons ▸ List.mem_cons_self)) (es ++ (l.after ++ d :: s))
  rw [← List.cons_append, ← hcons, hname'] at hopen
  exact hopen

/-- Joined by single blanks, the words of a list are the list with narrow gaps. -/
theorem joined_itemsText {l : Listed} {ls : List Listed} (h : ∀ m ∈ l :: ls, m.isPlain = true)
    {c : Char} (hc : isGap c = false) :
    joined (wordsBy isGap (c :: itemsText l ls)) =
      c :: itemsText l.narrow (ls.map Listed.narrow) := by
  induction ls generalizing l c with
  | nil =>
      have hlast : joined (wordsBy isGap [')']) = [')'] := rfl
      rw [itemsText, joined_listed (h l List.mem_cons_self) hc (by decide), hlast]
      rfl
  | cons m ms ih =>
      rw [itemsText, joined_listed (h l List.mem_cons_self) hc (by decide),
        ih (fun k hk => h k (List.mem_cons_of_mem l hk)) (by decide)]
      rfl

theorem joined_listText {gap : List Char} (hgap : ∀ c ∈ gap, isGap c = true) {ls : List Listed}
    (h : ∀ l ∈ ls, l.isPlain = true) :
    joined (wordsBy isGap (listText gap ls)) = listText (oneBlank gap) (ls.map Listed.narrow) := by
  cases ls with
  | nil =>
      have hfirst : ∀ c ∈ ['('], isGap c = false := List.forall_mem_singleton.2 (by decide)
      have hlast : joined (wordsBy isGap [')']) = [')'] := rfl
      have hopen := joined_wordsBy_append (List.cons_ne_nil '(' []) hfirst hgap
        (by decide : isGap ')' = false) []
      rw [hlast] at hopen
      exact hopen
  | cons l ls => exact joined_itemsText h (by decide)

theorem namesOf_narrow (ls : List Listed) : namesOf (ls.map Listed.narrow) = namesOf ls := by
  rw [namesOf, List.map_map]
  rfl

/-- The words of a list, joined by single blanks, are read as the names in it. -/
theorem openParameters_joined {gap : List Char} (hgap : ∀ c ∈ gap, isGap c = true)
    {ls : List Listed} (h : ∀ l ∈ ls, l.isPlain = true) :
    openParameters (joined (wordsBy isGap (listText gap ls))) = .ok (namesOf ls) := by
  have hnarrow : ∀ l ∈ ls.map Listed.narrow, l.isPlain = true := by
    intro l hl
    obtain ⟨m, hm, rfl⟩ := List.mem_map.1 hl
    exact Listed.isPlain_narrow (h m hm)
  rw [joined_listText hgap h, openParameters_listText (fun c => isGap_of_mem_oneBlank) hnarrow,
    namesOf_narrow]

end joining

section counting

def solid (s : List Char) : Nat := s.countP (!isAsciiBlank ·)

/-- The characters of names, with a parenthesis or a comma for each. -/
def cost : List String → Nat
  | [] => 0
  | n :: ns => n.toList.length + 1 + cost ns

theorem cost_concat (names : List String) (n : String) :
    cost (names ++ [n]) = cost names + (n.toList.length + 1) := by
  induction names with
  | nil => exact Nat.add_comm _ 0
  | cons m ms ih =>
      rw [List.cons_append, cost, cost, ih]
      omega

theorem solid_append (s t : List Char) : solid (s ++ t) = solid s + solid t := List.countP_append

theorem solid_cons (c : Char) (s : List Char) : solid (c :: s) = solid [c] + solid s :=
  solid_append [c] s

theorem scanParameter?_eq_some {s p r : List Char} (h : scanParameter? s = some (p, r)) :
    s = p ++ r ∧ isIdentifier p = true := by
  cases s with
  | nil => cases h
  | cons c s =>
      rw [scanParameter?] at h
      split at h
      · next hc =>
          cases h
          refine ⟨by rw [List.cons_append, List.takeWhile_append_dropWhile], ?_⟩
          rw [isIdentifier, hc, Bool.true_and]
          exact List.all_takeWhile
      · cases h

/-- A parameter stands in the text that it is read from. -/
theorem length_le_of_parameterOf {text : List Char} {n : String} (h : parameterOf text = .ok n) :
    n.toList.length ≤ solid text := by
  unfold parameterOf at h
  split at h
  · next p hscan =>
      cases h
      obtain ⟨heq, hp⟩ := scanParameter?_eq_some hscan
      rw [List.append_nil] at heq
      have hall : ∀ c ∈ p, (!isAsciiBlank c) = true := fun c hc => by
        simp [isAsciiBlank_eq_false
          (isBlank_eq_false_of_continuesParameter (continuesParameter_of_mem hp hc))]
      have hsub : p.Sublist text := by
        have htrim : (trimEnd text).Sublist text.reverse.reverse :=
          (List.dropWhile_sublist isBlank).reverse
        rwa [heq, List.reverse_reverse] at htrim
      rw [String.toList_ofList, ← List.countP_eq_length.2 hall]
      exact hsub.countP_le
  · exact nomatch h

theorem cost_le_of_closeParameters {read names : List String} {current : List Char}
    (h : closeParameters read current = .ok names) :
    cost names ≤ cost read + solid current + 1 := by
  unfold closeParameters at h
  split at h
  · cases h
    omega
  · cases hp : parameterOf current with
    | error fault => rw [hp] at h; exact nomatch h
    | ok p =>
        rw [hp] at h
        cases h
        have hle := length_le_of_parameterOf hp
        rw [cost_concat]
        omega

theorem cost_le_of_parametersFrom {read names : List String} {current s : List Char}
    (h : parametersFrom read current s = .ok names) :
    cost names ≤ cost read + solid current + solid s := by
  induction s generalizing read current with
  | nil => exact nomatch h
  | cons c s ih =>
      rw [parametersFrom] at h
      rw [solid_cons]
      by_cases hopen : c = '('
      · rw [if_pos hopen] at h
        exact nomatch h
      rw [if_neg hopen] at h
      by_cases hcomma : c = ','
      · rw [if_pos hcomma] at h
        have hone : solid [c] = 1 := by rw [hcomma]; rfl
        split at h
        · exact nomatch h
        · cases hp : parameterOf current with
          | error fault => rw [hp] at h; exact nomatch h
          | ok p =>
              rw [hp] at h
              have hle := length_le_of_parameterOf hp
              have hrest : cost names ≤ cost (read ++ [p]) + solid [] + solid s := ih h
              have hnil : solid [] = 0 := rfl
              rw [cost_concat] at hrest
              omega
      rw [if_neg hcomma] at h
      by_cases hclose : c = ')'
      · rw [if_pos hclose] at h
        have hone : solid [c] = 1 := by rw [hclose]; rfl
        cases hp : closeParameters read current with
        | error fault => rw [hp] at h; exact nomatch h
        | ok ps =>
            rw [hp] at h
            simp only at h
            split at h
            · cases h
              have hle := cost_le_of_closeParameters hp
              omega
            · exact nomatch h
      rw [if_neg hclose] at h
      split at h
      · have hrest := ih h
        omega
      · have hrest := ih h
        rw [solid_append] at hrest
        omega

/-- What is read from a text is not longer than the text. -/
theorem cost_lt_of_openParameters {s : List Char} {names : List String}
    (h : openParameters s = .ok names) : cost names < solid s := by
  induction s with
  | nil => exact nomatch h
  | cons c s ih =>
      rw [openParameters] at h
      rw [solid_cons]
      by_cases hopen : c = '('
      · rw [if_pos hopen] at h
        have hone : solid [c] = 1 := by rw [hopen]; rfl
        have hrest := cost_le_of_parametersFrom h
        have hnil : solid [] = 0 := rfl
        have hread : cost [] = 0 := rfl
        omega
      · rw [if_neg hopen] at h
        split at h
        · have hrest := ih h
          omega
        · exact nomatch h

/-- The blanks between words do not count. -/
theorem solid_joined_le (ws : List (List Char)) : solid (joined ws) ≤ ws.flatten.length := by
  induction ws with
  | nil => exact Nat.le_refl 0
  | cons w ws ih =>
      have hw : solid w ≤ w.length := List.countP_le_length
      cases ws with
      | nil => simpa using hw
      | cons v ws =>
          have hblank : solid [' '] = 0 := rfl
          rw [joined_cons_cons, solid_append, solid_cons, List.flatten_cons, List.length_append]
          omega

theorem length_filter_itemsText {l : Listed} {ls : List Listed}
    (h : ∀ m ∈ l :: ls, m.isPlain = true) :
    ((itemsText l ls).filter fun c => !isGap c).length = cost (namesOf (l :: ls)) := by
  have hlisted : ∀ {l : Listed}, l.isPlain = true → ∀ s,
      ((l.before ++ (l.name ++ (l.after ++ s))).filter fun c => !isGap c).length =
        l.name.length + (s.filter fun c => !isGap c).length := by
    intro l hl s
    obtain ⟨hbefore, hname, hafter⟩ := Listed.isPlain_iff.1 hl
    have hgaps : ∀ {gap : List Char}, (∀ c ∈ gap, isGap c = true) →
        gap.filter (fun c => !isGap c) = [] := fun h => List.filter_eq_nil_iff.2 (by simpa using h)
    have hsolid : l.name.filter (fun c => !isGap c) = l.name :=
      List.filter_eq_self.2 fun c hc => by simp [isGap_eq_false_of_mem hname hc]
    rw [List.filter_append, List.filter_append, List.filter_append, hgaps hbefore, hgaps hafter,
      hsolid, List.nil_append, List.nil_append, List.length_append]
  induction ls generalizing l with
  | nil =>
      rw [itemsText, hlisted (h l List.mem_cons_self)]
      simp [cost, namesOf, isGap]
  | cons m ms ih =>
      have hcomma : ∀ s : List Char, ((',' :: s).filter fun c => !isGap c) =
          ',' :: s.filter fun c => !isGap c := fun s => List.filter_cons_of_pos (by decide)
      rw [itemsText, hlisted (h l List.mem_cons_self), hcomma, List.length_cons,
        ih fun k hk => h k (List.mem_cons_of_mem l hk)]
      simp [cost, namesOf]
      omega

theorem length_filter_listText {gap : List Char} {l : Listed} {ls : List Listed}
    (h : ∀ m ∈ l :: ls, m.isPlain = true) :
    ((listText gap (l :: ls)).filter fun c => !isGap c).length = cost (namesOf (l :: ls)) + 1 := by
  rw [listText, List.filter_cons_of_pos (by decide), List.length_cons, length_filter_itemsText h]

end counting

end Componentry
