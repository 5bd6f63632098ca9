import Componentry.Proofs.Declaration.Layout

/-!
# The grammar of parameter lists

A parameter list is read character by character, with the parameter that is under way in a buffer.
`IsParameterList` says without that which texts are lists, and of which parameters: identifiers with
commas between them and a comma after the last at will, in parentheses. The blanks in a list are
those of ASCII, but any blanks may follow an identifier, since they are trimmed off. Reading accepts
these texts and no others (`parameters?_grammar`).

What is left of a list in some state of the reader is `CompletesList`: the buffer and the text up to
the closing parenthesis are a body. Each kind of character changes it as the reader changes its
state, which gives `parametersFrom_eq_ok_iff` by induction on the text.
-/

namespace Componentry

open Text

def AsciiBlanks (s : List Char) : Prop := ∀ c ∈ s, isAsciiBlank c = true

inductive IsListed : List Char → String → Prop where
  | intro {before name after : List Char} : AsciiBlanks before → isIdentifier name = true →
      (∀ c ∈ after, isBlank c = true) → IsListed (before ++ (name ++ after)) (String.ofList name)

inductive AreListed : List Char → List String → Prop where
  | one {s : List Char} {p : String} : IsListed s p → AreListed s [p]
  | more {s r : List Char} {p : String} {ps : List String} :
      IsListed s p → AreListed r ps → AreListed (s ++ ',' :: r) (p :: ps)

inductive IsListBody : List Char → List String → Prop where
  | blank {s : List Char} : AsciiBlanks s → IsListBody s []
  | listed {s : List Char} {ps : List String} : AreListed s ps → IsListBody s ps
  /-- A comma may follow the last parameter. -/
  | trailing {s r : List Char} {ps : List String} :
      AreListed s ps → AsciiBlanks r → IsListBody (s ++ ',' :: r) ps

inductive IsParameterList : List Char → List String → Prop where
  | intro {before body after : List Char} {ps : List String} : AsciiBlanks before →
      IsListBody body ps → AsciiBlanks after →
        IsParameterList (before ++ '(' :: (body ++ ')' :: after)) ps

section characters

variable {s : List Char} {p : String} {ps : List String} {c : Char}

theorem ne_of_isBlank (h : isBlank c = true) : c ≠ '(' ∧ c ≠ ',' ∧ c ≠ ')' := by
  refine ⟨?_, ?_, ?_⟩ <;> rintro rfl <;> exact absurd h (by decide)

theorem AsciiBlanks.isBlank (h : AsciiBlanks s) (hc : c ∈ s) : isBlank c = true :=
  isBlank_of_isAsciiBlank (h c hc)

theorem asciiBlanks_cons {r : List Char} :
    AsciiBlanks (c :: r) ↔ isAsciiBlank c = true ∧ AsciiBlanks r :=
  List.forall_mem_cons

theorem IsListed.ne (h : IsListed s p) (hc : c ∈ s) : c ≠ '(' ∧ c ≠ ',' ∧ c ≠ ')' := by
  obtain ⟨hbefore, hname, hafter⟩ := h
  rcases List.mem_append.1 hc with hc | hc
  · exact ne_of_isBlank (hbefore.isBlank hc)
  · rcases List.mem_append.1 hc with hc | hc
    · exact ne_of_continuesParameter (continuesParameter_of_mem hname hc)
    · exact ne_of_isBlank (hafter c hc)

theorem AreListed.ne (h : AreListed s ps) (hc : c ∈ s) : c ≠ '(' ∧ c ≠ ')' := by
  induction h with
  | one hs => exact ⟨(hs.ne hc).1, (hs.ne hc).2.2⟩
  | more hs _ ih =>
      rcases List.mem_append.1 hc with hc | hc
      · exact ⟨(hs.ne hc).1, (hs.ne hc).2.2⟩
      · rcases List.mem_cons.1 hc with rfl | hc
        · decide
        · exact ih hc

/-- The parentheses of a list stand around its body only. -/
theorem IsListBody.ne (h : IsListBody s ps) (hc : c ∈ s) : c ≠ '(' ∧ c ≠ ')' := by
  cases h with
  | blank hs =>
      have hne := ne_of_isBlank (hs.isBlank hc)
      exact ⟨hne.1, hne.2.2⟩
  | listed hs => exact hs.ne hc
  | trailing hs hr =>
      rcases List.mem_append.1 hc with hc | hc
      · exact hs.ne hc
      · rcases List.mem_cons.1 hc with rfl | hc
        · decide
        · have hne := ne_of_isBlank (hr.isBlank hc)
          exact ⟨hne.1, hne.2.2⟩

end characters

section body

variable {word rest : List Char} {ps : List String} {p : String}

/-- The first comma of a text is at one place. -/
theorem eq_of_append_comma {s r : List Char} (hs : ',' ∉ s) (hword : ',' ∉ word)
    (h : s ++ ',' :: r = word ++ ',' :: rest) : s = word ∧ r = rest := by
  induction s generalizing word with
  | nil =>
      cases word with
      | nil => exact ⟨rfl, (List.cons.inj h).2⟩
      | cons d word => exact absurd ((List.cons.inj h).1 ▸ List.mem_cons_self) hword
  | cons c s ih =>
      cases word with
      | nil => exact absurd ((List.cons.inj h).1 ▸ List.mem_cons_self) hs
      | cons d word =>
          obtain ⟨rfl, htail⟩ := List.cons.inj h
          obtain ⟨rfl, rfl⟩ := ih (fun hc => hs (List.mem_cons_of_mem c hc))
            (fun hc => hword (List.mem_cons_of_mem c hc)) htail
          exact ⟨rfl, rfl⟩

theorem IsListed.not_comma_mem (h : IsListed word p) : ',' ∉ word := fun hc => (h.ne hc).2.1 rfl

/-- A comma ends the first parameter of a body. -/
theorem isListBody_append_comma_iff (hword : ',' ∉ word) :
    IsListBody (word ++ ',' :: rest) ps ↔
      ∃ p qs, IsListed word p ∧ IsListBody rest qs ∧ ps = p :: qs := by
  have hcomma : ',' ∈ word ++ ',' :: rest := List.mem_append_right word List.mem_cons_self
  constructor
  · intro h
    generalize hs : word ++ ',' :: rest = s at h hcomma
    cases h with
    | blank hblank => exact absurd rfl (ne_of_isBlank (hblank.isBlank hcomma)).2.1
    | listed hlisted =>
        cases hlisted with
        | one hone => exact absurd hcomma hone.not_comma_mem
        | more hone hmore =>
            obtain ⟨rfl, rfl⟩ := eq_of_append_comma hword hone.not_comma_mem hs
            exact ⟨_, _, hone, .listed hmore, rfl⟩
    | trailing hlisted hblank =>
        cases hlisted with
        | one hone =>
            obtain ⟨rfl, rfl⟩ := eq_of_append_comma hword hone.not_comma_mem hs
            exact ⟨_, _, hone, .blank hblank, rfl⟩
        | more hone hmore =>
            rw [List.append_assoc, List.cons_append] at hs
            obtain ⟨rfl, rfl⟩ := eq_of_append_comma hword hone.not_comma_mem hs
            exact ⟨_, _, hone, .trailing hmore hblank, rfl⟩
  · rintro ⟨p, qs, hone, hbody, rfl⟩
    cases hbody with
    | blank hblank => exact .trailing (.one hone) hblank
    | listed hmore => exact .listed (.more hone hmore)
    | trailing hmore hblank =>
        have htrailing := IsListBody.trailing (.more hone hmore) hblank
        rwa [List.append_assoc, List.cons_append] at htrailing

/-- A body without a comma is blank or one parameter. -/
theorem isListBody_iff_of_not_mem (hword : ',' ∉ word) :
    IsListBody word ps ↔ AsciiBlanks word ∧ ps = [] ∨ ∃ p, IsListed word p ∧ ps = [p] := by
  constructor
  · intro h
    cases h with
    | blank hblank => exact .inl ⟨hblank, rfl⟩
    | listed hlisted =>
        cases hlisted with
        | one hone => exact .inr ⟨_, hone, rfl⟩
        | more => exact absurd (List.mem_append_right _ List.mem_cons_self) hword
    | trailing => exact absurd (List.mem_append_right _ List.mem_cons_self) hword
  · rintro (⟨hblank, rfl⟩ | ⟨p, hone, rfl⟩)
    · exact .blank hblank
    · exact .listed (.one hone)

theorem isListed_cons_iff {c : Char} (hc : isAsciiBlank c = true) :
    IsListed (c :: word) p ↔ IsListed word p := by
  constructor
  · intro h
    generalize hs : c :: word = s at h
    obtain @⟨before, name, after, hbefore, hname, hafter⟩ := h
    cases before with
    | nil =>
        obtain ⟨d, name, rfl, -, -⟩ := exists_cons_of_isIdentifier hname
        have hd := isBlank_eq_false_of_continuesParameter
          (continuesParameter_of_mem hname List.mem_cons_self)
        rw [← (List.cons.inj hs).1] at hd
        exact absurd (isBlank_of_isAsciiBlank hc) (Bool.eq_false_iff.1 hd)
    | cons d before =>
        rw [(List.cons.inj hs).2]
        exact .intro (asciiBlanks_cons.1 hbefore).2 hname hafter
  · rintro ⟨hbefore, hname, hafter⟩
    exact .intro (asciiBlanks_cons.2 ⟨hc, hbefore⟩) hname hafter

/-- Blanks in front of a body do not matter. -/
theorem isListBody_cons_iff {c : Char} (hc : isAsciiBlank c = true) :
    IsListBody (c :: rest) ps ↔ IsListBody rest ps := by
  have hne : ',' ≠ c := (ne_of_isBlank (isBlank_of_isAsciiBlank hc)).2.1.symm
  by_cases hcomma : ',' ∈ rest
  · obtain ⟨word, rest, rfl, hword⟩ := List.eq_append_cons_of_mem hcomma
    rw [← List.cons_append,
      isListBody_append_comma_iff (List.not_mem_cons_of_ne_of_not_mem hne hword),
      isListBody_append_comma_iff hword]
    simp only [isListed_cons_iff hc]
  · rw [isListBody_iff_of_not_mem (List.not_mem_cons_of_ne_of_not_mem hne hcomma),
      isListBody_iff_of_not_mem hcomma]
    simp only [isListed_cons_iff hc, asciiBlanks_cons, hc, true_and]

end body

section reading

variable {current s : List Char} {read ps : List String} {p : String}

theorem exists_append_trimEnd (s : List Char) :
    ∃ after, s = trimEnd s ++ after ∧ ∀ c ∈ after, isBlank c = true := by
  refine ⟨(s.reverse.takeWhile isBlank).reverse, ?_, ?_⟩
  · rw [trimEnd, ← List.reverse_append, List.takeWhile_append_dropWhile, List.reverse_reverse]
  · intro c hc
    exact List.all_eq_true.1 List.all_takeWhile c (List.mem_reverse.1 hc)

/-- What a reader takes for a parameter, blanks in front of it having been dropped. -/
theorem isListed_iff_parameterOf (h : ∀ c ∈ s.head?, isAsciiBlank c = false) :
    IsListed s p ↔ parameterOf s = .ok p := by
  constructor
  · rintro @⟨before, name, after, hbefore, hname, hafter⟩
    cases before with
    | nil => exact parameterOf_append hname hafter
    | cons c before =>
        exact absurd (asciiBlanks_cons.1 hbefore).1 (Bool.eq_false_iff.1 (h c rfl))
  · intro hp
    unfold parameterOf at hp
    split at hp
    · next name hscan =>
      cases hp
      obtain ⟨heq, hname⟩ := scanParameter?_eq_some hscan
      obtain ⟨after, hs, hafter⟩ := exists_append_trimEnd s
      rw [List.append_nil] at heq
      have hlisted := IsListed.intro (List.forall_mem_nil _) hname hafter
      rw [List.nil_append, ← heq, ← hs, heq] at hlisted
      exact hlisted
    · cases hp

theorem solid_head?_nil : ∀ c ∈ ([] : List Char).head?, isAsciiBlank c = false := by simp

theorem not_isListed_nil : ¬ IsListed [] p := by
  intro h
  cases (isListed_iff_parameterOf solid_head?_nil).1 h

/-- The end of a list closes what has been read. -/
theorem closeParameters_eq_ok_iff (hcomma : ',' ∉ current)
    (hhead : ∀ c ∈ current.head?, isAsciiBlank c = false) :
    closeParameters read current = .ok ps ↔ ∃ qs, IsListBody current qs ∧ ps = read ++ qs := by
  simp only [isListBody_iff_of_not_mem hcomma]
  cases current with
  | nil =>
      rw [closeParameters, if_pos rfl, Except.ok.injEq]
      constructor
      · rintro rfl
        exact ⟨[], .inl ⟨List.forall_mem_nil _, rfl⟩, (List.append_nil _).symm⟩
      · rintro ⟨qs, ⟨-, rfl⟩ | ⟨p, hp, -⟩, rfl⟩
        · exact (List.append_nil _).symm
        · exact absurd hp not_isListed_nil
  | cons c current =>
      have hsolid : ¬ AsciiBlanks (c :: current) := fun h =>
        Bool.eq_false_iff.1 (hhead c rfl) (asciiBlanks_cons.1 h).1
      rw [closeParameters, if_neg (List.cons_ne_nil c current)]
      simp only [isListed_iff_parameterOf hhead]
      constructor
      · intro h
        cases hp : parameterOf (c :: current) with
        | error fault => rw [hp] at h; cases h
        | ok p =>
            rw [hp] at h
            cases h
            exact ⟨[p], .inr ⟨p, rfl, rfl⟩, rfl⟩
      · rintro ⟨qs, ⟨hblank, -⟩ | ⟨p, hp, rfl⟩, rfl⟩
        · exact absurd hblank hsolid
        · rw [hp]
          rfl

end reading

/-- The text, behind a buffer, is the rest of a list with some parameters read before. -/
def CompletesList (read : List String) (current s : List Char) (ps : List String) : Prop :=
  ∃ body after qs, s = body ++ ')' :: after ∧ IsListBody (current ++ body) qs ∧
    AsciiBlanks after ∧ ps = read ++ qs

namespace CompletesList

variable {current s : List Char} {read ps : List String} {c : Char}

theorem not_nil : ¬ CompletesList read current [] ps := by
  rintro ⟨body, after, qs, hs, -⟩
  exact List.cons_ne_nil _ _ (List.append_eq_nil_iff.1 hs.symm).2

/-- A character that does not end a list belongs to its body. -/
theorem cons_iff (hc : c ≠ ')') :
    CompletesList read current (c :: s) ps ↔
      ∃ body after qs, s = body ++ ')' :: after ∧ IsListBody (current ++ c :: body) qs ∧
        AsciiBlanks after ∧ ps = read ++ qs := by
  constructor
  · rintro ⟨body, after, qs, hs, h⟩
    cases body with
    | nil => exact absurd (List.cons.inj hs).1 hc
    | cons d body =>
        obtain ⟨rfl, rfl⟩ := List.cons.inj hs
        exact ⟨body, after, qs, rfl, h⟩
  · rintro ⟨body, after, qs, rfl, h⟩
    exact ⟨c :: body, after, qs, rfl, h⟩

theorem not_open : ¬ CompletesList read current ('(' :: s) ps := by
  rw [cons_iff (by decide)]
  rintro ⟨body, after, qs, -, hbody, -⟩
  exact (hbody.ne (List.mem_append_right current List.mem_cons_self)).1 rfl

theorem comma_iff (hcurrent : ',' ∉ current) :
    CompletesList read current (',' :: s) ps ↔
      ∃ p, IsListed current p ∧ CompletesList (read ++ [p]) [] s ps := by
  rw [cons_iff (by decide)]
  simp only [isListBody_append_comma_iff hcurrent]
  constructor
  · rintro ⟨body, after, qs, rfl, ⟨p, qs', hp, hbody, rfl⟩, hafter, rfl⟩
    exact ⟨p, hp, body, after, qs', rfl, hbody, hafter, List.append_cons read p qs'⟩
  · rintro ⟨p, hp, body, after, qs, rfl, hbody, hafter, rfl⟩
    exact ⟨body, after, p :: qs, rfl, ⟨p, qs, hp, hbody, rfl⟩, hafter,
      (List.append_cons read p qs).symm⟩

theorem close_iff :
    CompletesList read current (')' :: s) ps ↔
      (∃ qs, IsListBody current qs ∧ ps = read ++ qs) ∧ AsciiBlanks s := by
  constructor
  · rintro ⟨body, after, qs, hs, hbody, hafter, hps⟩
    cases body with
    | nil =>
        rw [List.append_nil] at hbody
        exact ⟨⟨qs, hbody, hps⟩, (List.cons.inj hs).2 ▸ hafter⟩
    | cons d body =>
        rw [← (List.cons.inj hs).1] at hbody
        exact absurd rfl (hbody.ne (List.mem_append_right current List.mem_cons_self)).2
  · rintro ⟨⟨qs, hbody, hps⟩, hafter⟩
    exact ⟨[], s, qs, rfl, (List.append_nil current).symm ▸ hbody, hafter, hps⟩

theorem blank_iff (hc : isAsciiBlank c = true) :
    CompletesList read [] (c :: s) ps ↔ CompletesList read [] s ps := by
  rw [cons_iff (ne_of_isBlank (isBlank_of_isAsciiBlank hc)).2.2]
  simp only [List.nil_append, isListBody_cons_iff hc]
  rfl

theorem append_iff (hc : c ≠ ')') :
    CompletesList read current (c :: s) ps ↔ CompletesList read (current ++ [c]) s ps := by
  rw [cons_iff hc]
  constructor
  · rintro ⟨body, after, qs, hs, hbody, h⟩
    exact ⟨body, after, qs, hs, List.append_cons current c body ▸ hbody, h⟩
  · rintro ⟨body, after, qs, hs, hbody, h⟩
    exact ⟨body, after, qs, hs, (List.append_cons current c body).symm ▸ hbody, h⟩

end CompletesList

section reading

variable {current s : List Char} {read ps : List String} {p : String}

/-- From each of its states on, a reader accepts what completes a list. -/
theorem parametersFrom_eq_ok_iff (hcurrent : ',' ∉ current)
    (hhead : ∀ c ∈ current.head?, isAsciiBlank c = false) :
    parametersFrom read current s = .ok ps ↔ CompletesList read current s ps := by
  induction s generalizing read current with
  | nil => simp [parametersFrom, CompletesList.not_nil]
  | cons c s ih =>
      rw [parametersFrom]
      by_cases hopen : c = '('
      · rw [if_pos hopen, hopen]
        simp [CompletesList.not_open]
      rw [if_neg hopen]
      by_cases hcomma : c = ','
      · rw [if_pos hcomma, hcomma, CompletesList.comma_iff hcurrent]
        simp only [isListed_iff_parameterOf hhead]
        split
        · next hnil =>
          have hfault : parameterOf [] = .error (.invalidName "") := rfl
          simp [hnil, hfault]
        · cases hp : parameterOf current with
          | error fault => simp
          | ok q =>
              rw [ih List.not_mem_nil solid_head?_nil]
              simp only [Except.ok.injEq, exists_eq_left']
      rw [if_neg hcomma]
      by_cases hclose : c = ')'
      · rw [if_pos hclose, hclose, CompletesList.close_iff,
          ← closeParameters_eq_ok_iff hcurrent hhead]
        cases closeParameters read current with
        | error fault => simp
        | ok qs =>
            simp only [AsciiBlanks, ← List.all_eq_true, Except.ok.injEq]
            split
            · next hall => simp [hall]
            · next hall => simp [hall]
      rw [if_neg hclose]
      by_cases hblank : (isAsciiBlank c && current.isEmpty) = true
      · rw [if_pos hblank, ih hcurrent hhead]
        rw [Bool.and_eq_true, List.isEmpty_iff] at hblank
        rw [hblank.2, CompletesList.blank_iff hblank.1]
      · rw [if_neg hblank, CompletesList.append_iff hclose]
        apply ih
        · exact fun h => (List.mem_append.1 h).elim hcurrent fun h =>
            hcomma (List.mem_singleton.1 h).symm
        · cases current with
          | nil => simpa using hblank
          | cons d current => exact hhead

/-- A list begins with blanks or with its parenthesis. -/
theorem isParameterList_cons_iff {c : Char} : IsParameterList (c :: s) ps ↔
    c = '(' ∧ CompletesList [] [] s ps ∨ isAsciiBlank c = true ∧ IsParameterList s ps := by
  constructor
  · intro h
    generalize ht : c :: s = t at h
    obtain @⟨before, body, after, ps, hbefore, hbody, hafter⟩ := h
    cases before with
    | nil =>
        obtain ⟨hc, rfl⟩ := List.cons.inj ht
        exact .inl ⟨hc, body, after, ps, rfl, hbody, hafter, rfl⟩
    | cons d before =>
        obtain ⟨rfl, rfl⟩ := List.cons.inj ht
        obtain ⟨hc, hbefore⟩ := asciiBlanks_cons.1 hbefore
        exact .inr ⟨hc, .intro hbefore hbody hafter⟩
  · rintro (⟨rfl, body, after, qs, rfl, hbody, hafter, rfl⟩ | ⟨hc, hbefore, hbody, hafter⟩)
    · exact .intro (List.forall_mem_nil _) hbody hafter
    · exact .intro (asciiBlanks_cons.2 ⟨hc, hbefore⟩) hbody hafter

theorem openParameters_eq_ok_iff : openParameters s = .ok ps ↔ IsParameterList s ps := by
  induction s with
  | nil =>
      constructor
      · intro h
        cases h
      · intro h
        generalize ht : [] = t at h
        obtain ⟨-, -, -⟩ := h
        exact absurd ht.symm (by simp)
  | cons c s ih =>
      rw [openParameters, isParameterList_cons_iff]
      by_cases hopen : c = '('
      · have hsolid : isAsciiBlank '(' = false := rfl
        rw [if_pos hopen, parametersFrom_eq_ok_iff List.not_mem_nil solid_head?_nil]
        simp [hopen, hsolid]
      · rw [if_neg hopen]
        by_cases hblank : isAsciiBlank c = true
        · rw [if_pos hblank, ih]
          simp [hopen, hblank]
        · rw [if_neg hblank]
          simp [hopen, hblank]

end reading

/-- Whether a name begins or ends as a list does. -/
def HasListShape (name : String) : Prop :=
  name.toList.head? = some '(' ∨ name.toList.getLast? = some ')'

theorem isMarker_iff {name : String} : isMarker name = true ↔ HasListShape name := by
  rw [isMarker, Bool.or_eq_true, beginsWith, endsWith, beq_iff_eq, beq_iff_eq]
  rfl

theorem parameters?_of_hasListShape {name : String} (h : HasListShape name) :
    parameters? name = (openParameters name.toList).map some := by
  rw [parameters?, if_pos (isMarker_iff.2 h)]

/-- A name without the shape of a list is no marker. Of the others, those are read that are
parameter lists, with their parameters, and there is a fault in the rest. -/
theorem parameters?_grammar (name : String) :
    (parameters? name = .ok none ↔ ¬ HasListShape name) ∧
    (∀ ps, parameters? name = .ok (some ps) ↔
      HasListShape name ∧ IsParameterList name.toList ps) ∧
    ((∃ fault, parameters? name = .error fault) ↔
      HasListShape name ∧ ¬ ∃ ps, IsParameterList name.toList ps) := by
  simp only [← openParameters_eq_ok_iff]
  by_cases hshape : HasListShape name
  · rw [parameters?_of_hasListShape hshape]
    cases openParameters name.toList with
    | error fault => simp [hshape, Except.map]
    | ok ps => simp [hshape, Except.map]
  · rw [parameters?, if_neg (mt isMarker_iff.1 hshape)]
    simp [hshape]

end Componentry
