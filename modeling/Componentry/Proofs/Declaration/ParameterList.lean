import Componentry.Proofs.Declaration.Extraction
import Componentry.Proofs.Declaration.Grouping
import Componentry.Proofs.Declaration.Layout
import Componentry.Proofs.Declaration.Name
import Componentry.Proofs.Markup.Header

/-!
# Parameter lists in markup

A parameter list that stands in a start tag is taken apart at its gaps and put together again, and
what is put together are the words that no word before them repeats, in upper or lower case
(`groupOf`). So the white space in a list does not matter as long as no word of it comes twice, and
only then: `extractDeclarations_parameterList`. A comma with gaps around it is a word.
-/

namespace Componentry

open Markup Text

def keptWords (gap : List Char) (ls : List Listed) : List String :=
  firstNames [] ((wordsBy isGap (listText gap ls)).map String.ofList)

def groupOf (gap : List Char) (ls : List Listed) : List Char :=
  joined ((keptWords gap ls).map String.toList)

section joining

theorem intercalate_eq_joined (names : List String) :
    " ".intercalate names = String.ofList (joined (names.map String.toList)) := by
  rw [← String.toList_inj, String.toList_intercalate]
  exact String.toList_ofList.symm

/-- A list that begins with its opening parenthesis and ends with the only closing one. -/
theorem joinMarkers_concat {names : List String} {last : String}
    (hopen : ∃ n ns, names ++ [last] = n :: ns ∧ beginsWith '(' n = true)
    (hnames : ∀ n ∈ names, endsWith ')' n = false) (hlast : endsWith ')' last = true) :
    joinMarkers (names ++ [last]) =
      [String.ofList (joined ((names ++ [last]).map String.toList))] := by
  have hgroup : ∃ g : NameGroup, g.WellFormed ∧ g.names = names ++ [last] := by
    cases names with
    | nil => exact ⟨.name last, opensMarker_eq_false_iff.2 fun _ => hlast, rfl⟩
    | cons n ns =>
        obtain ⟨n', ns', heq, hn⟩ := hopen
        cases heq
        obtain ⟨hfirst, hrest⟩ := List.forall_mem_cons.1 hnames
        refine ⟨.list n (ns ++ [last]), ⟨?_, by rwa [List.dropLast_concat]⟩, rfl⟩
        rw [opensMarker, hn, hfirst]
        rfl
  obtain ⟨g, hg, hgnames⟩ := hgroup
  rw [joinMarkers_eq_map, ← hgnames, groupsOf_names hg, ← intercalate_eq_joined, ← g.joined_eq]
  rfl

end joining

section words

variable {gap : List Char} {ls : List Listed}

/-- A list ends in its only closing parenthesis. -/
theorem exists_itemsText_concat {l : Listed} (h : ∀ m ∈ l :: ls, m.isPlain = true) :
    ∃ s, itemsText l ls = s ++ [')'] ∧ ')' ∉ s := by
  have hfree : ∀ {l : Listed}, l.isPlain = true → ')' ∉ l.before ++ (l.name ++ l.after) := by
    intro l hl hmem
    obtain ⟨hbefore, hname, hafter⟩ := Listed.isPlain_iff.1 hl
    rcases List.mem_append.1 hmem with hmem | hmem
    · exact absurd (hbefore ')' hmem) (by decide)
    rcases List.mem_append.1 hmem with hmem | hmem
    · exact absurd (continuesParameter_of_mem hname hmem) (by decide)
    · exact absurd (hafter ')' hmem) (by decide)
  have hl := hfree (h l List.mem_cons_self)
  induction ls generalizing l with
  | nil => exact ⟨l.before ++ (l.name ++ l.after), by simp [itemsText], hl⟩
  | cons m ms ih =>
      have hms : ∀ k ∈ m :: ms, k.isPlain = true := fun k hk => h k (List.mem_cons_of_mem l hk)
      obtain ⟨s, hs, hmem⟩ := ih hms (hfree (hms m List.mem_cons_self))
      refine ⟨l.before ++ (l.name ++ l.after) ++ ',' :: s, by simp [itemsText, hs], ?_⟩
      rw [List.mem_append, List.mem_cons, not_or, not_or]
      exact ⟨hl, by decide, hmem⟩

theorem exists_listText_concat (hgap : ∀ c ∈ gap, isGap c = true)
    (h : ∀ l ∈ ls, l.isPlain = true) :
    ∃ s, listText gap ls = '(' :: s ++ [')'] ∧ ')' ∉ '(' :: s := by
  have hfirst : ∀ {s : List Char}, ')' ∉ s → ')' ∉ '(' :: s := fun hs =>
    List.not_mem_cons_of_ne_of_not_mem (by decide) hs
  cases ls with
  | nil => exact ⟨gap, rfl, hfirst fun hmem => absurd (hgap ')' hmem) (by decide)⟩
  | cons l ls =>
      obtain ⟨s, hs, hmem⟩ := exists_itemsText_concat h
      exact ⟨s, congrArg ('(' :: ·) hs, hfirst hmem⟩

/-- Names are not the same if a parenthesis is in one of them only. -/
theorem sameName_eq_false {a b : String} (ha : ')' ∉ a.toList) (hb : ')' ∈ b.toList) :
    sameName a b = false := by
  rw [← Bool.not_eq_true, sameName_iff]
  intro heq
  have hlow := congrArg String.toList heq
  rw [toList_lower, toList_lower] at hlow
  have hmem : ')' ∈ b.toList.map Char.toLower := List.mem_map.2 ⟨')', hb, by decide⟩
  rw [← hlow, List.mem_map] at hmem
  obtain ⟨c, hc, hparen⟩ := hmem
  exact ha ((toLower_eq_iff (by decide)).1 hparen ▸ hc)

/-- What is kept of a list: words without the closing parenthesis, and the last one. -/
theorem exists_keptWords_concat (hgap : ∀ c ∈ gap, isGap c = true)
    (h : ∀ l ∈ ls, l.isPlain = true) :
    ∃ names last, keptWords gap ls = names ++ [last] ∧
      (∃ n ns, names ++ [last] = n :: ns ∧ beginsWith '(' n = true) ∧
      (∀ n ∈ names, endsWith ')' n = false) ∧ endsWith ')' last = true := by
  obtain ⟨s, hs, hfree⟩ := exists_listText_concat hgap h
  obtain ⟨ws, w, hwords, hflat⟩ :=
    exists_wordsBy_concat (p := isGap) (c := ')') (by decide) ('(' :: s)
  have hword : ∀ a ∈ ws.map String.ofList, ')' ∉ a.toList := by
    intro a ha hmem
    obtain ⟨v, hv, rfl⟩ := List.mem_map.1 ha
    rw [String.toList_ofList] at hmem
    have hmem' : ')' ∈ ws.flatten ++ w :=
      List.mem_append_left w (List.mem_flatten.2 ⟨v, hv, hmem⟩)
    rw [hflat] at hmem'
    exact hfree (List.mem_of_mem_filter hmem')
  have hkept : keptWords gap ls =
      firstNames [] (ws.map String.ofList) ++ [String.ofList (w ++ [')'])] := by
    rw [keptWords, hs, hwords, List.map_append]
    refine firstNames_concat fun a ha => sameName_eq_false (hword a ha) ?_
    simp
  refine ⟨_, _, hkept, ?_, fun n hn => ?_, by simp [endsWith]⟩
  · obtain ⟨v, vs, hv⟩ := exists_wordsBy_cons (p := isGap) (c := '(') (by decide) (s ++ [')'])
    rw [← hkept, keptWords, hs, List.cons_append, hv, List.map_cons, firstNames]
    exact ⟨_, _, rfl, by simp [beginsWith]⟩
  · have hmem := hword n ((firstNames_sublist [] _).subset hn)
    refine Bool.eq_false_iff.2 fun hend => hmem ?_
    exact List.mem_of_getLast? (beq_iff_eq.1 hend)

theorem joinMarkers_keptWords (hgap : ∀ c ∈ gap, isGap c = true)
    (h : ∀ l ∈ ls, l.isPlain = true) :
    joinMarkers (keptWords gap ls) = [String.ofList (groupOf gap ls)] := by
  obtain ⟨names, last, heq, hopen, hnames, hlast⟩ := exists_keptWords_concat hgap h
  rw [groupOf, heq, joinMarkers_concat hopen hnames hlast]

/-- The words of a list, all different up to the case of letters. -/
def DistinctWords (gap : List Char) (ls : List Listed) : Prop :=
  ((wordsBy isGap (listText gap ls)).map String.ofList).Pairwise (sameName · · = false)

instance (gap : List Char) (ls : List Listed) : Decidable (DistinctWords gap ls) :=
  inferInstanceAs (Decidable (List.Pairwise _ _))

theorem keptWords_eq_iff :
    (keptWords gap ls).map String.toList = wordsBy isGap (listText gap ls) ↔
      DistinctWords gap ls := by
  have hself : ∀ ws : List (List Char), (ws.map String.ofList).map String.toList = ws := by simp
  have hback : ∀ names : List String, (names.map String.toList).map String.ofList = names := by
    simp
  rw [DistinctWords, ← firstNames_eq_self_iff, ← keptWords]
  constructor
  · intro h
    rw [← h, hback]
  · intro h
    rw [h, hself]

/-- The words of a list without parameters are its parentheses. -/
theorem distinctWords_nil (hgap : ∀ c ∈ gap, isGap c = true) : DistinctWords gap [] := by
  have hwords : wordsBy isGap (listText gap []) = [['(', ')']] ∨
      wordsBy isGap (listText gap []) = [['('], [')']] := by
    cases gap with
    | nil => exact Or.inl (by decide)
    | cons c cs =>
        have hfirst : ∀ d ∈ ['('], isGap d = false := by simp [isGap]
        have hopen := wordsBy_append (List.cons_ne_nil '(' []) hfirst
          (AtWordEnd.cons (hgap c List.mem_cons_self) (cs ++ [')']))
        rw [← List.cons_append, wordsBy_append_separators hgap] at hopen
        exact Or.inr hopen
  rw [DistinctWords]
  rcases hwords with h | h <;> rw [h] <;> decide

theorem length_flatten_lt {as bs : List (List Char)} (h : as.Sublist bs) (hne : as ≠ bs)
    (hpos : ∀ b ∈ bs, b ≠ []) : as.flatten.length < bs.flatten.length := by
  induction h with
  | slnil => exact absurd rfl hne
  | @cons as bs b h ih =>
      have hb : 0 < b.length := List.length_pos_iff.2 (hpos b List.mem_cons_self)
      have hle := h.flatten.length_le
      rw [List.flatten_cons, List.length_append]
      omega
  | @cons_cons as bs b h ih =>
      have hrest := ih (fun heq => hne (by rw [heq])) fun c hc => hpos c (List.mem_cons_of_mem b hc)
      rw [List.flatten_cons, List.flatten_cons, List.length_append, List.length_append]
      omega

/-- What has been put together is read as the parameters of the list exactly if no word of it was
left out. -/
theorem openParameters_groupOf_iff (hgap : ∀ c ∈ gap, isGap c = true)
    (h : ∀ l ∈ ls, l.isPlain = true) :
    openParameters (groupOf gap ls) = .ok (namesOf ls) ↔ DistinctWords gap ls := by
  constructor
  · intro hread
    cases ls with
    | nil => exact distinctWords_nil hgap
    | cons l ls =>
        -- a word that is left out would be missing in what is read
        have hread' := cost_lt_of_openParameters hread
        have hgroup := solid_joined_le ((keptWords gap (l :: ls)).map String.toList)
        have hlist := @length_filter_listText gap l ls h
        rw [← flatten_wordsBy] at hlist
        have hsub : ((keptWords gap (l :: ls)).map String.toList).Sublist
            (wordsBy isGap (listText gap (l :: ls))) := by
          have hsub := (firstNames_sublist []
            ((wordsBy isGap (listText gap (l :: ls))).map String.ofList)).map String.toList
          simpa [keptWords] using hsub
        rw [← keptWords_eq_iff]
        by_contra hne
        have hlt := length_flatten_lt hsub hne fun w hw => ne_nil_of_mem_wordsBy hw
        rw [groupOf] at hread'
        omega
  · intro hdistinct
    rw [groupOf, keptWords_eq_iff.2 hdistinct, openParameters_joined hgap h]

end words

section element

variable {tag body : String} {gap : List Char} {ls : List Listed} {isDefined : String → Bool}

theorem continuesName_of_continuesParameter {c : Char} (h : continuesParameter c = true) :
    continuesName c = true := by
  have hne : ∀ d ∈ ['/', '>', '='], c ≠ d := by
    rintro d hd rfl
    simp only [List.mem_cons, List.not_mem_nil, or_false] at hd
    rcases hd with rfl | rfl | rfl <;> exact absurd h (by decide)
  simp [continuesName, continuesTag, isBlank_eq_false_of_continuesParameter h, hne]

theorem inHeader_of_mem_itemsText {l : Listed} (h : ∀ m ∈ l :: ls, m.isPlain = true) {c : Char}
    (hc : c ∈ itemsText l ls) : inHeader c = true := by
  have hlisted : ∀ {l : Listed} {s : List Char}, l.isPlain = true →
      (∀ c ∈ s, inHeader c = true) →
        ∀ c ∈ l.before ++ (l.name ++ (l.after ++ s)), inHeader c = true := by
    intro l s hl hs c hc
    obtain ⟨hbefore, hname, hafter⟩ := Listed.isPlain_iff.1 hl
    simp only [List.mem_append] at hc
    rcases hc with hc | hc | hc | hc
    · simp [inHeader, hbefore c hc]
    · simp [inHeader,
        continuesName_of_continuesParameter (continuesParameter_of_mem hname hc)]
    · simp [inHeader, hafter c hc]
    · exact hs c hc
  induction ls generalizing l c with
  | nil => exact hlisted (h l List.mem_cons_self) (by simp [inHeader]; decide) c hc
  | cons m ms ih =>
      refine hlisted (h l List.mem_cons_self) (fun d hd => ?_) c hc
      rcases List.mem_cons.1 hd with rfl | hd
      · decide
      · exact ih (fun k hk => h k (List.mem_cons_of_mem l hk)) hd

theorem inHeader_of_mem_listText (hgap : ∀ c ∈ gap, isGap c = true)
    (h : ∀ l ∈ ls, l.isPlain = true) {c : Char} (hc : c ∈ listText gap ls) :
    inHeader c = true := by
  cases ls with
  | nil =>
      simp only [listText, List.mem_cons, List.mem_append, List.not_mem_nil, or_false] at hc
      rcases hc with rfl | hc | rfl
      · decide
      · simp [inHeader, hgap c hc]
      · decide
  | cons l ls =>
      rcases List.mem_cons.1 hc with rfl | hc
      · decide
      · exact inHeader_of_mem_itemsText h hc

theorem isMarker_groupOf (hgap : ∀ c ∈ gap, isGap c = true) (h : ∀ l ∈ ls, l.isPlain = true) :
    isMarker (String.ofList (groupOf gap ls)) = true := by
  obtain ⟨names, last, heq, ⟨n, ns, hcons, hn⟩, -⟩ := exists_keptWords_concat hgap h
  rw [groupOf, heq, hcons, List.map_cons]
  cases htext : n.toList with
  | nil => simp [beginsWith, htext] at hn
  | cons c cs =>
      have hc : c = '(' := by simpa [beginsWith, htext] using hn
      rw [joined_cons, hc]
      simp [isMarker, beginsWith]

/-- A declaration with the words of a list as its attributes. -/
theorem declare_keptWords (hreserved : isReservedName (memberName tag) = false)
    (hgap : ∀ c ∈ gap, isGap c = true) (h : ∀ l ∈ ls, l.isPlain = true) {σ : Type}
    (evaluate : Evaluator σ) (text : String) (s : σ) :
    declare evaluate (lower tag) (keptWords gap ls) text s =
      match openParameters (groupOf gap ls) with
      | .ok ps => (.ok ⟨memberName tag, .method ps text⟩, s)
      | .error fault => (.error (.malformedParameters (lower tag) fault), s) := by
  have hname : checkedName (lower tag) = .ok (memberName tag) := by
    rw [checkedName, memberName_lower, hreserved]
    rfl
  have hmarkers : markersOf (lower tag) (joinMarkers (keptWords gap ls)) =
      match openParameters (groupOf gap ls) with
      | .ok ps => .ok [ps]
      | .error fault => .error (.malformedParameters (lower tag) fault) := by
    rw [joinMarkers_keptWords hgap h, markersOf, parameters?, isMarker_groupOf hgap h,
      if_pos rfl, String.toList_ofList]
    cases openParameters (groupOf gap ls) <;> rfl
  unfold declare
  simp only [Extracting.bind_apply, Extracting.lift_apply, hname, hmarkers]
  cases openParameters (groupOf gap ls) <;> rfl

/-- The attributes of a start tag with a list are named by its words. -/
theorem names_bareAttributes_listText (gap : List Char) (ls : List Listed) :
    (bareAttributes (' ' :: listText gap ls)).map Attribute.name = keptWords gap ls := by
  have hname : Attribute.name ∘ bare = id := rfl
  rw [bareAttributes, wordsBy_cons_separator _ (by decide), List.map_map, hname, List.map_id,
    keptWords]

theorem elementOf?_listText (htag : isTagName tag.toList = true)
    (hstandard : isStandard (lower tag) = false) (hgap : ∀ c ∈ gap, isGap c = true)
    (h : ∀ l ∈ ls, l.isPlain = true) (hlt : '<' ∉ body.toList) :
    elementOf? (wrapped "x-d" "" (wrapped tag (String.ofList (' ' :: listText gap ls)) body)) =
      some ⟨"x-d", [], [.element (lower tag) (bareAttributes (' ' :: listText gap ls))
        (textNodes body.toList)]⟩ := by
  have hheader : (String.ofList (' ' :: listText gap ls)).toList = ' ' :: listText gap ls :=
    String.toList_ofList
  have hbegin : AtWordEnd isGap (String.ofList (' ' :: listText gap ls)).toList := by
    rw [hheader]
    exact AtWordEnd.cons (by decide) _
  have hin : ∀ c ∈ (String.ofList (' ' :: listText gap ls)).toList, inHeader c = true := by
    rw [hheader]
    intro c hc
    rcases List.mem_cons.1 hc with rfl | hc
    · decide
    · exact inHeader_of_mem_listText hgap h hc
  rw [elementOf?_wrapped_wrapped htag hstandard hbegin hin hlt, hheader]

/-- An element with a list declares a method with the parameters that are read from what is put
together, or nothing if that is no list. -/
theorem extractDeclarations_listText (hdeclares : declaresMember isDefined (lower tag) = true)
    (hreserved : isReservedName (memberName tag) = false) (hgap : ∀ c ∈ gap, isGap c = true)
    (h : ∀ l ∈ ls, l.isPlain = true) (hamp : '&' ∉ body.toList) {σ : Type}
    (evaluate : Evaluator σ) (s : σ) :
    (extractDeclarations evaluate isDefined
        (⟨"x-d", [], [.element (lower tag) (bareAttributes (' ' :: listText gap ls))
          (textNodes body.toList)]⟩, s)).1 =
      match openParameters (groupOf gap ls) with
      | .ok ps => .ok (Declarations.keptAs [⟨memberName tag, .method ps (trim body)⟩])
      | .error fault => .error (.malformedParameters (lower tag) fault) := by
  have hbody : decode body.toList = body.toList := by
    have happend := decode_append_of_not_mem hamp []
    rwa [List.append_nil, decode_nil, List.append_nil] at happend
  have hdeclare : Site.declare evaluate (.element 0 ⟨lower tag,
      bareAttributes (' ' :: listText gap ls), textNodes body.toList⟩) =
      declare evaluate (lower tag) (keptWords gap ls) (trim body) := by
    rw [Site.declare, declareElement, Element.attributeNames, names_bareAttributes_listText,
      Element.textContent, textContents_textNodes, hbody, String.ofList_toList]
  rw [extractDeclarations_of_site (classify_singleton hdeclares "x-d" [] _ _) rfl, hdeclare,
    declare_keptWords hreserved hgap h]
  cases openParameters (groupOf gap ls) <;> rfl

/-- Whatever the white space in a parameter list, the parameters are those of the list if no word of
it comes twice, and else they are not. -/
theorem extractDeclarations_parameterList (htag : isTagName tag.toList = true)
    (hdeclares : declaresMember isDefined (lower tag) = true)
    (hreserved : isReservedName (memberName tag) = false) (hgap : ∀ c ∈ gap, isGap c = true)
    (h : ∀ l ∈ ls, l.isPlain = true) (hlt : '<' ∉ body.toList) (hamp : '&' ∉ body.toList) :
    ∃ element,
      elementOf? (wrapped "x-d" "" (wrapped tag (String.ofList (' ' :: listText gap ls)) body)) =
          some element ∧
        ∀ {σ : Type} (evaluate : Evaluator σ) (s : σ),
          (extractDeclarations evaluate isDefined (element, s)).1 =
              .ok (Declarations.keptAs
                [⟨memberName tag, .method (namesOf ls) (trim body)⟩]) ↔
            DistinctWords gap ls := by
  have hstandard : isStandard (lower tag) = false := by
    simp only [declaresMember, Bool.and_eq_true, Bool.not_eq_true'] at hdeclares
    exact hdeclares.1
  refine ⟨_, elementOf?_listText htag hstandard hgap h hlt, fun evaluate s => ?_⟩
  rw [extractDeclarations_listText hdeclares hreserved hgap h hamp,
    ← openParameters_groupOf_iff hgap h]
  cases openParameters (groupOf gap ls) with
  | error fault => exact ⟨nofun, nofun⟩
  | ok ps =>
      constructor
      · intro heq
        have hentries := congrArg KeyedList.entries (Except.ok.inj heq)
        have hps : ps = namesOf ls := by
          simpa [Declarations.keptAs, Declarations.add] using hentries
        rw [hps]
      · intro heq
        cases heq
        rfl

/-- `( first,⏎ $second )`. -/
def twoLines : List Listed :=
  [⟨[' '], "first".toList, []⟩, ⟨['\n', ' '], "$second".toList, [' ']⟩]

theorem extractDeclarations_parameterList_twoLines :
    DistinctWords [] twoLines ∧ ∃ element,
      elementOf? (wrapped "x-d" ""
        (wrapped "Print-sum" (String.ofList (' ' :: listText [] twoLines)) " sum ")) =
          some element ∧
        ∀ {σ : Type} (evaluate : Evaluator σ) (s : σ),
          (extractDeclarations evaluate (fun _ => false) (element, s)).1 =
            .ok (Declarations.keptAs [⟨"printSum", .method ["first", "$second"] "sum"⟩]) := by
  have hdistinct : DistinctWords [] twoLines := by decide +kernel
  obtain ⟨element, helement, hextract⟩ :=
    @extractDeclarations_parameterList "Print-sum" " sum " [] twoLines (fun _ => false)
      (by decide) (by decide +kernel) (by decide +kernel) (by simp) (by decide) (by decide)
      (by decide)
  exact ⟨hdistinct, element, helement, fun evaluate s => (hextract evaluate s).2 hdistinct⟩

/-- `(a , b , c)`. -/
def looseCommas : List Listed :=
  [⟨[], ['a'], [' ']⟩, ⟨[' '], ['b'], [' ']⟩, ⟨[' '], ['c'], []⟩]

/-- A second comma between gaps is lost. -/
theorem extractDeclarations_looseCommas :
    ∃ element, elementOf? "<x-d><m (a , b , c)>x</m></x-d>" = some element ∧
      ∀ {σ : Type} (evaluate : Evaluator σ) (s : σ),
        (extractDeclarations evaluate (fun _ => false) (element, s)).1 =
          .error (.malformedParameters "m" (.invalidName "b c")) := by
  have hplain : ∀ l ∈ looseCommas, l.isPlain = true := by decide
  have htext : wrapped "x-d" "" (wrapped "m" (String.ofList (' ' :: listText [] looseCommas)) "x") =
      "<x-d><m (a , b , c)>x</m></x-d>" := by decide +kernel
  have hread : openParameters (groupOf [] looseCommas) = .error (.invalidName "b c") := by
    decide +kernel
  have hlower : lower "m" = "m" := by decide +kernel
  refine ⟨_, htext ▸ elementOf?_listText (by decide) (by decide +kernel) (by simp) hplain
    (by decide), fun evaluate s => ?_⟩
  rw [extractDeclarations_listText (by decide +kernel) (by decide +kernel) (by simp) hplain
    (by decide), hread, hlower]

end element

end Componentry
