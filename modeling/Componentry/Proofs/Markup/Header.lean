import Componentry.Proofs.Markup.RoundTrip
import Componentry.Proofs.Text.Words

/-!
# Tags with words behind the name

A start tag may have nothing but words behind its name. Each word becomes an attribute without
value, unless an earlier word is the same but for the case of its letters: `attributes?_words` says
that the attributes have the `firstNames` of the words. Whether a tag is in upper or lower case, its
name is kept in lower case, and so its end tag is found.
-/

namespace Componentry.Markup

open Componentry.Text

/-- The names that are no repetition of a name before them, those in `seen` included. -/
def firstNames (seen : List String) : List String → List String
  | [] => []
  | n :: ns =>
    if seen.any (sameName · n) then firstNames seen ns else n :: firstNames (seen ++ [n]) ns

section firstNames

variable {seen names : List String}

theorem firstNames_sublist (seen names : List String) :
    (firstNames seen names).Sublist names := by
  induction names generalizing seen with
  | nil => exact List.Sublist.refl _
  | cons n ns ih =>
      rw [firstNames]
      split
      · exact (ih seen).cons n
      · exact (ih (seen ++ [n])).cons_cons n

/-- No two of the names that are kept are the same. -/
theorem pairwise_firstNames (seen names : List String) :
    (∀ a ∈ seen, ∀ b ∈ firstNames seen names, sameName a b = false) ∧
      (firstNames seen names).Pairwise (sameName · · = false) := by
  induction names generalizing seen with
  | nil => exact ⟨fun _ _ _ hb => absurd hb List.not_mem_nil, List.Pairwise.nil⟩
  | cons n ns ih =>
      rw [firstNames]
      split
      · exact ih seen
      · next hnew =>
          obtain ⟨hseen, hdistinct⟩ := ih (seen ++ [n])
          rw [Bool.not_eq_true, List.any_eq_false] at hnew
          refine ⟨fun a ha b hb => ?_, List.pairwise_cons.2 ⟨fun b hb => ?_, hdistinct⟩⟩
          · rcases List.mem_cons.1 hb with rfl | hb
            · simpa using hnew a ha
            · exact hseen a (List.mem_append_left _ ha) b hb
          · exact hseen n (List.mem_append_right _ (List.mem_singleton_self n)) b hb

/-- A name that differs from all before it is kept. -/
theorem firstNames_concat {n : String} (h : ∀ a ∈ seen ++ names, sameName a n = false) :
    firstNames seen (names ++ [n]) = firstNames seen names ++ [n] := by
  induction names generalizing seen with
  | nil =>
      have hnew : seen.any (sameName · n) = false :=
        List.any_eq_false.2 fun a ha => by simp [h a (List.mem_append_left _ ha)]
      simp [firstNames, hnew]
  | cons m ms ih =>
      rw [List.cons_append, firstNames, firstNames]
      split
      · refine ih fun a ha => h a ?_
        rcases List.mem_append.1 ha with ha | ha
        · exact List.mem_append_left _ ha
        · exact List.mem_append_right _ (List.mem_cons_of_mem m ha)
      · rw [ih fun a ha => h a (by simpa [or_assoc] using ha)]
        rfl

/-- All names are kept if they differ from each other. -/
theorem firstNames_eq_self (h : (seen ++ names).Pairwise (sameName · · = false)) :
    firstNames seen names = names := by
  induction names generalizing seen with
  | nil => rfl
  | cons n ns ih =>
      have hnew : seen.any (sameName · n) = false :=
        List.any_eq_false.2 fun a ha => by
          simp [(List.pairwise_append.1 h).2.2 a ha n List.mem_cons_self]
      have hrest : ((seen ++ [n]) ++ ns).Pairwise (sameName · · = false) := by
        rwa [List.append_assoc, List.singleton_append]
      simp [firstNames, hnew, ih hrest]

/-- A repetition is dropped. -/
theorem firstNames_eq_self_iff :
    firstNames [] names = names ↔ names.Pairwise (sameName · · = false) :=
  ⟨fun h => h ▸ (pairwise_firstNames [] names).2,
    fun h => firstNames_eq_self (by rwa [List.nil_append])⟩

end firstNames

def bare (name : String) : Attribute := ⟨name, none⟩

theorem addAttribute_bare (read : List Attribute) (n : String) :
    addAttribute read (bare n) =
      if (read.map Attribute.name).any (sameName · n) then read else read ++ [bare n] := by
  rw [List.any_map]
  rfl

def inHeader (c : Char) : Bool := isGap c || continuesName c

variable {header : List Char}

theorem isGap_eq_false_of_continuesName {c : Char} (h : continuesName c = true) :
    isGap c = false := by
  simp only [continuesName, continuesTag, Bool.and_eq_true, Bool.not_eq_true'] at h
  exact isGap_of_isBlank_eq_false h.1.1.1

theorem continuesTag_eq_false_of_isGap {c : Char} (h : isGap c = true) :
    continuesTag c = false := by
  simp [continuesTag, isBlank_of_isAsciiBlank (isAsciiBlank_of_isGap h)]

/-- Behind the blanks after a word no equals sign comes. -/
theorem dropWhile_isGap_ne {rest : List Char} (h : ∀ c ∈ rest, inHeader c = true)
    (r v : List Char) : (rest ++ '>' :: r).dropWhile isGap ≠ '=' :: v := by
  induction rest with
  | nil =>
      rw [List.nil_append, List.dropWhile_cons_of_neg (by decide)]
      exact fun heq => absurd (List.cons.inj heq).1 (by decide)
  | cons c rest ih =>
      have hc := h c List.mem_cons_self
      by_cases hgap : isGap c = true
      · rw [List.cons_append, List.dropWhile_cons_of_pos hgap]
        exact ih fun d hd => h d (List.mem_cons_of_mem c hd)
      · rw [List.cons_append, List.dropWhile_cons_of_neg hgap]
        rintro heq
        rw [(List.cons.inj heq).1] at hc
        exact absurd hc (by decide)

/-- One pass reads a word with nothing but words behind it. -/
theorem pass_word {c : Char} {w rest : List Char} (hw : ∀ d ∈ c :: w, continuesName d = true)
    (hend : AtWordEnd isGap rest) (hrest : ∀ d ∈ rest, inHeader d = true) (r : List Char) :
    pass (c :: w ++ (rest ++ '>' :: r)) =
      .attribute (bare (String.ofList (c :: w))) (rest ++ '>' :: r) := by
  have hne : ∀ d, continuesName d = false → c ≠ d := by
    rintro d hd rfl
    exact absurd (hw c List.mem_cons_self) (Bool.eq_false_iff.1 hd)
  obtain ⟨d, t, ht, hd⟩ : ∃ d t, rest ++ '>' :: r = d :: t ∧ continuesName d = false := by
    cases rest with
    | nil => exact ⟨'>', r, rfl, by decide⟩
    | cons d t =>
        have hgap : isGap d = true := hend d rfl
        exact ⟨d, _, rfl, by simp [continuesName, continuesTag_eq_false_of_isGap hgap]⟩
  have hscan : scanName (c :: w ++ (rest ++ '>' :: r)) = (c :: w, rest ++ '>' :: r) := by
    have hself : scanName (c :: w ++ d :: t) =
        ((c :: w ++ d :: t).takeWhile continuesName,
          (c :: w ++ d :: t).dropWhile continuesName) := by
      unfold scanName
      split
      · next heq => exact absurd (List.cons.inj heq).1 (hne '=' (by decide))
      · rfl
    rw [ht, hself, takeWhile_append_cons hw hd, dropWhile_append_cons hw hd]
  have hattribute : scanAttribute (c :: w ++ (rest ++ '>' :: r)) =
      (bare (String.ofList (c :: w)), rest ++ '>' :: r) := by
    rw [scanAttribute, hscan]
    simp only
    split
    · next v hv => exact absurd hv (dropWhile_isGap_ne hrest r v)
    · rfl
  rw [List.cons_append] at hattribute ⊢
  rw [pass_of_ne (hne '/' (by decide)) (hne '>' (by decide)), hattribute]

theorem dropWhile_append_close (header r : List Char) :
    (header ++ '>' :: r).dropWhile isGap = header.dropWhile isGap ++ '>' :: r := by
  rw [List.dropWhile_append]
  split
  · next hnil =>
      rw [List.isEmpty_iff.1 hnil]
      exact List.dropWhile_cons_of_neg (by decide)
  · rfl

/-- After its gaps a header begins with a word. -/
theorem exists_word_of_header (h : ∀ c ∈ header, inHeader c = true) {c : Char} {t : List Char}
    (hs : header.dropWhile isGap = c :: t) :
    ∃ w rest, t = w ++ rest ∧ (∀ d ∈ c :: w, continuesName d = true) ∧ AtWordEnd isGap rest ∧
      ∀ d ∈ rest, inHeader d = true := by
  have hmem : ∀ d ∈ c :: t, inHeader d = true := fun d hd =>
    h d ((List.dropWhile_sublist isGap).subset (hs ▸ hd))
  have hgap : isGap c = false := by
    have hhead := List.head?_dropWhile_not isGap header
    rw [hs] at hhead
    simpa using hhead
  obtain ⟨w, rest, rfl, hw, hend⟩ := exists_word_append (p := isGap) t
  refine ⟨w, rest, rfl, ?_, hend, fun d hd => hmem d (List.mem_append_right (c :: w) hd)⟩
  intro d hd
  have hin := hmem d (List.mem_append_left rest hd)
  have hsolid : isGap d = false := by
    rcases List.mem_cons.1 hd with rfl | hd
    · exact hgap
    · exact hw d hd
  simpa [inHeader, hsolid] using hin

/-- The words of a header become attributes without value, those that are no repetitions. -/
theorem attributes?_words (h : ∀ c ∈ header, inHeader c = true) (read : List Attribute)
    (r : List Char) :
    attributes? read (header ++ '>' :: r) =
      some (read ++ (firstNames (read.map Attribute.name)
        ((wordsBy isGap header).map String.ofList)).map bare, false, r) := by
  -- A pass takes the blanks and one word, so the induction is on the length.
  induction hn : header.length using Nat.strong_induction_on generalizing header read with
  | _ n ih =>
      have hpass := dropWhile_append_close header r
      have hle := length_dropWhile_le isGap header
      rw [← wordsBy_dropWhile]
      cases hs : header.dropWhile isGap with
      | nil =>
          have hclose : pass ((header ++ '>' :: r).dropWhile isGap) = .close false r := by
            rw [hpass, hs]
            rfl
          rw [attributes?_of_close hclose]
          simp [firstNames]
      | cons c t =>
          obtain ⟨w, rest, rfl, hword, hend, hrest⟩ := exists_word_of_header h hs
          rw [hs] at hpass hle
          have hread := pass_word hword hend hrest r
          rw [← List.append_assoc, List.cons_append, ← hpass] at hread
          have hsolid : ∀ d ∈ c :: w, isGap d = false := fun d hd =>
            isGap_eq_false_of_continuesName (hword d hd)
          have hwords : wordsBy isGap (c :: (w ++ rest)) = (c :: w) :: wordsBy isGap rest :=
            wordsBy_append (List.cons_ne_nil c w) hsolid hend
          have hshorter : rest.length < header.length := by
            simp only [List.length_cons, List.length_append] at hle
            omega
          have hlt : (rest ++ '>' :: r).length < (header ++ '>' :: r).length := by
            simpa using hshorter
          rw [attributes?_of_attribute hread hlt, ih rest.length (hn ▸ hshorter) hrest _ rfl,
            addAttribute_bare, hwords, List.map_cons, firstNames]
          split
          · rfl
          · simp [bare]

def bareAttributes (header : List Char) : List Attribute :=
  (firstNames [] ((wordsBy isGap header).map String.ofList)).map bare

/-- A letter, and then no blank, no slash and no `>`. -/
def isTagName : List Char → Bool
  | [] => false
  | c :: cs => c.isAlpha && cs.all continuesTag

section tokens

variable {tag text : List Char}

theorem exists_cons_of_isTagName (h : isTagName tag = true) :
    ∃ c cs, tag = c :: cs ∧ c.isAlpha = true ∧ ∀ d ∈ cs, continuesTag d = true := by
  cases tag with
  | nil => exact absurd h Bool.false_ne_true
  | cons c cs =>
      rw [isTagName, Bool.and_eq_true, List.all_eq_true] at h
      exact ⟨c, cs, rfl, h⟩

theorem tagName?_append (h : isTagName tag = true) {c : Char} (hc : continuesTag c = false)
    (r : List Char) : tagName? (tag ++ c :: r) = some (tag.map Char.toLower, c :: r) := by
  obtain ⟨d, cs, rfl, halpha, hcs⟩ := exists_cons_of_isTagName h
  exact tagName?_cons_append halpha hcs hc r

/-- The name of a tag ends where its header begins, or the tag ends. -/
theorem exists_cons_of_atWordEnd (h : AtWordEnd isGap header) (r : List Char) :
    ∃ c t, header ++ '>' :: r = c :: t ∧ continuesTag c = false := by
  cases header with
  | nil => exact ⟨'>', r, rfl, by decide⟩
  | cons c t => exact ⟨c, _, rfl, continuesTag_eq_false_of_isGap (h c rfl)⟩

/-- A start tag with a header of words. -/
theorem tokens?_open (htag : isTagName tag = true) (hbegin : AtWordEnd isGap header)
    (hheader : ∀ c ∈ header, inHeader c = true)
    (hraw : isRaw (String.ofList (tag.map Char.toLower)) = false) (r : List Char) :
    tokens? ('<' :: (tag ++ (header ++ '>' :: r))) =
      (tokens? r).map
        (.startTag (String.ofList (tag.map Char.toLower)) (bareAttributes header) false :: ·) := by
  obtain ⟨c, cs, hcons, halpha, -⟩ := exists_cons_of_isTagName htag
  obtain ⟨d, t, ht, hd⟩ := exists_cons_of_atWordEnd hbegin r
  have hname : tagName? (tag ++ (header ++ '>' :: r)) =
      some (tag.map Char.toLower, header ++ '>' :: r) := by
    rw [ht]
    exact tagName?_append htag hd t
  have hscan : scanToken? '<' (tag ++ (header ++ '>' :: r)) =
      some (.startTag (String.ofList (tag.map Char.toLower)) (bareAttributes header) false, r) := by
    rw [scanToken?, if_pos rfl]
    rw [hcons, List.cons_append] at hname ⊢
    rw [scanMarkup?_of_isAlpha halpha, hname]
    simp only [attributes?_words hheader, Option.map_some, List.map_nil, List.nil_append]
    rfl
  exact tokens?_cons_of_plain hscan (by simp [Token.rawEnd?, hraw])

theorem tokens?_close (h : isTagName tag = true) (r : List Char) :
    tokens? ('<' :: '/' :: (tag ++ '>' :: r)) =
      (tokens? r).map (.endTag (String.ofList (tag.map Char.toLower)) :: ·) := by
  have hscan : scanToken? '<' ('/' :: (tag ++ '>' :: r)) =
      some (.endTag (String.ofList (tag.map Char.toLower)), r) := by
    rw [scanToken?, if_pos rfl, scanMarkup?, scanEndTag, tagName?_append h (by decide)]
    simp only [untilClose_cons]
  exact tokens?_cons_of_plain hscan rfl

def textTokens (text : List Char) : List Token := if text = [] then [] else [.text text]

theorem tokens?_text (h : '<' ∉ text) {r : List Char} (hr : AtMarkup r) :
    tokens? (text ++ r) = (tokens? r).map (textTokens text ++ ·) := by
  cases text with
  | nil => simp [textTokens]
  | cons c cs => exact tokens?_cons_of_plain (scanToken?_text h hr) rfl

end tokens

def textNodes (text : List Char) : List Node :=
  if text = [] then [] else [.text (String.ofList (decode text))]

theorem textContents_textNodes (text : List Char) :
    Node.textContents (textNodes text) = String.ofList (decode text) := by
  unfold textNodes
  split
  · next h => simp [h, decode_nil, Node.textContents]
  · simp [Node.textContents, Node.textContent]

def wrapped (tag header content : String) : String :=
  "<" ++ tag ++ header ++ ">" ++ content ++ "</" ++ tag ++ ">"

theorem toList_wrapped (tag header content : String) (r : List Char) :
    (wrapped tag header content).toList ++ r =
      '<' :: (tag.toList ++ (header.toList ++ '>' :: (content.toList ++
        '<' :: '/' :: (tag.toList ++ '>' :: r)))) := by
  simp [wrapped]

/-- The tokens of an element with a header of words and with text. -/
theorem tokens?_wrapped {tag header content : String} (htag : isTagName tag.toList = true)
    (hbegin : AtWordEnd isGap header.toList) (hheader : ∀ c ∈ header.toList, inHeader c = true)
    (hraw : isRaw (lower tag) = false) (hcontent : '<' ∉ content.toList) (r : List Char) :
    tokens? ((wrapped tag header content).toList ++ r) =
      (tokens? r).map fun ts => .startTag (lower tag) (bareAttributes header.toList) false ::
        (textTokens content.toList ++ .endTag (lower tag) :: ts) := by
  rw [toList_wrapped, tokens?_open htag hbegin hheader hraw,
    tokens?_text hcontent (.inr ⟨_, rfl⟩), tokens?_close htag, Option.map_map, Option.map_map]
  rfl

namespace Builder

theorem foldl_textTokens {b : Builder} (h : b.siblings = []) (text : List Char) :
    (textTokens text).foldl step b = b.onSiblings (· ++ textNodes text) := by
  unfold textTokens textNodes
  split
  · exact (onSiblings_append_nil b).symm
  · exact onSiblings_addText (by rw [h]; rfl) _

/-- The tokens of an element with text add it to the siblings that a builder is at. -/
theorem foldl_wrapped {b : Builder} {tag : String} (hvoid : isVoid tag = false)
    (hlt : b.opened.length < depthLimit) (attributes : List Attribute) (text : List Char) :
    (.startTag tag attributes false :: (textTokens text ++ [.endTag tag])).foldl step b =
      b.onSiblings (· ++ [.element tag attributes (textNodes text)]) := by
  rw [List.foldl_cons, step_startTag_of_lt hvoid hlt, List.foldl_append, foldl_textTokens rfl]
  exact step_endTag_opened b tag attributes (textNodes text)

end Builder

/-- What is in the only element of a text is built from the tokens in it. -/
theorem elementOf?_wrapped {content : String} {ts : List Token} {children : List Node}
    (htokens : ∀ r, AtMarkup r → tokens? (content.toList ++ r) = (tokens? r).map (ts ++ ·))
    (hfold : ts.foldl Builder.step ⟨[⟨"x-d", [], []⟩], []⟩ =
      Builder.onSiblings (· ++ children) ⟨[⟨"x-d", [], []⟩], []⟩) :
    elementOf? (wrapped "x-d" "" content) = some ⟨"x-d", [], children⟩ := by
  have htag : isTagName "x-d".toList = true := by decide
  have hread : tokens? (wrapped "x-d" "" content).toList =
      some (.startTag "x-d" [] false :: (ts ++ [.endTag "x-d"])) := by
    have hopen := @tokens?_open "".toList _ htag AtWordEnd.nil nofun (by decide +kernel)
    rw [← List.append_nil (wrapped _ _ _).toList, toList_wrapped, hopen,
      htokens _ (.inr ⟨_, rfl⟩), tokens?_close htag, tokens?]
    rfl
  have hopen : Builder.start.step (.startTag "x-d" [] false) = ⟨[⟨"x-d", [], []⟩], []⟩ :=
    Builder.step_startTag_of_lt (by decide +kernel) (by decide) []
  have hclose := Builder.step_endTag_opened .start "x-d" [] children
  have hforest : forestOf (.startTag "x-d" [] false :: (ts ++ [.endTag "x-d"])) =
      [.element "x-d" [] children] := by
    rw [forestOf, List.foldl_cons, hopen, List.foldl_append, hfold, List.foldl_cons,
      List.foldl_nil]
    exact congrArg Builder.finish hclose
  rw [elementOf?, forest, forest?, hread, Option.map_some, hforest]
  rfl

/-- The void elements and the raw ones are standard elements. -/
theorem isVoid_and_isRaw_of_not_isStandard {tag : String} (h : isStandard tag = false) :
    isVoid tag = false ∧ isRaw tag = false := by
  have hvoid : ∀ t ∈ voidElements, t ∈ standardElements := by decide +kernel
  have hraw : ∀ t ∈ rawElements, t ∈ standardElements := by decide +kernel
  simp only [isStandard, isVoid, isRaw, isAmong, ← Bool.not_eq_true, List.contains_iff_mem] at *
  exact ⟨mt (hvoid _) h, mt (hraw _) h⟩

/-- An element in the only element of a text, with a header of words and with text. -/
theorem elementOf?_wrapped_wrapped {tag header content : String}
    (htag : isTagName tag.toList = true) (hstandard : isStandard (lower tag) = false)
    (hbegin : AtWordEnd isGap header.toList) (hheader : ∀ c ∈ header.toList, inHeader c = true)
    (hcontent : '<' ∉ content.toList) :
    elementOf? (wrapped "x-d" "" (wrapped tag header content)) =
      some ⟨"x-d", [], [.element (lower tag) (bareAttributes header.toList)
        (textNodes content.toList)]⟩ := by
  obtain ⟨hvoid, hraw⟩ := isVoid_and_isRaw_of_not_isStandard hstandard
  refine elementOf?_wrapped (fun r _ => ?_)
    (Builder.foldl_wrapped hvoid (by decide) (bareAttributes header.toList) content.toList)
  rw [tokens?_wrapped htag hbegin hheader hraw hcontent]
  simp

end Componentry.Markup
