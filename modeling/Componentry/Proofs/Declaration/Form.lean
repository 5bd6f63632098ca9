import Componentry.Proofs.Declaration.Extraction
import Componentry.Proofs.Declaration.Name
import Componentry.Proofs.Markup.Header
import Componentry.Proofs.Text.Blank

/-!
# The two forms of a handler

A handler for `n` is declared by an element `on-n` or by a block `@n`. Markup knows nothing of
blocks: it reads the opening of one as text and its end as a comment, while the element has its
header read as attributes and its name in lower case. `extractDeclarations_block` says that the same
comes of both, for every header of distinct pieces and every text.
-/

namespace Componentry

open Markup Text

def spaced (pieces : List String) : String :=
  String.ofList (pieces.flatMap fun p => ' ' :: p.toList)

def isPiece (p : String) : Bool :=
  p ≠ "" && p.toList.all fun c => continuesName c && c != '<' && c != '&'

def isHandlerName (n : String) : Bool := n ≠ "" && n.toList.all fun c => c.isAlphanum || c == '-'

section pieces

variable {pieces : List String}

theorem toList_spaced (pieces : List String) :
    (spaced pieces).toList = pieces.flatMap fun p => ' ' :: p.toList := String.toList_ofList

/-- The words of a header are the pieces that it is made of. -/
theorem wordsBy_spaced {p : Char → Bool} (hblank : p ' ' = true)
    (h : ∀ x ∈ pieces, x.toList ≠ [] ∧ ∀ c ∈ x.toList, p c = false) :
    wordsBy p (spaced pieces).toList = pieces.map String.toList := by
  rw [toList_spaced]
  induction pieces with
  | nil => rfl
  | cons x xs ih =>
      obtain ⟨hne, hx⟩ := h x List.mem_cons_self
      have hend : AtWordEnd p (xs.flatMap fun y => ' ' :: y.toList) := by
        cases xs with
        | nil => exact AtWordEnd.nil
        | cons y ys => exact AtWordEnd.cons hblank _
      rw [List.flatMap_cons, List.cons_append, wordsBy_cons_separator _ hblank,
        wordsBy_append hne hx hend, ih fun y hy => h y (List.mem_cons_of_mem x hy)]
      rfl

theorem isPiece_iff {x : String} : isPiece x = true ↔
    x.toList ≠ [] ∧ ∀ c ∈ x.toList, continuesName c = true ∧ c ≠ '<' ∧ c ≠ '&' := by
  simp [isPiece, and_assoc]

theorem isBlank_eq_false_of_continuesName {c : Char} (h : continuesName c = true) :
    isBlank c = false := by
  simp only [continuesName, continuesTag, Bool.and_eq_true, Bool.not_eq_true'] at h
  exact h.1.1.1

/-- What stands in a header of pieces. -/
theorem mem_spaced (h : ∀ x ∈ pieces, isPiece x = true) {c : Char}
    (hc : c ∈ (spaced pieces).toList) :
    c = ' ' ∨ (continuesName c = true ∧ c ≠ '<' ∧ c ≠ '&') := by
  rw [toList_spaced, List.mem_flatMap] at hc
  obtain ⟨x, hx, hc⟩ := hc
  rcases List.mem_cons.1 hc with rfl | hc
  · exact Or.inl rfl
  · exact Or.inr ((isPiece_iff.1 (h x hx)).2 c hc)

theorem atWordEnd_spaced (pieces : List String) : AtWordEnd isGap (spaced pieces).toList := by
  rw [toList_spaced]
  cases pieces with
  | nil => exact AtWordEnd.nil
  | cons x xs => exact AtWordEnd.cons (by decide) _

/-- The attributes of a header of pieces have these as their names. -/
theorem names_bareAttributes_spaced (h : ∀ x ∈ pieces, isPiece x = true)
    (hdistinct : pieces.Pairwise (sameName · · = false)) :
    (bareAttributes (spaced pieces).toList).map Attribute.name = pieces := by
  have hwords : wordsBy isGap (spaced pieces).toList = pieces.map String.toList := by
    refine wordsBy_spaced (by decide) fun x hx => ?_
    obtain ⟨hne, hall⟩ := isPiece_iff.1 (h x hx)
    exact ⟨hne, fun c hc => isGap_eq_false_of_continuesName (hall c hc).1⟩
  rw [bareAttributes, hwords, List.map_map, List.map_map]
  have hself : pieces.map (String.ofList ∘ String.toList) = pieces := by
    simp [Function.comp_def]
  have hname : Attribute.name ∘ bare = id := rfl
  rw [hself, hname, List.map_id, firstNames_eq_self_iff.2 hdistinct]

end pieces

section handler

variable {n : String}

theorem isHandlerName_iff : isHandlerName n = true ↔
    n.toList ≠ [] ∧ ∀ c ∈ n.toList, c.isAlphanum = true ∨ c = '-' := by
  simp [isHandlerName]

/-- No standard element is named as a handler. -/
theorem isStandard_handler (n : String) : isStandard (lower ("on-" ++ n)) = false := by
  have hprefix : ∀ t ∈ standardElements, t.toList.take 3 ≠ "on-".toList := by decide +kernel
  rw [isStandard, isAmong, ← Bool.not_eq_true, List.contains_iff_mem]
  intro hmem
  refine hprefix _ hmem ?_
  simp

/-- The opening of a block between `<` and `>`. -/
def blockHeader (n : String) (pieces : List String) : List Char :=
  '@' :: (n.toList ++ (spaced pieces).toList)

/-- There is no markup in the opening of a block, and no `>`. -/
theorem ne_of_mem_blockHeader (hn : isHandlerName n = true) {pieces : List String}
    (hpieces : ∀ x ∈ pieces, isPiece x = true) {c : Char} (hc : c ∈ blockHeader n pieces) :
    c ≠ '<' ∧ c ≠ '&' ∧ c ≠ '>' := by
  have hname : ∀ {d : Char}, continuesName d = true → d ≠ '>' := by
    rintro d hd rfl
    exact absurd hd (by decide)
  rcases List.mem_cons.1 hc with rfl | hc
  · decide
  rcases List.mem_append.1 hc with hc | hc
  · obtain ⟨hcont, hlt, hamp⟩ := continuesName_of_isAlphanum ((isHandlerName_iff.1 hn).2 c hc)
    exact ⟨hlt, hamp, hname hcont⟩
  · rcases mem_spaced hpieces hc with rfl | ⟨hcont, hlt, hamp⟩
    · decide
    · exact ⟨hlt, hamp, hname hcont⟩

def blockText (n : String) (pieces : List String) (content : List Char) : List Char :=
  blockHeader n pieces ++ '>' :: content

theorem tokens?_lessThan (s : List Char) :
    tokens? ('<' :: '@' :: s) = (tokens? ('@' :: s)).map (.text ['<'] :: ·) :=
  tokens?_cons_of_plain (by rfl) rfl

theorem tokens?_blockEnd (h : '>' ∉ n.toList) (r : List Char) :
    tokens? ('<' :: '/' :: '@' :: (n.toList ++ '>' :: r)) =
      (tokens? r).map (.comment ('@' :: n.toList) :: ·) := by
  have hclose : untilClose ('@' :: (n.toList ++ '>' :: r)) = ('@' :: n.toList, r) := by
    have hbreak := breakOn?_singleton_append (c := '>') (a := '@' :: n.toList) (by simpa using h) r
    rw [List.cons_append] at hbreak
    rw [untilClose, hbreak]
    rfl
  have hscan : scanToken? '<' ('/' :: '@' :: (n.toList ++ '>' :: r)) =
      some (.comment ('@' :: n.toList), r) := by
    have hname : tagName? ('@' :: (n.toList ++ '>' :: r)) = none := rfl
    rw [scanToken?, if_pos rfl, scanMarkup?, scanEndTag, hname, hclose]
    rfl
  exact tokens?_cons_of_plain hscan rfl

theorem tokens?_block (hn : isHandlerName n = true) {pieces : List String}
    (hpieces : ∀ x ∈ pieces, isPiece x = true) {content : String}
    (hcontent : '<' ∉ content.toList) (r : List Char) :
    tokens? ((wrapped ("@" ++ n) (spaced pieces) content).toList ++ r) =
      (tokens? r).map ([.text ['<'], .text (blockText n pieces content.toList),
        .comment ('@' :: n.toList)] ++ ·) := by
  have hheader : ∀ {c}, c ∈ blockHeader n pieces → c ≠ '<' ∧ c ≠ '&' ∧ c ≠ '>' :=
    ne_of_mem_blockHeader hn hpieces
  have htext : '<' ∉ blockText n pieces content.toList := by
    simp only [blockText, List.mem_append, List.mem_cons, not_or]
    exact ⟨fun h => (hheader h).1 rfl, by decide, hcontent⟩
  have hclose : '>' ∉ n.toList := fun h =>
    (hheader (List.mem_cons_of_mem '@' (List.mem_append_left _ h))).2.2 rfl
  have hsplit : (wrapped ("@" ++ n) (spaced pieces) content).toList ++ r =
      '<' :: (blockText n pieces content.toList ++
        '<' :: '/' :: '@' :: (n.toList ++ '>' :: r)) := by
    rw [toList_wrapped]
    simp [blockText, blockHeader]
  have hless := tokens?_lessThan (n.toList ++ (spaced pieces).toList ++ '>' :: content.toList ++
    '<' :: '/' :: '@' :: (n.toList ++ '>' :: r))
  have hcons : ∀ s, blockText n pieces content.toList ++ s =
      '@' :: (n.toList ++ (spaced pieces).toList ++ '>' :: content.toList ++ s) := fun s => rfl
  rw [hsplit, hcons, hless, ← hcons, tokens?_text htext (.inr ⟨_, rfl⟩), tokens?_blockEnd hclose,
    Option.map_map, Option.map_map]
  rfl

/-- The text that opens a block, as it stands in the tree. -/
def blockOpening (n : String) (pieces : List String) (content : List Char) : String :=
  String.ofList ('<' :: blockText n pieces (decode content))

theorem elementOf?_block (hn : isHandlerName n = true) {pieces : List String}
    (hpieces : ∀ x ∈ pieces, isPiece x = true) {content : String}
    (hcontent : '<' ∉ content.toList) :
    elementOf? (wrapped "x-d" "" (wrapped ("@" ++ n) (spaced pieces) content)) =
      some ⟨"x-d", [], [.text (blockOpening n pieces content.toList), .comment ("@" ++ n)]⟩ := by
  have hdecode : decode (blockText n pieces content.toList) =
      blockText n pieces (decode content.toList) := by
    have hamp : '&' ∉ blockHeader n pieces ++ ['>'] := by
      simp only [List.mem_append, List.mem_singleton, not_or]
      exact ⟨fun h => (ne_of_mem_blockHeader hn hpieces h).2.1 rfl, by decide⟩
    have happend := decode_append_of_not_mem hamp content.toList
    rwa [List.append_assoc, List.append_assoc] at happend
  have hless : decode ['<'] = ['<'] := by rw [decode_cons_of_ne (by decide), decode_nil]
  refine elementOf?_wrapped (fun r _ => tokens?_block hn hpieces hcontent r) ?_
  have hopening :
      String.ofList ['<'] ++ String.ofList (blockText n pieces (decode content.toList)) =
        blockOpening n pieces content.toList := String.ofList_append.symm
  have hmarker : String.ofList ('@' :: n.toList) = "@" ++ n := String.toList_injective (by simp)
  simp only [List.foldl_cons, List.foldl_nil, Builder.step, hdecode, hless, hmarker, ← hopening]
  rfl

/-- A block is read from the text that opens it. -/
theorem ofText?_blockOpening (hn : isHandlerName n = true) {pieces : List String}
    (hpieces : ∀ x ∈ pieces, isPiece x = true) (content : List Char) :
    Block.ofText? (blockOpening n pieces content) =
      some ⟨n, pieces, String.ofList (trimmed (decode content))⟩ := by
  obtain ⟨hne, hname⟩ := isHandlerName_iff.1 hn
  have hopens : trimStart (blockOpening n pieces content).toList =
      '<' :: '@' :: ((n.toList ++ (spaced pieces).toList) ++ '>' :: decode content) := by
    rw [blockOpening, String.toList_ofList]
    rfl
  have hfree : '>' ∉ n.toList ++ (spaced pieces).toList := fun h =>
    (ne_of_mem_blockHeader hn hpieces (List.mem_cons_of_mem '@' h)).2.2 rfl
  have hwords : wordsBy isAsciiBlank (n.toList ++ (spaced pieces).toList) =
      n.toList :: pieces.map String.toList := by
    have hsolid : ∀ {c}, continuesName c = true → isAsciiBlank c = false := fun h =>
      isAsciiBlank_eq_false (isBlank_eq_false_of_continuesName h)
    rw [wordsBy_append hne (fun c hc => hsolid (continuesName_of_isAlphanum (hname c hc)).1)
        (fun c hc => isAsciiBlank_of_isGap (atWordEnd_spaced pieces c hc)),
      wordsBy_spaced (by decide) fun x hx => ?_]
    obtain ⟨hne, hall⟩ := isPiece_iff.1 (hpieces x hx)
    exact ⟨hne, fun c hc => hsolid (hall c hc).1⟩
  exact Block.ofText?_eq_some_iff.2 ⟨_, _, hopens, hfree, hwords, rfl⟩

theorem closingName_handler (hn : isHandlerName n = true) : closingName ("@" ++ n) = n := by
  have hblank : ∀ c ∈ n.toList, isBlank c = false := fun c hc =>
    isBlank_eq_false_of_continuesName
      (continuesName_of_isAlphanum ((isHandlerName_iff.1 hn).2 c hc)).1
  have hlist : ("@" ++ n).toList = '@' :: n.toList := by simp
  rw [closingName, hlist]
  simp only [trimmed_eq_self hblank, String.ofList_toList]

/-- The block with its end is the only thing that declares in its definition. -/
theorem classify_block (n : String) (pieces : List String) (content : List Char)
    (isDefined : String → Bool) :
    classify isDefined
        ⟨"x-d", [], [.text (blockOpening n pieces content), .comment ("@" ++ n)]⟩ =
      [.pair 0 1 (blockOpening n pieces content) ("@" ++ n)] := by
  have hblank : (Node.text (blockOpening n pieces content)).isBlank = false := by
    have hless : isBlank '<' = false := by decide
    simp [Node.isBlank, isBlankText, blockOpening, hless]
  have hmarker : beginsWith '@' ("@" ++ n) = true := by simp [beginsWith]
  rw [classify, classifyFrom_text _ _ _ _ hblank, classifyFrom_closing _ _ _ hmarker]
  rfl

end handler

section agree

variable {σ α : Type}

/-- Two outcomes are the same result, or both failures, and leave the same state. -/
def Agree (x y : Except DeclarationError α × σ) : Prop :=
  x.1.toOption = y.1.toOption ∧ x.2 = y.2

/-- A tag with one parameter list declares a method, which nothing is computed for. -/
theorem declare_of_marker {tag name : String} {attributes parameters : List String}
    (hname : (checkedName tag).toOption = some name)
    (hmarkers : (markersOf tag (joinMarkers attributes)).toOption = some [parameters])
    (evaluate : Evaluator σ) (text : String) (s : σ) :
    declare evaluate tag attributes text s = (.ok ⟨name, .method parameters text⟩, s) := by
  unfold declare
  simp only [Extracting.bind_apply, Extracting.lift_apply]
  cases hn : checkedName tag with
  | error e => rw [hn] at hname; exact nomatch hname
  | ok name' =>
      cases hm : markersOf tag (joinMarkers attributes) with
      | error e => rw [hm] at hmarkers; exact nomatch hmarkers
      | ok markers =>
          rw [hn] at hname
          rw [hm] at hmarkers
          cases hname
          cases hmarkers
          rfl

theorem toOption_markersOf (tag tag' : String) (names : List String) :
    (markersOf tag names).toOption = (markersOf tag' names).toOption := by
  induction names with
  | nil => rfl
  | cons n ns ih =>
      unfold markersOf
      rcases parameters? n with fault | _ | ps
      · rfl
      · exact ih
      · revert ih
        cases markersOf tag ns <;> cases markersOf tag' ns <;> simp [Except.toOption, Except.map]

/-- A tag matters to a declaration by the member that it names, and to the wording of errors. -/
theorem agree_declare {tag tag' : String} (h : memberName tag = memberName tag')
    (evaluate : Evaluator σ) (attributes : List String) (text : String) (s : σ) :
    Agree (declare evaluate tag attributes text s) (declare evaluate tag' attributes text s) := by
  have hmarkers := toOption_markersOf tag tag' (joinMarkers attributes)
  have hname : checkedName tag = checkedName tag' := by rw [checkedName, checkedName, h]
  unfold declare
  simp only [Extracting.bind_apply, Extracting.lift_apply, hname]
  rcases checkedName tag' with e | name
  · exact ⟨rfl, rfl⟩
  · simp only
    cases hm : markersOf tag (joinMarkers attributes) with
    | error e =>
        cases hm' : markersOf tag' (joinMarkers attributes) with
        | error e' => exact ⟨rfl, rfl⟩
        | ok ms => rw [hm, hm'] at hmarkers; exact nomatch hmarkers
    | ok ms =>
        cases hm' : markersOf tag' (joinMarkers attributes) with
        | error e' => rw [hm, hm'] at hmarkers; exact nomatch hmarkers
        | ok ms' => rw [hm, hm'] at hmarkers; cases hmarkers; exact ⟨rfl, rfl⟩

/-- What is extracted from two definitions with one declaration each. -/
theorem toOption_extractDeclarations {isDefined : String → Bool} {definition definition' : Element}
    {c c' : Classification} {site site' : Site} (hclassify : classify isDefined definition = [c])
    (hsite : c.site? = some site) (hclassify' : classify isDefined definition' = [c'])
    (hsite' : c'.site? = some site') {evaluate : Evaluator σ} {s : σ}
    (h : Agree (site.declare evaluate s) (site'.declare evaluate s)) :
    (extractDeclarations evaluate isDefined (definition, s)).1.toOption =
      (extractDeclarations evaluate isDefined (definition', s)).1.toOption := by
  rw [extractDeclarations_of_site hclassify hsite, extractDeclarations_of_site hclassify' hsite']
  obtain ⟨hresult, -⟩ := h
  rcases hd : site.declare evaluate s with ⟨e | d, s₁⟩
  · rcases hd' : site'.declare evaluate s with ⟨e' | d', s₁'⟩
    · rfl
    · rw [hd, hd'] at hresult
      exact nomatch hresult
  · rcases hd' : site'.declare evaluate s with ⟨e' | d', s₁'⟩
    · rw [hd, hd'] at hresult
      exact nomatch hresult
    · rw [hd, hd'] at hresult
      cases hresult
      rfl

end agree

section handler

variable {n content : String} {pieces : List String} {isDefined : String → Bool}

theorem elementOf?_handler (hn : isHandlerName n = true) (hpieces : ∀ x ∈ pieces, isPiece x = true)
    (hcontent : '<' ∉ content.toList) :
    elementOf? (wrapped "x-d" "" (wrapped ("on-" ++ n) (spaced pieces) content)) =
      some ⟨"x-d", [], [.element (lower ("on-" ++ n)) (bareAttributes (spaced pieces).toList)
        (textNodes content.toList)]⟩ := by
  have htag : isTagName ("on-" ++ n).toList = true := by
    have hall : ∀ c ∈ n.toList, continuesTag c = true := fun c hc =>
      (Bool.and_eq_true_iff.1
        (continuesName_of_isAlphanum ((isHandlerName_iff.1 hn).2 c hc)).1).1
    have hlist : ("on-" ++ n).toList = 'o' :: 'n' :: '-' :: n.toList := by simp
    rw [hlist, isTagName, Bool.and_eq_true, List.all_eq_true]
    refine ⟨by decide, fun c hc => ?_⟩
    rcases List.mem_cons.1 hc with rfl | hc
    · decide
    rcases List.mem_cons.1 hc with rfl | hc
    · decide
    · exact hall c hc
  have hheader : ∀ c ∈ (spaced pieces).toList, inHeader c = true := by
    intro c hc
    rcases mem_spaced hpieces hc with rfl | ⟨hcont, -⟩
    · decide
    · simp [inHeader, hcont]
  exact elementOf?_wrapped_wrapped htag (isStandard_handler n) (atWordEnd_spaced pieces) hheader
    hcontent

/-- The element and the block of a handler declare the same. -/
theorem extractDeclarations_block (hn : isHandlerName n = true)
    (hpieces : ∀ x ∈ pieces, isPiece x = true)
    (hdistinct : pieces.Pairwise (sameName · · = false)) (hcontent : '<' ∉ content.toList)
    (hdefined : isDefined (lower ("on-" ++ n)) = false) :
    ∃ element block,
      elementOf? (wrapped "x-d" "" (wrapped ("on-" ++ n) (spaced pieces) content)) =
          some element ∧
        elementOf? (wrapped "x-d" "" (wrapped ("@" ++ n) (spaced pieces) content)) = some block ∧
        ∀ {σ : Type} (evaluate : Evaluator σ) (s : σ),
          (extractDeclarations evaluate isDefined (element, s)).1.toOption =
            (extractDeclarations evaluate isDefined (block, s)).1.toOption := by
  have hdeclares : declaresMember isDefined (lower ("on-" ++ n)) = true := by
    simp [declaresMember, isStandard_handler, hdefined]
  have hblock := ofText?_blockOpening hn hpieces content.toList
  refine ⟨_, _, elementOf?_handler hn hpieces hcontent, elementOf?_block hn hpieces hcontent,
    fun evaluate s => toOption_extractDeclarations (classify_singleton hdeclares "x-d" [] _ _) rfl
      (classify_block n pieces content.toList isDefined)
      (by rw [Classification.site?, hblock]; rfl) ?_⟩
  have hsame : sameName n (closingName ("@" ++ n)) = true := by
    rw [closingName_handler hn, sameName_refl]
  have hnames := names_bareAttributes_spaced hpieces hdistinct
  have hagree := agree_declare (memberName_lower ("on-" ++ n)) evaluate pieces
    (String.ofList (trimmed (decode content.toList))) s
  have helement : Site.declare evaluate (.element 0 ⟨lower ("on-" ++ n),
      bareAttributes (spaced pieces).toList, textNodes content.toList⟩) =
      declare evaluate (lower ("on-" ++ n)) pieces
        (String.ofList (trimmed (decode content.toList))) := by
    rw [Site.declare, declareElement, Element.attributeNames, hnames, Element.textContent,
      textContents_textNodes, trim, String.toList_ofList]
  rw [helement, Site.declare, declareBlock, if_pos hsame]
  exact hagree

/-- A handler with a header that markup parts at blanks, both ways. It declares one method. -/
theorem extractDeclarations_block_click :
    let pieces := ["(Event,", "x", ",y)"]
    let isDefined := fun tag => tag == "on-click"
    ∃ element block,
      elementOf? (wrapped "x-d" "" (wrapped "on-Click-2" (spaced pieces) " a &lt; b > c ")) =
          some element ∧
        elementOf? (wrapped "x-d" "" (wrapped "@Click-2" (spaced pieces) " a &lt; b > c ")) =
          some block ∧
        ∀ {σ : Type} (evaluate : Evaluator σ) (s : σ),
          (extractDeclarations evaluate isDefined (element, s)).1.toOption =
            some (.keptAs [⟨"onClick2", .method ["Event", "x", "y"] "a < b > c"⟩]) ∧
          (extractDeclarations evaluate isDefined (block, s)).1.toOption =
            some (.keptAs [⟨"onClick2", .method ["Event", "x", "y"] "a < b > c"⟩]) := by
  intro pieces isDefined
  let content := " a &lt; b > c "
  have hn : isHandlerName "Click-2" = true := by decide
  have hpieces : ∀ x ∈ pieces, isPiece x = true := by decide
  obtain ⟨element, block, helement, hblock, hagree⟩ :=
    @extractDeclarations_block "Click-2" content pieces isDefined hn hpieces (by decide +kernel)
      (by decide) (by decide +kernel)
  refine ⟨element, block, helement, hblock, fun {σ} evaluate s => ?_⟩
  have hdeclared : (extractDeclarations evaluate isDefined (block, s)).1.toOption =
      some (.keptAs [⟨"onClick2", .method ["Event", "x", "y"] "a < b > c"⟩]) := by
    have hopens := ofText?_blockOpening hn hpieces content.toList
    have htext : String.ofList (trimmed (decode content.toList)) = "a < b > c" := by
      decide +kernel
    have hname : sameName "Click-2" (closingName ("@" ++ "Click-2")) = true := by decide +kernel
    have hread : declare evaluate ("on-" ++ "Click-2") pieces "a < b > c" s =
        (.ok ⟨"onClick2", .method ["Event", "x", "y"] "a < b > c"⟩, s) :=
      declare_of_marker (by decide +kernel) (by decide +kernel) evaluate _ s
    have hparsed := hblock.symm.trans (elementOf?_block hn hpieces (by decide))
    rw [Option.some_inj.1 hparsed, extractDeclarations_of_site
      (classify_block "Click-2" pieces _ isDefined) (by rw [Classification.site?, hopens]; rfl)]
    simp only [Site.declare, declareBlock, hname, if_true, htext, Block.tag, hread]
    rfl
  exact ⟨(hagree evaluate s).trans hdeclared, hdeclared⟩

end handler

end Componentry
