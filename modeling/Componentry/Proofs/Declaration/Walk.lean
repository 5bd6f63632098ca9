import Mathlib.Data.List.Induction
import Mathlib.Data.List.Nodup
import Mathlib.Data.List.Pairwise
import Componentry.Declaration.Classify

/-!
# What the walk over children finds

`classify` goes through the children of a definition with a text that may be waiting for the comment
that closes it. `Classification.Holds` says without the walk what each child is: a block is a text
and the next comment that begins with `@`, blank texts between them aside; an element that is
neither standard nor defined elsewhere declares a member; and whatever is neither of these nor blank
is content. The walk finds just what holds, each child once, and the declarations in document order
(`classify_exact`).

What waits after some children is the last of them that is not blank, if it is a text
(`waitingAfter`). So what the walk says of a child follows from the children before it
(`kindAfter?`).
-/

namespace Componentry

open Markup Text

def lastSolid? (children : List Node) : Option (Node × Nat) :=
  (children.zipIdx.filter (!·.1.isBlank)).getLast?

theorem lastSolid?_concat (before : List Node) (n : Node) :
    lastSolid? (before ++ [n]) =
      if n.isBlank then lastSolid? before else some (n, before.length) := by
  unfold lastSolid?
  rw [List.zipIdx_append, List.filter_append, Nat.zero_add]
  cases h : n.isBlank with
  | true => simp [h]
  | false => simp [h]

def waitingAfter (before : List Node) : Waiting :=
  match lastSolid? before with
  | some (.text text, i) => some (i, text)
  | _ => none

theorem waitingAfter_concat (before : List Node) (n : Node) :
    waitingAfter (before ++ [n]) =
      if n.isBlank then waitingAfter before
      else match n with
        | .text text => some (before.length, text)
        | _ => none := by
  unfold waitingAfter
  rw [lastSolid?_concat]
  by_cases h : n.isBlank = true
  · rw [if_pos h, if_pos h]
  · rw [if_neg h, if_neg h]
    cases n <;> rfl

section classifyFrom

variable (isDefined : String → Bool) (index : Nat) (waiting : Waiting) (ns : List Node)

theorem classifyFrom_blank {n : Node} (h : n.isBlank = true) :
    classifyFrom isDefined index waiting (n :: ns) =
      .blank index :: classifyFrom isDefined (index + 1) waiting ns := by
  conv => lhs; unfold classifyFrom
  rw [if_pos h]

theorem classifyFrom_text {text : String} (h : (Node.text text).isBlank = false) :
    classifyFrom isDefined index waiting (.text text :: ns) =
      waiting.settle ++ classifyFrom isDefined (index + 1) (some (index, text)) ns := by
  conv => lhs; unfold classifyFrom
  rw [h]
  cases waiting <;> rfl

theorem classifyFrom_element (tag : String) (attributes : List Attribute) (children : List Node) :
    classifyFrom isDefined index waiting (.element tag attributes children :: ns) =
      waiting.settle ++ (if declaresMember isDefined tag then
        .element index ⟨tag, attributes, children⟩ else .structural index) ::
          classifyFrom isDefined (index + 1) none ns := by
  conv => lhs; unfold classifyFrom
  cases waiting <;> rfl

theorem classifyFrom_closing {i : Nat} {text marker : String} (h : beginsWith '@' marker = true) :
    classifyFrom isDefined index (some (i, text)) (.comment marker :: ns) =
      .pair i index text marker :: classifyFrom isDefined (index + 1) none ns := by
  have hend : blockEnd? (.comment marker) = some marker := if_pos h
  conv => lhs; unfold classifyFrom
  rw [hend]
  rfl

theorem classifyFrom_comment {marker : String}
    (h : waiting = none ∨ beginsWith '@' marker = false) :
    classifyFrom isDefined index waiting (.comment marker :: ns) =
      waiting.settle ++ .structural index :: classifyFrom isDefined (index + 1) none ns := by
  conv => lhs; unfold classifyFrom
  rcases h with rfl | h
  · rfl
  · have hend : blockEnd? (.comment marker) = none := if_neg (Bool.eq_false_iff.1 h)
    rw [hend]
    cases waiting <;> rfl

end classifyFrom

namespace Classification

def declares : Classification → Bool
  | .pair .. => true
  | .element .. => true
  | _ => false

def isStructural : Classification → Bool
  | .structural _ => true
  | _ => false

end Classification

/-- What a child is, by the children before it. Of content nothing is said: a text is known to be
content only when the children after it have been seen. -/
def kindAfter? (isDefined : String → Bool) (before : List Node) (n : Node) :
    Option Classification :=
  if n.isBlank then some (.blank before.length)
  else match n with
    | .text _ => none
    | .element tag attributes children =>
      if declaresMember isDefined tag then some (.element before.length ⟨tag, attributes, children⟩)
      else none
    | .comment marker =>
      if beginsWith '@' marker then
        (waitingAfter before).map fun w => .pair w.1 before.length w.2 marker
      else none

theorem filter_settle (waiting : Waiting) :
    waiting.settle.filter (!·.isStructural) = [] := by
  cases waiting <;> rfl

/-- A list gone through with the part of it that lies before. -/
theorem zipIdx_take_append {α β : Type} (f : List α → α → Option β) (before : List α) (a : α)
    (as : List α) :
    ((a :: as).zipIdx before.length).filterMap
        (fun p => f ((before ++ a :: as).take p.2) p.1) =
      (f before a).toList ++ (as.zipIdx (before ++ [a]).length).filterMap
        (fun p => f ((before ++ [a] ++ as).take p.2) p.1) := by
  rw [List.zipIdx_cons, List.filterMap_cons, List.take_left, List.append_assoc,
    List.singleton_append, List.length_append, List.length_singleton]
  cases f before a <;> rfl

theorem filter_classifyFrom (isDefined : String → Bool) (before ns : List Node) :
    (classifyFrom isDefined before.length (waitingAfter before) ns).filter (!·.isStructural) =
      (ns.zipIdx before.length).filterMap fun child =>
        kindAfter? isDefined ((before ++ ns).take child.2) child.1 := by
  -- A child moves from those left to those before, and `waitingAfter` is the state of the walk.
  induction ns generalizing before with
  | nil => exact filter_settle (waitingAfter before)
  | cons n ns ih =>
      have hnext := ih (before ++ [n])
      rw [waitingAfter_concat] at hnext
      rw [zipIdx_take_append (kindAfter? isDefined), ← hnext, List.length_append,
        List.length_singleton, kindAfter?.eq_def]
      by_cases hblank : n.isBlank = true
      · rw [classifyFrom_blank _ _ _ _ hblank, if_pos hblank, if_pos hblank]
        rfl
      rw [if_neg hblank, if_neg hblank]
      cases n with
      | text s =>
          rw [classifyFrom_text _ _ _ _ (Bool.eq_false_iff.2 hblank), List.filter_append,
            filter_settle]
          rfl
      | element tag attributes children =>
          rw [classifyFrom_element, List.filter_append, filter_settle]
          by_cases hdeclares : declaresMember isDefined tag = true
          · simp only [if_pos hdeclares]
            rfl
          · simp only [if_neg hdeclares]
            rfl
      | comment marker =>
          by_cases hmarker : beginsWith '@' marker = true
          · simp only [if_pos hmarker]
            cases waitingAfter before with
            | none =>
                rw [classifyFrom_comment _ _ _ _ (Or.inl rfl)]
                rfl
            | some w =>
                rw [classifyFrom_closing _ _ _ hmarker]
                rfl
          · have hother : beginsWith '@' marker = false := Bool.eq_false_iff.2 hmarker
            simp only [if_neg hmarker]
            rw [classifyFrom_comment _ _ _ _ (Or.inr hother), List.filter_append, filter_settle]
            rfl

/-- What the walk says of the children that are no content, in document order. -/
theorem filter_classify (isDefined : String → Bool) (definition : Element) :
    (classify isDefined definition).filter (!·.isStructural) =
      definition.children.zipIdx.filterMap fun child =>
        kindAfter? isDefined (definition.children.take child.2) child.1 :=
  filter_classifyFrom isDefined [] definition.children

/-- A text and the comment that closes it, blank texts between them aside. -/
structure IsPair (children : List Node) (i j : Nat) (text marker : String) : Prop where
  lt : i < j
  opening : children[i]? = some (.text text)
  solid : isBlankText text = false
  closing : children[j]? = some (.comment marker)
  marked : beginsWith '@' marker = true
  between : ∀ k, i < k → k < j → ∃ s, children[k]? = some (.text s) ∧ isBlankText s = true

def Classification.Holds (isDefined : String → Bool) (children : List Node) :
    Classification → Prop
  | .blank i => ∃ s, children[i]? = some (.text s) ∧ isBlankText s = true
  | .pair i j text marker => IsPair children i j text marker
  | .element i e =>
    children[i]? = some e.node ∧ isStandard e.tag = false ∧ isDefined e.tag = false
  | .structural i => i < children.length ∧
    (¬ ∃ s, children[i]? = some (.text s) ∧ isBlankText s = true) ∧
    (¬ ∃ j text marker, IsPair children i j text marker ∨ IsPair children j i text marker) ∧
    ¬ ∃ e : Element, children[i]? = some e.node ∧ isStandard e.tag = false ∧ isDefined e.tag = false

theorem isBlank_iff {n : Node} : n.isBlank = true ↔ ∃ s, n = .text s ∧ isBlankText s = true := by
  cases n <;> simp [Node.isBlank]

section waiting

variable {before : List Node} {n : Node} {i : Nat}

theorem lastSolid?_eq_some_iff : lastSolid? before = some (n, i) ↔
    before[i]? = some n ∧ n.isBlank = false ∧
      ∀ k, i < k → k < before.length → ∃ m, before[k]? = some m ∧ m.isBlank = true := by
  induction before using List.reverseRecOn with
  | nil => simp [lastSolid?]
  | append_singleton before m ih =>
      rw [lastSolid?_concat, List.length_append, List.length_singleton]
      by_cases hblank : m.isBlank = true
      · rw [if_pos hblank, ih]
        constructor
        · rintro ⟨hi, hsolid, hafter⟩
          have hlt := (List.getElem?_eq_some_iff.1 hi).1
          refine ⟨(List.getElem?_append_left hlt).trans hi, hsolid, fun k hik hk => ?_⟩
          rcases Nat.lt_succ_iff_lt_or_eq.1 hk with hk | rfl
          · rw [List.getElem?_append_left hk]
            exact hafter k hik hk
          · exact ⟨m, List.getElem?_concat_length, hblank⟩
        · rintro ⟨hi, hsolid, hafter⟩
          have hlt : i < before.length := by grind
          refine ⟨(List.getElem?_append_left hlt).symm.trans hi, hsolid, fun k hik hk => ?_⟩
          rw [← List.getElem?_append_left hk]
          exact hafter k hik (Nat.lt_succ_of_lt hk)
      · rw [if_neg hblank, Option.some_inj, Prod.mk.injEq]
        constructor
        · rintro ⟨rfl, rfl⟩
          refine ⟨List.getElem?_concat_length, Bool.eq_false_iff.2 hblank, fun k hik hk => ?_⟩
          exact absurd hik (Nat.not_lt_of_le (Nat.le_of_lt_succ hk))
        · rintro ⟨hi, hsolid, hafter⟩
          grind

theorem waitingAfter_eq_some_iff {text : String} : waitingAfter before = some (i, text) ↔
    lastSolid? before = some (.text text, i) := by
  unfold waitingAfter
  rcases lastSolid? before with _ | ⟨_ | _ | _, k⟩ <;> simp [and_comm]

end waiting

/-- The children of which the walk says something at once. -/
theorem kindAfter?_eq_some_iff {isDefined : String → Bool} {before : List Node} {n : Node}
    {c : Classification} : kindAfter? isDefined before n = some c ↔
      (n.isBlank = true ∧ c = .blank before.length) ∨
      (∃ e : Element, n = e.node ∧ declaresMember isDefined e.tag = true ∧
        c = .element before.length e) ∨
      ∃ i text marker, n = .comment marker ∧ beginsWith '@' marker = true ∧
        waitingAfter before = some (i, text) ∧ c = .pair i before.length text marker := by
  constructor
  · intro h
    rw [kindAfter?.eq_def] at h
    by_cases hblank : n.isBlank = true
    · rw [if_pos hblank] at h
      cases h
      exact .inl ⟨hblank, rfl⟩
    rw [if_neg hblank] at h
    cases n with
    | text s => exact nomatch h
    | element tag attributes children =>
        by_cases hdeclares : declaresMember isDefined tag = true
        · simp only [if_pos hdeclares, Option.some_inj] at h
          exact .inr (.inl ⟨⟨tag, attributes, children⟩, rfl, hdeclares, h.symm⟩)
        · simp only [if_neg hdeclares] at h
          exact nomatch h
    | comment marker =>
        by_cases hmarker : beginsWith '@' marker = true
        · simp only [if_pos hmarker, Option.map_eq_some_iff] at h
          obtain ⟨⟨i, text⟩, hwaiting, rfl⟩ := h
          exact .inr (.inr ⟨i, text, marker, rfl, hmarker, hwaiting, rfl⟩)
        · simp only [if_neg hmarker] at h
          exact nomatch h
  · rintro
      (⟨hblank, rfl⟩ | ⟨e, rfl, hdeclares, rfl⟩ | ⟨i, text, marker, rfl, hmarker, hwaiting, rfl⟩)
    · rw [kindAfter?.eq_def, if_pos hblank]
    · change (if declaresMember isDefined e.tag then _ else _) = _
      rw [if_pos hdeclares]
    · change (if beginsWith '@' marker then (waitingAfter before).map _ else _) = _
      rw [if_pos hmarker, hwaiting]
      rfl

/-- A classification of no content is said of some child. -/
theorem mem_classify_iff_kindAfter? {isDefined : String → Bool} {definition : Element}
    {c : Classification} (hc : c.isStructural = false) :
    c ∈ classify isDefined definition ↔ ∃ k n, definition.children[k]? = some n ∧
      kindAfter? isDefined (definition.children.take k) n = some c := by
  have hfilter : c ∈ classify isDefined definition ↔
      c ∈ (classify isDefined definition).filter (!·.isStructural) := by
    rw [List.mem_filter, hc]
    simp
  rw [hfilter, filter_classify, List.mem_filterMap]
  simp only [List.mem_zipIdx_iff_getElem?, Prod.exists]
  exact exists_comm

section holds

variable {isDefined : String → Bool} {definition : Element} {i j : Nat}

theorem length_take_of_getElem? {children : List Node} {k : Nat} {n : Node}
    (h : children[k]? = some n) : (children.take k).length = k :=
  List.length_take_of_le (Nat.le_of_lt (List.getElem?_eq_some_iff.1 h).1)

theorem blank_mem_classify_iff : .blank i ∈ classify isDefined definition ↔
    (Classification.blank i).Holds isDefined definition.children := by
  rw [mem_classify_iff_kindAfter? rfl, Classification.Holds]
  simp only [kindAfter?_eq_some_iff]
  constructor
  · rintro ⟨k, n, hn, ⟨hblank, hi⟩ | ⟨e, -, -, hi⟩ | ⟨_, _, _, -, -, -, hi⟩⟩
    · obtain ⟨s, rfl, hs⟩ := isBlank_iff.1 hblank
      cases hi
      rw [length_take_of_getElem? hn]
      exact ⟨s, hn, hs⟩
    · exact nomatch hi
    · exact nomatch hi
  · rintro ⟨s, hn, hs⟩
    exact ⟨i, .text s, hn, .inl ⟨hs, by rw [length_take_of_getElem? hn]⟩⟩

theorem declaresMember_iff {tag : String} :
    declaresMember isDefined tag = true ↔ isStandard tag = false ∧ isDefined tag = false := by
  change (!isStandard tag && !isDefined tag) = true ↔ _
  rw [Bool.and_eq_true, Bool.not_eq_true', Bool.not_eq_true']

theorem element_mem_classify_iff {e : Element} : .element i e ∈ classify isDefined definition ↔
    (Classification.element i e).Holds isDefined definition.children := by
  rw [mem_classify_iff_kindAfter? rfl, Classification.Holds]
  simp only [kindAfter?_eq_some_iff, declaresMember_iff]
  constructor
  · rintro ⟨k, n, hn, ⟨-, hi⟩ | ⟨e, rfl, hdeclares, hi⟩ | ⟨_, _, _, -, -, -, hi⟩⟩
    · exact nomatch hi
    · cases hi
      rw [length_take_of_getElem? hn]
      exact ⟨hn, hdeclares⟩
    · exact nomatch hi
  · rintro ⟨hn, hdeclares⟩
    exact ⟨i, e.node, hn, .inr (.inl ⟨e, rfl, hdeclares, by rw [length_take_of_getElem? hn]⟩)⟩

/-- What waits in front of a comment is the text of its pair. -/
theorem isPair_iff {children : List Node} {text marker : String} :
    IsPair children i j text marker ↔ children[j]? = some (.comment marker) ∧
      beginsWith '@' marker = true ∧ waitingAfter (children.take j) = some (i, text) := by
  rw [waitingAfter_eq_some_iff, lastSolid?_eq_some_iff]
  constructor
  · rintro ⟨hlt, hopening, hsolid, hclosing, hmarked, hbetween⟩
    refine ⟨hclosing, hmarked, ?_, hsolid, fun k hik hk => ?_⟩
    · rw [List.getElem?_take_of_lt hlt]
      exact hopening
    · rw [length_take_of_getElem? hclosing] at hk
      obtain ⟨s, hs, hblank⟩ := hbetween k hik hk
      rw [List.getElem?_take_of_lt hk]
      exact ⟨.text s, hs, hblank⟩
  · rintro ⟨hclosing, hmarked, hopening, hsolid, hbetween⟩
    have hlength := length_take_of_getElem? hclosing
    have hlt : i < j := hlength ▸ (List.getElem?_eq_some_iff.1 hopening).1
    rw [List.getElem?_take_of_lt hlt] at hopening
    refine ⟨hlt, hopening, hsolid, hclosing, hmarked, fun k hik hk => ?_⟩
    obtain ⟨m, hm, hblank⟩ := hbetween k hik (hlength.symm ▸ hk)
    rw [List.getElem?_take_of_lt hk] at hm
    obtain ⟨s, rfl, hs⟩ := isBlank_iff.1 hblank
    exact ⟨s, hm, hs⟩

theorem pair_mem_classify_iff {text marker : String} :
    .pair i j text marker ∈ classify isDefined definition ↔
      (Classification.pair i j text marker).Holds isDefined definition.children := by
  rw [mem_classify_iff_kindAfter? rfl, Classification.Holds, isPair_iff]
  simp only [kindAfter?_eq_some_iff]
  constructor
  · rintro ⟨k, n, hn, ⟨-, hi⟩ | ⟨e, -, -, hi⟩ | ⟨_, _, _, rfl, hmarker, hwaiting, hi⟩⟩
    · exact nomatch hi
    · exact nomatch hi
    · cases hi
      rw [length_take_of_getElem? hn]
      exact ⟨hn, hmarker, hwaiting⟩
  · rintro ⟨hn, hmarker, hwaiting⟩
    exact ⟨j, .comment marker, hn, .inr (.inr ⟨i, text, marker, rfl, hmarker, hwaiting,
      by rw [length_take_of_getElem? hn]⟩)⟩

end holds

section indices

def Waiting.indices (waiting : Waiting) : List Nat := waiting.toList.map Prod.fst

theorem flatMap_indices_settle (waiting : Waiting) :
    waiting.settle.flatMap Classification.indices = waiting.indices := by
  cases waiting <;> rfl

/-- The walk meets each child once. -/
theorem perm_indices_classifyFrom (isDefined : String → Bool) (index : Nat) (waiting : Waiting)
    (ns : List Node) :
    ((classifyFrom isDefined index waiting ns).flatMap Classification.indices).Perm
      (waiting.indices ++ List.range' index ns.length) := by
  induction ns generalizing index waiting with
  | nil =>
      rw [classifyFrom, flatMap_indices_settle, List.length_nil, List.range'_zero, List.append_nil]
  | cons n ns ih =>
      rw [List.length_cons, List.range'_succ]
      by_cases hblank : n.isBlank = true
      · rw [classifyFrom_blank _ _ _ _ hblank]
        exact ((ih (index + 1) waiting).cons index).trans List.perm_middle.symm
      cases n with
      | text s =>
          rw [classifyFrom_text _ _ _ _ (Bool.eq_false_iff.2 hblank), List.flatMap_append,
            flatMap_indices_settle]
          exact (ih (index + 1) (some (index, s))).append_left waiting.indices
      | element tag attributes children =>
          have hindices : (if declaresMember isDefined tag then
              Classification.element index ⟨tag, attributes, children⟩
            else .structural index).indices = [index] := by
            split <;> rfl
          rw [classifyFrom_element, List.flatMap_append, flatMap_indices_settle, List.flatMap_cons,
            hindices]
          exact ((ih (index + 1) none).cons index).append_left waiting.indices
      | comment marker =>
          by_cases hpair : waiting = none ∨ beginsWith '@' marker = false
          · rw [classifyFrom_comment _ _ _ _ hpair, List.flatMap_append, flatMap_indices_settle]
            exact ((ih (index + 1) none).cons index).append_left waiting.indices
          · rw [not_or, Bool.not_eq_false] at hpair
            obtain ⟨⟨i, text⟩, rfl⟩ := Option.ne_none_iff_exists'.1 hpair.1
            rw [classifyFrom_closing _ _ _ hpair.2]
            exact ((ih (index + 1) none).cons index).cons i

variable {isDefined : String → Bool} {definition : Element} {i : Nat}

theorem perm_indices_classify (isDefined : String → Bool) (definition : Element) :
    ((classify isDefined definition).flatMap Classification.indices).Perm
      (List.range definition.children.length) := by
  rw [List.range_eq_range']
  exact perm_indices_classifyFrom isDefined 0 none definition.children

theorem exists_mem_classify_iff :
    (∃ c ∈ classify isDefined definition, i ∈ c.indices) ↔ i < definition.children.length := by
  rw [← List.mem_flatMap, (perm_indices_classify isDefined definition).mem_iff, List.mem_range]

theorem eq_of_mem_indices {c d : Classification} (hc : c ∈ classify isDefined definition)
    (hd : d ∈ classify isDefined definition) (hic : i ∈ c.indices) (hid : i ∈ d.indices) :
    c = d := by
  have hnodup : ((classify isDefined definition).flatMap Classification.indices).Nodup :=
    (perm_indices_classify isDefined definition).nodup_iff.2 List.nodup_range
  have : Std.Symm (Function.onFun List.Disjoint Classification.indices) :=
    ⟨fun _ _ h _ hd hc => h hc hd⟩
  by_contra hne
  exact (List.nodup_flatMap.1 hnodup).2.forall hc hd hne hic hid

theorem structural_mem_classify_iff : .structural i ∈ classify isDefined definition ↔
    (Classification.structural i).Holds isDefined definition.children := by
  constructor
  · intro hi
    have hself : i ∈ (Classification.structural i).indices := List.mem_singleton_self i
    refine ⟨exists_mem_classify_iff.1 ⟨_, hi, hself⟩, fun hblank => ?_, ?_, ?_⟩
    · have heq := eq_of_mem_indices hi (blank_mem_classify_iff.2 hblank) hself
        (List.mem_singleton_self i)
      exact nomatch heq
    · rintro ⟨j, text, marker, hpair | hpair⟩
      · have heq := eq_of_mem_indices hi (pair_mem_classify_iff.2 hpair) hself List.mem_cons_self
        exact nomatch heq
      · have heq := eq_of_mem_indices hi (pair_mem_classify_iff.2 hpair) hself
          (List.mem_cons_of_mem j List.mem_cons_self)
        exact nomatch heq
    · rintro ⟨e, he⟩
      have heq := eq_of_mem_indices hi (element_mem_classify_iff.2 he) hself
        (List.mem_singleton_self i)
      exact nomatch heq
  · rintro ⟨hlt, hblank, hpair, helement⟩
    obtain ⟨c, hc, hi⟩ := exists_mem_classify_iff.2 hlt
    cases c with
    | blank k =>
        rw [List.mem_singleton.1 hi] at hblank
        exact absurd (blank_mem_classify_iff.1 hc) hblank
    | structural k => rwa [List.mem_singleton.1 hi]
    | pair k l text marker =>
        have hkl := pair_mem_classify_iff.1 hc
        rcases List.mem_cons.1 hi with rfl | hi
        · exact absurd ⟨l, text, marker, .inl hkl⟩ hpair
        · rw [List.mem_singleton.1 hi] at hpair
          exact absurd ⟨k, text, marker, .inr hkl⟩ hpair
    | element k e =>
        rw [List.mem_singleton.1 hi] at helement
        exact absurd ⟨e, element_mem_classify_iff.1 hc⟩ helement

/-- The walk finds what holds of the children. -/
theorem mem_classify_iff {c : Classification} :
    c ∈ classify isDefined definition ↔ c.Holds isDefined definition.children := by
  cases c with
  | blank i => exact blank_mem_classify_iff
  | structural i => exact structural_mem_classify_iff
  | pair i j text marker => exact pair_mem_classify_iff
  | element i e => exact element_mem_classify_iff

end indices

section order

variable {isDefined : String → Bool} {children : List Node} {k : Nat} {n : Node}
  {c : Classification}

/-- A declaration ends in a child that is no text. -/
theorem le_of_kindAfter? (hn : children[k]? = some n)
    (hc : kindAfter? isDefined (children.take k) n = some c) (hdeclares : c.declares = true) :
    (∀ i ∈ c.indices, i ≤ k) ∧ ∀ s, n ≠ .text s := by
  have hlength := length_take_of_getElem? hn
  rcases kindAfter?_eq_some_iff.1 hc with
    ⟨-, rfl⟩ | ⟨e, rfl, -, rfl⟩ | ⟨i, text, marker, rfl, hmarker, hwaiting, rfl⟩
  · exact nomatch hdeclares
  · exact ⟨List.forall_mem_singleton.2 (Nat.le_of_eq hlength), fun _ => nofun⟩
  · have hpair := isPair_iff.2 ⟨hn, hmarker, hwaiting⟩
    rw [hlength]
    have hindices : ∀ j ∈ [i, k], j ≤ k := List.forall_mem_cons.2
      ⟨Nat.le_of_lt hpair.lt, List.forall_mem_singleton.2 (Nat.le_refl k)⟩
    exact ⟨hindices, fun _ => nofun⟩

/-- Before its end a declaration is made of texts. -/
theorem text_of_kindAfter? (hn : children[k]? = some n)
    (hc : kindAfter? isDefined (children.take k) n = some c) (hdeclares : c.declares = true)
    {i j : Nat} (hi : i ∈ c.indices) (hij : i ≤ j) (hjk : j < k) :
    ∃ s, children[j]? = some (.text s) := by
  have hlength := length_take_of_getElem? hn
  rcases kindAfter?_eq_some_iff.1 hc with
    ⟨-, rfl⟩ | ⟨e, rfl, -, rfl⟩ | ⟨i, text, marker, rfl, hmarker, hwaiting, rfl⟩
  · exact nomatch hdeclares
  · rw [List.mem_singleton.1 hi, hlength] at hij
    exact absurd hjk (Nat.not_lt_of_le hij)
  · have hpair := isPair_iff.2 ⟨hn, hmarker, hwaiting⟩
    rw [hlength] at hi
    rcases List.mem_cons.1 hi with rfl | hi
    · rcases Nat.lt_or_eq_of_le hij with hij | rfl
      · obtain ⟨s, hs, -⟩ := hpair.between j hij hjk
        exact ⟨s, hs⟩
      · exact ⟨text, hpair.opening⟩
    · rw [List.mem_singleton.1 hi] at hij
      exact absurd hjk (Nat.not_lt_of_le hij)

theorem pairwise_zipIdx {α : Type} (l : List α) : l.zipIdx.Pairwise fun a b => a.2 < b.2 := by
  have hrange : (l.zipIdx.map Prod.snd).Pairwise (· < ·) := by
    rw [List.zipIdx_map_snd]
    exact List.pairwise_lt_range'
  exact List.pairwise_map.1 hrange

/-- One declaration ends before the next begins. -/
theorem pairwise_declares (isDefined : String → Bool) (definition : Element) :
    ((classify isDefined definition).filter Classification.declares).Pairwise
      fun c d => ∀ i ∈ c.indices, ∀ j ∈ d.indices, i < j := by
  have hfilter : (classify isDefined definition).filter Classification.declares =
      ((classify isDefined definition).filter (!·.isStructural)).filter
        Classification.declares := by
    rw [List.filter_filter]
    congr 1
    funext c
    cases c <;> rfl
  rw [hfilter, filter_classify, List.pairwise_filter, List.pairwise_filterMap]
  refine (pairwise_zipIdx definition.children).imp_of_mem ?_
  rintro ⟨m, k⟩ ⟨n, l⟩ hm hn hkl c hc d hd hcdeclares hddeclares i hi j hj
  rw [List.mem_zipIdx_iff_getElem?] at hm hn
  obtain ⟨hle, htext⟩ := le_of_kindAfter? hm hc hcdeclares
  by_contra hji
  obtain ⟨s, hs⟩ := text_of_kindAfter? hn hd hddeclares hj
    (Nat.le_trans (Nat.le_of_not_lt hji) (hle i hi)) hkl
  exact htext s (Option.some_inj.1 (hm.symm.trans hs))

end order

/-- The walk over the children of a definition says of them what holds and nothing else, has each of
them in one place, and finds the declarations in document order. -/
theorem classify_exact (isDefined : String → Bool) (definition : Element) :
    (∀ c, c ∈ classify isDefined definition ↔ c.Holds isDefined definition.children) ∧
    ((classify isDefined definition).flatMap Classification.indices).Perm
      (List.range definition.children.length) ∧
    ((classify isDefined definition).filter Classification.declares).Pairwise
      fun c d => ∀ i ∈ c.indices, ∀ j ∈ d.indices, i < j :=
  ⟨fun _ => mem_classify_iff, perm_indices_classify isDefined definition,
    pairwise_declares isDefined definition⟩

end Componentry
