import Componentry.Proofs.Markup.WrittenParts

/-!
# The tokens of written markup

`Node.tokens` says of a tree which tokens its markup should be read as. For a tree in normal form
they are the tokens that `tokens?` reads, with whatever follows read after them
(`tokens?_writtenAll`). The content of a raw element is one token without escapes, if there is any.
-/

namespace Componentry.Markup

open Componentry.Text

namespace Node

mutual

/-- The tokens of a tree; `raw` tells whether it stands in a raw element. -/
def tokens (raw : Bool) : Node → List Token
  | .element tag attributes children =>
    .startTag tag attributes false ::
      if isVoid tag then [] else tokensAll (isRaw tag) children ++ [.endTag tag]
  | .text s => [if raw then .rawText s.toList else .text (escape s)]
  | .comment s => [.comment s.toList]

def tokensAll (raw : Bool) : List Node → List Token
  | [] => []
  | n :: ns => n.tokens raw ++ tokensAll raw ns

end

end Node

theorem tokens?_cons_of_plain {c : Char} {s r : List Char} {t : Token}
    (h : scanToken? c s = some (t, r)) (hraw : t.rawEnd? = none) :
    tokens? (c :: s) = (tokens? r).map (t :: ·) := by
  rw [tokens?]
  split
  · next hn => simp [h] at hn
  · next t' r' hs =>
      rw [h] at hs
      cases hs
      rw [hraw]

theorem tokens?_cons_of_raw {c : Char} {s r word : List Char} {t : Token}
    (h : scanToken? c s = some (t, r)) (hraw : t.rawEnd? = some word) :
    tokens? (c :: s) = (tokens? (breakBeforeFolded word r).2).map fun ts =>
      t :: if (breakBeforeFolded word r).1 = [] then ts
        else .rawText (breakBeforeFolded word r).1 :: ts := by
  rw [tokens?]
  split
  · next hn => simp [h] at hn
  · next t' r' hs =>
      rw [h] at hs
      cases hs
      rw [hraw]

/-- A void element is not a raw one. -/
theorem isRaw_of_isVoid {tag : String} (h : isVoid tag = true) : isRaw tag = false := by
  have hmem : lower tag ∈ voidElements := List.contains_iff_mem.1 h
  have hall : ∀ t ∈ voidElements, rawElements.contains t = false := by decide
  exact hall (lower tag) hmem

/-- The tag of a raw element is one of two words. -/
theorem NormalTag.eq_of_isRaw {tag : String} (h : NormalTag tag) (hraw : isRaw tag = true) :
    tag = "script" ∨ tag = "style" := by
  have hmem : lower tag ∈ rawElements := List.contains_iff_mem.1 hraw
  rw [h.lower_eq] at hmem
  simpa [rawElements] using hmem

theorem scanToken?_startTag {tag : String} {as : List Attribute} (ht : NormalTag tag)
    (ha : NormalAttributes as) (r : List Char) :
    scanToken? '<' (tag.toList ++ (as.flatMap Attribute.written ++ '>' :: r)) =
      some (.startTag tag as false, r) := by
  rw [scanToken?, if_pos rfl, scanMarkup?_startTag ht ha]

theorem startTag_append (tag : String) (as : List Attribute) (r : List Char) :
    startTag tag as ++ r =
      '<' :: (tag.toList ++ (as.flatMap Attribute.written ++ '>' :: r)) := by
  simp [startTag]

theorem tokens?_startTag {tag : String} {as : List Attribute} (ht : NormalTag tag)
    (ha : NormalAttributes as) (hraw : isRaw tag = false) (r : List Char) :
    tokens? (startTag tag as ++ r) = (tokens? r).map (.startTag tag as false :: ·) := by
  have hend : Token.rawEnd? (.startTag tag as false) = none := by simp [Token.rawEnd?, hraw]
  rw [startTag_append, tokens?_cons_of_plain (scanToken?_startTag ht ha r) hend]

theorem tokens?_endTag {tag : String} (h : NormalTag tag) (r : List Char) :
    tokens? (endTag tag ++ r) = (tokens? r).map (.endTag tag :: ·) := by
  have hscan : scanToken? '<' ('/' :: (tag.toList ++ '>' :: r)) = some (.endTag tag, r) := by
    rw [scanToken?, if_pos rfl, scanMarkup?_endTag h]
  have happend : endTag tag ++ r = '<' :: '/' :: (tag.toList ++ '>' :: r) := by simp [endTag]
  rw [happend, tokens?_cons_of_plain hscan rfl]

theorem tokens?_comment {s : List Char} (h : ¬ ['-', '-', '>'] <:+: s) (r : List Char) :
    tokens? (['<', '!', '-', '-'] ++ s ++ ['-', '-', '>'] ++ r) =
      (tokens? r).map (.comment s :: ·) := by
  have hscan : scanToken? '<' ('!' :: '-' :: '-' :: (s ++ ['-', '-', '>'] ++ r)) =
      some (.comment s, r) := by
    rw [scanToken?, if_pos rfl, scanMarkup?_comment h]
  rw [← tokens?_cons_of_plain hscan rfl]
  simp

theorem tokens?_escape {s : String} (h : s ≠ "") {r : List Char} (hr : AtMarkup r) :
    tokens? (escape s ++ r) = (tokens? r).map (.text (escape s) :: ·) := by
  have hmem := not_mem_escape s
  cases hs : escape s with
  | nil => exact absurd hs (escape_ne_nil h)
  | cons c cs =>
      rw [hs] at hmem
      rw [List.cons_append, tokens?_cons_of_plain (scanToken?_text hmem hr) rfl]

/-- The content of a raw element is read as one token up to its end tag. -/
theorem tokens?_raw {tag : String} {as : List Attribute} {children : List Node}
    (ht : NormalTag tag) (ha : NormalAttributes as) (hraw : isRaw tag = true)
    (hc : RawContent tag children) (r : List Char) :
    tokens? (startTag tag as ++ (Node.writtenAll true children ++ (endTag tag ++ r))) =
      (tokens? r).map fun ts =>
        .startTag tag as false :: (Node.tokensAll true children ++ .endTag tag :: ts) := by
  have hend : Token.rawEnd? (.startTag tag as false) = some ('<' :: '/' :: tag.toList) := by
    simp [Token.rawEnd?, hraw]
  have hopen : '<' ∉ '/' :: tag.toList := by
    rcases ht.eq_of_isRaw hraw with rfl | rfl <;> decide
  have hlow : ('<' :: '/' :: tag.toList).map Char.toLower = '<' :: '/' :: tag.toList := by
    rw [List.map_cons, List.map_cons, ht.map_toLower]
    rfl
  have hbreak : ∀ a : List Char, ¬ ('<' :: '/' :: tag.toList) <:+: a.map Char.toLower →
      breakBeforeFolded ('<' :: '/' :: tag.toList) (a ++ (endTag tag ++ r)) =
        (a, endTag tag ++ r) := by
    intro a hin
    have happend : endTag tag ++ r = '<' :: '/' :: tag.toList ++ '>' :: r := by simp [endTag]
    rw [happend, breakBeforeFolded_append_word hopen hlow hin]
  rw [startTag_append, tokens?_cons_of_raw (scanToken?_startTag ht ha _) hend]
  match children, hc with
  | [], _ =>
      have hnil := hbreak [] (by simp)
      rw [List.nil_append] at hnil
      rw [Node.writtenAll, List.nil_append, hnil, tokens?_endTag ht, Option.map_map]
      rfl
  | [.text s], ⟨hne, hin⟩ =>
      have hs : s.toList ≠ [] := fun h => hne (String.toList_eq_nil_iff.1 h)
      have hw : Node.writtenAll true [.text s] = s.toList := by
        simp [Node.writtenAll, Node.written]
      rw [hw, hbreak s.toList hin, tokens?_endTag ht, Option.map_map]
      simp [Node.tokensAll, Node.tokens, hs, Function.comp_def]

theorem atMarkup_written {n : Node} (h : n.isText = false) (raw : Bool) (r : List Char) :
    AtMarkup (n.written raw ++ r) := by
  cases n with
  | element tag attributes children =>
      rw [Node.written, List.append_assoc, startTag_append]
      exact .inr ⟨_, rfl⟩
  | text s => cases h
  | comment s => exact .inr ⟨_, rfl⟩

theorem atMarkup_writtenAll {ns : List Node} (h : Node.beginInText ns = false) (raw : Bool)
    {r : List Char} (hr : AtMarkup r) : AtMarkup (Node.writtenAll raw ns ++ r) := by
  cases ns with
  | nil => rwa [Node.writtenAll, List.nil_append]
  | cons n ns =>
      rw [Node.writtenAll, List.append_assoc]
      exact atMarkup_written (by simpa [Node.beginInText] using h) raw _

theorem atMarkup_endTag (tag : String) (r : List Char) : AtMarkup (endTag tag ++ r) :=
  .inr ⟨_, rfl⟩

mutual

/-- The markup of a tree in normal form is read as the tokens of the tree. -/
theorem tokens?_written : ∀ {n : Node}, n.Normal → ∀ {r : List Char},
    (n.isText = true → AtMarkup r) →
      tokens? (n.written false ++ r) = (tokens? r).map (n.tokens false ++ ·)
  | .element tag attributes children, h, r, _ => by
      obtain ⟨ht, ha, hc⟩ := Node.normal_element.1 h
      rw [Node.written, Node.tokens, List.append_assoc]
      by_cases hvoid : isVoid tag = true
      · rw [if_pos hvoid, if_pos hvoid, List.nil_append,
          tokens?_startTag ht ha (isRaw_of_isVoid hvoid)]
        rfl
      rw [if_neg hvoid] at hc
      rw [if_neg hvoid, if_neg hvoid, List.append_assoc]
      by_cases hraw : isRaw tag = true
      · rw [if_pos hraw] at hc
        rw [hraw, tokens?_raw ht ha hraw hc]
        simp
      · rw [if_neg hraw] at hc
        rw [Bool.not_eq_true] at hraw
        rw [hraw, tokens?_startTag ht ha hraw, tokens?_writtenAll hc (atMarkup_endTag tag r),
          tokens?_endTag ht, Option.map_map, Option.map_map]
        simp [Function.comp_def]
  | .text s, h, r, hr => by
      rw [Node.written, Node.tokens, if_neg Bool.false_ne_true, if_neg Bool.false_ne_true,
        tokens?_escape (Node.normal_text.1 h) (hr rfl)]
      rfl
  | .comment s, h, r, _ => by
      rw [Node.written, Node.tokens, tokens?_comment (Node.normal_comment.1 h)]
      rfl

/-- The markup of a forest in normal form is read as the tokens of the forest, up to markup. -/
theorem tokens?_writtenAll : ∀ {ns : List Node}, Node.AllNormal ns → ∀ {r : List Char},
    AtMarkup r →
      tokens? (Node.writtenAll false ns ++ r) = (tokens? r).map (Node.tokensAll false ns ++ ·)
  | [], _, r, _ => by
      rw [Node.writtenAll, Node.tokensAll, List.nil_append]
      simp
  | n :: ns, h, r, hr => by
      obtain ⟨hn, hseam, hns⟩ := Node.allNormal_cons.1 h
      have hnext : n.isText = true → AtMarkup (Node.writtenAll false ns ++ r) := fun ht =>
        atMarkup_writtenAll (hseam ht) false hr
      rw [Node.writtenAll, Node.tokensAll, List.append_assoc, tokens?_written hn hnext,
        tokens?_writtenAll hns hr, Option.map_map]
      simp [Function.comp_def]

end

end Componentry.Markup
