import Componentry.Proofs.Markup.WrittenTokens

/-!
# Written markup is read back

A forest in normal form, nested no deeper than a reader goes, is what its own markup is read as.
The markup has the tokens of the forest, so what is left to show is that a builder that takes them
adds the forest to the siblings it is at, whatever elements are open: `foldl_tokensAll`, by
induction on the trees. The open elements of the builder are those around the siblings, hence the
bound on their number, and a text in front must not meet another text.
-/

namespace Componentry.Markup

open Componentry.Text

namespace Builder

variable {b : Builder}

def siblings (b : Builder) : List Node :=
  match b.opened with
  | [] => b.roots
  | o :: _ => o.children

def endInText (nodes : List Node) : Bool := nodes.getLast?.any Node.isText

theorem onSiblings_onSiblings (f g : List Node → List Node) (b : Builder) :
    (b.onSiblings f).onSiblings g = b.onSiblings (g ∘ f) := by
  unfold onSiblings
  cases b.opened <;> simp

theorem length_opened_onSiblings (f : List Node → List Node) (b : Builder) :
    (b.onSiblings f).opened.length = b.opened.length := by
  unfold onSiblings
  cases b.opened <;> simp

theorem siblings_onSiblings (f : List Node → List Node) (b : Builder) :
    (b.onSiblings f).siblings = f b.siblings := by
  unfold siblings onSiblings
  cases b.opened <;> simp

theorem onSiblings_congr {f g : List Node → List Node} (h : f b.siblings = g b.siblings) :
    b.onSiblings f = b.onSiblings g := by
  unfold siblings at h
  unfold onSiblings
  cases hb : b.opened with
  | nil =>
      rw [hb] at h
      simp only [h]
  | cons o os =>
      rw [hb] at h
      simp only [h]

theorem onSiblings_append_nil (b : Builder) : b.onSiblings (· ++ []) = b := by
  obtain ⟨opened, roots⟩ := b
  cases opened <;> simp [onSiblings]

theorem onSiblings_append_append (b : Builder) (ms ns : List Node) :
    (b.onSiblings (· ++ ms)).onSiblings (· ++ ns) = b.onSiblings (· ++ (ms ++ ns)) := by
  rw [onSiblings_onSiblings]
  simp [Function.comp_def]

theorem endInText_append_singleton (ms : List Node) (n : Node) :
    endInText (ms ++ [n]) = n.isText := by
  simp [endInText]

theorem addText_of_endInText_eq_false {ms : List Node} (h : endInText ms = false) (s : String) :
    addText s ms = ms ++ [.text s] := by
  induction ms with
  | nil => rfl
  | cons m ms ih =>
      cases ms with
      | nil =>
          cases m with
          | text t => exact absurd h (by simp [endInText, Node.isText])
          | element | comment => rfl
      | cons k ks =>
          have hk : endInText (k :: ks) = false := by simpa [endInText] using h
          rw [addText.eq_3 _ _ _ (by simp), ih hk]
          rfl

theorem step_startTag_of_isVoid {tag : String} (h : isVoid tag = true) (b : Builder)
    (attributes : List Attribute) :
    b.step (.startTag tag attributes false) = b.add (.element tag attributes []) := by
  simp [step, h]

theorem step_startTag_of_lt {tag : String} (h : isVoid tag = false)
    (hlt : b.opened.length < depthLimit) (attributes : List Attribute) :
    b.step (.startTag tag attributes false) =
      { b with opened := ⟨tag, attributes, []⟩ :: b.opened } := by
  simp [step, h, hlt]

/-- Closing the element that was opened last adds it with the children it has got. -/
theorem step_endTag_opened (b : Builder) (tag : String) (attributes : List Attribute)
    (children : List Node) :
    (onSiblings (· ++ children)
      { b with opened := ⟨tag, attributes, []⟩ :: b.opened }).step (.endTag tag) =
      b.add (.element tag attributes children) := by
  simp [step, onSiblings, closeMany, close, Opened.node, List.findIdx?_cons]

theorem onSiblings_addText (h : endInText b.siblings = false) (s : String) :
    b.onSiblings (addText s) = b.add (.text s) :=
  onSiblings_congr (addText_of_endInText_eq_false h s)

/-- The tokens of the content of a raw element add it to an element without children. -/
theorem foldl_tokensAll_raw {tag : String} {children : List Node} (h : RawContent tag children)
    (hs : b.siblings = []) :
    (Node.tokensAll true children).foldl step b = b.onSiblings (· ++ children) := by
  match children, h with
  | [], _ => exact (onSiblings_append_nil b).symm
  | [.text s], _ =>
      have hend : endInText b.siblings = false := by rw [hs]; rfl
      simpa [Node.tokensAll, Node.tokens, step, add] using onSiblings_addText hend s

end Builder

open Builder

mutual

/-- The tokens of a tree add the tree to the siblings that a builder is at. -/
theorem foldl_tokens : ∀ {n : Node}, n.Normal → ∀ {b : Builder},
    b.opened.length + n.depth ≤ depthLimit →
      (n.isText = true → endInText b.siblings = false) →
        (n.tokens false).foldl step b = b.onSiblings (· ++ [n])
  | .element tag attributes children, h, b, hd, _ => by
      obtain ⟨-, -, hc⟩ := Node.normal_element.1 h
      rw [Node.depth_element] at hd
      rw [Node.tokens, List.foldl_cons]
      by_cases hvoid : isVoid tag = true
      · rw [if_pos hvoid] at hc
        rw [if_pos hvoid, step_startTag_of_isVoid hvoid, List.foldl_nil, hc]
        rfl
      rw [if_neg hvoid] at hc hd
      rw [Bool.not_eq_true] at hvoid
      have hopened : ((Builder.mk (⟨tag, attributes, []⟩ :: b.opened) b.roots).opened).length =
          b.opened.length + 1 := rfl
      rw [if_neg (by simp [hvoid]), step_startTag_of_lt hvoid (by omega), List.foldl_append]
      by_cases hraw : isRaw tag = true
      · rw [if_pos hraw] at hc
        rw [hraw, foldl_tokensAll_raw hc rfl]
        exact step_endTag_opened b tag attributes children
      · rw [if_neg hraw] at hc
        rw [Bool.not_eq_true] at hraw
        rw [hraw, foldl_tokensAll hc (by omega) (fun _ => rfl)]
        exact step_endTag_opened b tag attributes children
  | .text s, _, b, _, hs => by
      simpa [Node.tokens, step, decode_escape, add] using onSiblings_addText (hs rfl) s
  | .comment s, _, b, _, _ => by
      simp [Node.tokens, step, add]

/-- The tokens of a forest add the forest to the siblings that a builder is at. -/
theorem foldl_tokensAll : ∀ {ns : List Node}, Node.AllNormal ns → ∀ {b : Builder},
    b.opened.length + Node.depths ns ≤ depthLimit →
      (Node.beginInText ns = true → endInText b.siblings = false) →
        (Node.tokensAll false ns).foldl step b = b.onSiblings (· ++ ns)
  | [], _, b, _, _ => (onSiblings_append_nil b).symm
  | n :: ns, h, b, hd, hs => by
      obtain ⟨hn, hseam, hns⟩ := Node.allNormal_cons.1 h
      rw [Node.depths_cons] at hd
      have hrest : Node.beginInText ns = true →
          endInText (b.onSiblings (· ++ [n])).siblings = false := by
        intro hb
        rw [siblings_onSiblings, endInText_append_singleton]
        cases ht : n.isText with
        | false => rfl
        | true => exact absurd hb (by simp [hseam ht])
      have hroom : (b.onSiblings (· ++ [n])).opened.length + Node.depths ns ≤ depthLimit := by
        rw [length_opened_onSiblings]
        omega
      rw [Node.tokensAll, List.foldl_append,
        foldl_tokens hn (by omega) (by simpa [Node.beginInText] using hs),
        foldl_tokensAll hns hroom hrest, onSiblings_append_append]
      rfl

end

/-- The markup of a forest in normal form is read as the forest. -/
theorem forest?_markupOf {nodes : List Node} (h : Node.AllNormal nodes)
    (hd : Node.depths nodes ≤ depthLimit) : forest? (markupOf nodes) = some nodes := by
  have htokens := tokens?_writtenAll h (.inl rfl)
  have hfold : (Node.tokensAll false nodes).foldl step start = ⟨[], nodes⟩ :=
    foldl_tokensAll h (by simpa [start] using hd) (fun _ => rfl)
  rw [List.append_nil, tokens?] at htokens
  rw [forest?, markupOf, String.toList_ofList, htokens]
  simp [forestOf, hfold, finish, closeMany]

/-- A forest with each kind of node, hard to read back in most places. -/
def mixedForest : List Node :=
  [.text "1 < 2 & &lt;",
   .element "my-widget" [⟨"=a", none⟩, ⟨"title", some "say \"hi\" &amp;"⟩, ⟨"(e,", none⟩]
    [.text "x", .comment "--", .text "y", .element "br" [⟨"=", some ""⟩] [],
     .element "script" [] [.text "if (a < b && c) x = '</SCRIP'"], .element "style" [] []],
   .comment "-"]

theorem forest?_markupOf_mixedForest :
    Node.AllNormal mixedForest ∧ Node.depths mixedForest ≤ depthLimit ∧
      forest? (markupOf mixedForest) = some mixedForest := by
  have hn : Node.AllNormal mixedForest := by decide +kernel
  have hd : Node.depths mixedForest ≤ depthLimit := by decide +kernel
  exact ⟨hn, hd, forest?_markupOf hn hd⟩

end Componentry.Markup
