import Componentry.Proofs.Markup.Progress
import Componentry.Proofs.Markup.RoundTrip
import Componentry.Proofs.Text.Case

/-!
# The shape of trees that are read

Whatever a text is, the forest that it is read as has a shape that its readers rely on:
`Node.AllShapedAt` says which. Each kind of token has its part in it (`shaped_tokens?`), and a
builder keeps it with every token: the open elements lie one inside the other, so the level of a new
node is one more than their number, which the limit bounds (`Builder.Shaped`).
-/

namespace Componentry

namespace Markup

open Text

structure Named (attributes : List Attribute) : Prop where
  name_ne : ∀ a ∈ attributes, a.name ≠ ""
  distinct : attributes.Pairwise fun a b => sameName a.name b.name = false

def Separate (nodes : List Node) : Prop :=
  nodes.IsChain fun m n => m.isText = true → n.isText = false

/-- The shape of a tree whose root is at a level; outermost nodes are at level 1. -/
inductive Node.ShapedAt : Nat → Node → Prop where
  | element {level : Nat} {tag : String} {attributes : List Attribute} {children : List Node} :
      NormalTag tag → Named attributes → (isVoid tag = true → children = []) →
      level ≤ depthLimit + 1 → (level = depthLimit + 1 → children = []) →
      Separate children → (∀ n ∈ children, n.ShapedAt (level + 1)) →
      ShapedAt level (.element tag attributes children)
  | text {level : Nat} {s : String} : s ≠ "" → ShapedAt level (.text s)
  | comment {level : Nat} {s : String} :
      ¬ ['-', '-', '>'] <:+: s.toList → ShapedAt level (.comment s)

structure Node.AllShapedAt (level : Nat) (nodes : List Node) : Prop where
  separate : Separate nodes
  shaped : ∀ n ∈ nodes, n.ShapedAt level

def Token.Shaped : Token → Prop
  | .startTag name attributes _ => NormalTag name ∧ Named attributes
  | .text s => s ≠ []
  | .rawText s => s ≠ []
  | .comment s => ¬ ['-', '-', '>'] <:+: s
  | .endTag _ | .ignored => True

section tokens

variable {s r : List Char}

theorem continuesTag_of_isAlpha {c : Char} (h : c.isAlpha = true) : continuesTag c = true := by
  have hname := (continuesName_of_isAlphanum (c := c) (.inl (by
    rw [Char.isAlphanum, h, Bool.true_or]))).1
  rw [continuesName, Bool.and_eq_true] at hname
  exact hname.1

theorem continuesTag_toLower {c : Char} (h : continuesTag c = true) :
    continuesTag c.toLower = true := by
  by_cases halpha : c.isAlpha = true
  · exact continuesTag_of_isAlpha (Char.isAlpha_toLower_eq_isAlpha c ▸ halpha)
  · have hupper : ¬ c.isUpper = true := fun hu => halpha (by rw [Char.isAlpha, hu, Bool.true_or])
    rwa [Char.toLower_eq_of_not_isUpper hupper]

theorem normalTag_of_tagName? {name : List Char} (h : tagName? s = some (name, r)) :
    NormalTag (String.ofList name) := by
  cases s with
  | nil => cases h
  | cons c s =>
      rw [tagName?] at h
      split at h
      · next halpha =>
        cases h
        refine ⟨?_, fun d hd => ?_⟩
        · rw [String.toList_ofList, List.map_cons, List.head?_cons, Option.any_some,
            Char.isLower_toLower_eq_isAlpha, halpha]
        · rw [String.toList_ofList] at hd
          obtain ⟨e, he, rfl⟩ := List.mem_map.1 hd
          have hcontinues : continuesTag e = true := by
            rcases List.mem_cons.1 he with rfl | he
            · exact continuesTag_of_isAlpha halpha
            · exact List.all_eq_true.1 List.all_takeWhile e he
          have hlower := continuesTag_toLower hcontinues
          simp only [continuesTag, Bool.and_eq_true, Bool.not_eq_true', bne_iff_ne] at hlower
          exact ⟨Char.isUpper_toLower_eq_false e, hlower.1.1, hlower.1.2, hlower.2⟩
      · cases h

/-- A comment that holds no `>` does not hold its end. -/
theorem not_commentEnd_infix (h : '>' ∉ s) : ¬ ['-', '-', '>'] <:+: s :=
  fun hin => h (hin.subset (by simp))

theorem not_mem_untilClose (s : List Char) : '>' ∉ (untilClose s).1 := by
  rw [← List.singleton_infix_iff, untilClose]
  cases h : breakOn? ['>'] s with
  | none => exact not_infix_of_breakOn?_eq_none h
  | some parts => exact not_infix_of_breakOn? (List.cons_ne_nil _ _) h

theorem decode_ne_nil (h : s ≠ []) : decode s ≠ [] := by
  obtain ⟨c, cs, rfl⟩ := List.exists_cons_of_ne_nil h
  rw [decode.eq_def]
  simp only
  repeat' split
  all_goals exact List.cons_ne_nil _ _

theorem Named.addAttribute {read : List Attribute} (h : Named read) {a : Attribute}
    (ha : a.name ≠ "") : Named (addAttribute read a) := by
  unfold Markup.addAttribute
  split
  · exact h
  · next hnew =>
    rw [Bool.not_eq_true, List.any_eq_false] at hnew
    refine ⟨?_, List.pairwise_append.2 ⟨h.distinct, List.pairwise_singleton _ _, ?_⟩⟩
    · exact List.forall_mem_append.2 ⟨h.name_ne, List.forall_mem_singleton.2 ha⟩
    · intro b hb c hc
      rw [List.mem_singleton.1 hc]
      exact Bool.eq_false_iff.2 (hnew b hb)

theorem Named.attributes? {read as : List Attribute} {b : Bool} (hread : Named read)
    (hs : Spaced s) (h : attributes? read s = some (as, b, r)) : Named as := by
  fun_induction Markup.attributes? read s with
  | case1 =>
      cases h
      exact hread
  | case2 read s r' hp _ ih => exact ih hread (hs.of_suffix (suffix_of_pass hp)) h
  | case3 => cases h
  | case4 read s a r' hp _ ih =>
      exact ih (hread.addAttribute (of_pass_dropWhile_isGap hs hp).1)
        (hs.of_suffix (suffix_of_pass hp)) h
  | case5 => cases h

theorem shaped_scanDeclaration (s : List Char) : (scanDeclaration s).1.Shaped := by
  unfold scanDeclaration
  split
  · split
    · next hbreak => exact not_infix_of_breakOn? (List.cons_ne_nil _ _) hbreak
    · next hbreak => exact not_infix_of_breakOn?_eq_none hbreak
  · split
    · trivial
    · exact not_commentEnd_infix (not_mem_untilClose s)

theorem shaped_scanEndTag (s : List Char) : (scanEndTag s).1.Shaped := by
  unfold scanEndTag
  split
  · trivial
  · simp only
    split
    · trivial
    · exact not_commentEnd_infix (not_mem_untilClose s)

theorem shaped_scanMarkup? (hs : Spaced s) {t : Token} (h : scanMarkup? s = some (t, r)) :
    t.Shaped := by
  rcases scanMarkup?_cases h with ⟨s', -, heq⟩ | ⟨s', -, heq⟩ | ⟨body, s', -, hbreak, rfl⟩ |
    ⟨name, s', as, b, hname, hattributes, rfl⟩ | ⟨rfl, -⟩
  · have ht := shaped_scanDeclaration s'
    rwa [heq] at ht
  · have ht := shaped_scanEndTag s'
    rwa [heq] at ht
  · refine not_commentEnd_infix fun hmem => ?_
    rcases List.mem_cons.1 hmem with heq | hmem
    · exact nomatch heq
    · exact not_infix_of_breakOn? (List.cons_ne_nil _ _) hbreak
        ((List.singleton_infix_iff _ _).2 hmem)
  · have hnil : Named [] := ⟨nofun, .nil⟩
    exact ⟨normalTag_of_tagName? hname,
      hnil.attributes? (hs.of_suffix (suffix_tagName? hname)) hattributes⟩
  · exact List.cons_ne_nil _ _

theorem shaped_scanToken? (hs : Spaced s) {c : Char} {t : Token}
    (h : scanToken? c s = some (t, r)) : t.Shaped := by
  unfold scanToken? at h
  split at h
  · exact shaped_scanMarkup? hs h
  · cases h
    exact List.cons_ne_nil _ _

theorem shaped_tokens? (hs : Spaced s) {ts : List Token} (h : tokens? s = some ts) :
    ∀ t ∈ ts, t.Shaped := by
  refine forall_tokens? h (fun c cs t r hcs => ?_) fun _ hne => hne
  exact shaped_scanToken? (hs.of_suffix ((List.suffix_cons c cs).trans hcs))

end tokens

theorem Builder.exists_of_endInText {ns : List Node} (h : Builder.endInText ns = true) :
    ∃ init s, ns = init ++ [.text s] := by
  rcases List.eq_nil_or_concat ns with rfl | ⟨init, n, rfl⟩
  · exact nomatch h
  · rw [List.concat_eq_append, Builder.endInText_append_singleton] at h
    cases n with
    | text s => exact ⟨init, s, List.concat_eq_append⟩
    | element | comment => exact nomatch h

theorem addText_concat (init : List Node) (s text : String) :
    addText text (init ++ [.text s]) = init ++ [.text (s ++ text)] := by
  induction init with
  | nil => rfl
  | cons n ns ih =>
      have hne : ns ++ [Node.text s] ≠ [] := by simp
      rw [List.cons_append, addText.eq_3 _ _ _ (by simp), ih]
      rfl

namespace Node.AllShapedAt

variable {level : Nat} {ns : List Node}

theorem nil : AllShapedAt level [] := ⟨.nil, nofun⟩

theorem concat_iff {n : Node} : AllShapedAt level (ns ++ [n]) ↔
    AllShapedAt level ns ∧ (n.isText = true → Builder.endInText ns = false) ∧
      n.ShapedAt level := by
  have hseam : (∀ m ∈ ns.getLast?, ∀ k ∈ [n].head?, m.isText = true → k.isText = false) ↔
      (n.isText = true → Builder.endInText ns = false) := by
    rw [Builder.endInText]
    cases ns.getLast? with
    | none => simp
    | some m => cases hm : m.isText <;> simp [hm]
  constructor
  · rintro ⟨hseparate, hshaped⟩
    obtain ⟨hns, -, hlast⟩ := List.isChain_append.1 hseparate
    rw [List.forall_mem_append] at hshaped
    exact ⟨⟨hns, hshaped.1⟩, hseam.1 hlast, List.forall_mem_singleton.1 hshaped.2⟩
  · rintro ⟨⟨hns, hshaped⟩, hlast, hn⟩
    exact ⟨List.isChain_append.2 ⟨hns, .singleton n, hseam.2 hlast⟩,
      List.forall_mem_append.2 ⟨hshaped, List.forall_mem_singleton.2 hn⟩⟩

theorem concat (h : AllShapedAt level ns) {n : Node} (hn : n.ShapedAt level)
    (htext : n.isText = false) : AllShapedAt level (ns ++ [n]) :=
  concat_iff.2 ⟨h, fun ht => absurd (ht.symm.trans htext) Bool.noConfusion, hn⟩

/-- A text that is added does not come to stand beside another, which it goes on. -/
theorem addText (h : AllShapedAt level ns) {text : String} (htext : text ≠ "") :
    AllShapedAt level (addText text ns) := by
  cases hend : Builder.endInText ns with
  | false =>
      rw [Builder.addText_of_endInText_eq_false hend]
      exact concat_iff.2 ⟨h, fun _ => hend, .text htext⟩
  | true =>
      obtain ⟨init, s, rfl⟩ := Builder.exists_of_endInText hend
      obtain ⟨hinit, hlast, -⟩ := concat_iff.1 h
      rw [addText_concat]
      exact concat_iff.2 ⟨hinit, hlast, .text (fun h => htext (String.append_eq_empty_iff.1 h).2)⟩

end Node.AllShapedAt

structure Opened.ShapedAt (level : Nat) (o : Opened) : Prop where
  tag : NormalTag o.tag
  attributes : Named o.attributes
  isVoid_eq_false : isVoid o.tag = false
  children : Node.AllShapedAt (level + 1) o.children

/-- The shape of open elements, innermost first; the outermost is at level 1. -/
def Opened.AllShaped : List Opened → Prop
  | [] => True
  | o :: os => o.ShapedAt (os.length + 1) ∧ AllShaped os

namespace Builder

variable {b : Builder}

structure Shaped (b : Builder) : Prop where
  opened : Opened.AllShaped b.opened
  roots : Node.AllShapedAt 1 b.roots
  length_le : b.opened.length ≤ depthLimit

namespace Shaped

theorem onSiblings (h : b.Shaped) {f : List Node → List Node}
    (hf : ∀ ns, Node.AllShapedAt (b.opened.length + 1) ns →
      Node.AllShapedAt (b.opened.length + 1) (f ns)) : (b.onSiblings f).Shaped := by
  obtain ⟨opened, roots⟩ := b
  cases opened with
  | nil => exact ⟨trivial, hf roots h.roots, h.length_le⟩
  | cons o os =>
      obtain ⟨ho, hos⟩ := h.opened
      exact ⟨⟨⟨ho.tag, ho.attributes, ho.isVoid_eq_false, hf o.children ho.children⟩, hos⟩,
        h.roots, h.length_le⟩

theorem add (h : b.Shaped) {n : Node} (hn : n.ShapedAt (b.opened.length + 1))
    (htext : n.isText = false) : (b.add n).Shaped :=
  h.onSiblings fun _ hns => hns.concat hn htext

theorem close (h : b.Shaped) : b.close.Shaped := by
  obtain ⟨opened, roots⟩ := b
  cases opened with
  | nil => exact h
  | cons o os =>
      obtain ⟨ho, hos⟩ := h.opened
      have hlt : os.length + 1 ≤ depthLimit := h.length_le
      have hrest : (Builder.mk os roots).Shaped := ⟨hos, h.roots, Nat.le_of_succ_le hlt⟩
      refine hrest.add (.element ho.tag ho.attributes (fun hvoid => ?_)
        (Nat.le_succ_of_le hlt) (fun hlevel => ?_) ho.children.separate ho.children.shaped) rfl
      · exact absurd (hvoid.symm.trans ho.isVoid_eq_false) Bool.noConfusion
      · exact absurd hlevel (Nat.ne_of_lt (Nat.lt_succ_of_le hlt))

theorem closeMany (h : b.Shaped) (n : Nat) : (b.closeMany n).Shaped := by
  induction n generalizing b with
  | zero => exact h
  | succ n ih => exact ih h.close

theorem step (h : b.Shaped) {t : Token} (ht : t.Shaped) : (b.step t).Shaped := by
  cases t with
  | startTag name attributes selfClosing =>
      rw [Builder.step]
      split
      · exact h.add (.element ht.1 ht.2 (fun _ => rfl) (Nat.succ_le_succ h.length_le)
          (fun _ => rfl) .nil nofun) rfl
      · next hopens =>
        simp only [Bool.or_eq_true, decide_eq_true_eq, not_or, Bool.not_eq_true] at hopens
        exact ⟨⟨⟨ht.1, ht.2, hopens.1.2, .nil⟩, h.opened⟩, h.roots, Nat.lt_of_not_le hopens.2⟩
  | endTag name =>
      rw [Builder.step]
      split
      · exact h.closeMany _
      · exact h
  | text s =>
      have hne := mt String.ofList_eq_empty_iff.1 (decode_ne_nil ht)
      exact h.onSiblings fun _ hns => hns.addText hne
  | rawText s =>
      have hne := mt String.ofList_eq_empty_iff.1 ht
      exact h.onSiblings fun _ hns => hns.addText hne
  | comment s => exact h.add (.comment (by rwa [String.toList_ofList])) rfl
  | ignored => exact h

theorem foldl (h : b.Shaped) {ts : List Token} (hts : ∀ t ∈ ts, t.Shaped) :
    (ts.foldl Builder.step b).Shaped := by
  induction ts generalizing b with
  | nil => exact h
  | cons t ts ih =>
      rw [List.forall_mem_cons] at hts
      exact ih (h.step hts.1) hts.2

end Shaped

end Builder

/-- A text without other blanks than gaps is read, and as a forest of this shape: every tag begins
with a small letter and holds no capital, blank, slash or `>`; the attributes of an element have
different names, none of them empty; a void element has no children; no text is empty or stands
beside another; no comment holds its end; and the deepest elements are one level below the limit,
where they have no children. -/
theorem forest?_shaped (s : String) (h : Spaced s.toList) :
    ∃ nodes, forest? s = some nodes ∧ Node.AllShapedAt 1 nodes := by
  obtain ⟨ts, hts⟩ := exists_tokens? h
  have hstart : Builder.start.Shaped := ⟨trivial, .nil, Nat.zero_le _⟩
  refine ⟨forestOf ts, ?_, ?_⟩
  · rw [forest?, hts]
    rfl
  · exact ((hstart.foldl (shaped_tokens? h hts)).closeMany _).roots

/-- A text with most of what markup should not hold. -/
theorem forest?_shaped_lenient :
    let s := "<DIV a=1 A b/=x ><!--a--b-->x<br>y</br>&lt;<?q?><Script>a<b</script></@c>t</p>u<!-- v"
    Spaced s.toList ∧
      (forest? s).map markupOf = some ("<div a=\"1\" b =x><!--a--b-->x<br>y&lt;<!--?q?-->" ++
        "<script>a<b</script><!--@c-->tu<!-- v--></div>") ∧
      ∃ nodes, forest? s = some nodes ∧ Node.AllShapedAt 1 nodes := by
  intro s
  have hs : Spaced s.toList := by decide +kernel
  exact ⟨hs, by decide +kernel, forest?_shaped s hs⟩

end Markup

end Componentry
