import Componentry.Markup.Tree
import Componentry.Proofs.Markup.Progress
import Componentry.Proofs.Text.Case

/-!
# Tags that are read are in lower case

A start tag is read in lower case, and a tree takes its tags from start tags. So two tags of trees
that were read are equal as soon as they are equal up to case.
-/

namespace Componentry

namespace Markup

open Text

/-- A start tag in lower case, or another token. -/
def Token.Lowered : Token → Prop
  | .startTag name _ _ => lower name = name
  | _ => True

inductive Node.Lowered : Node → Prop where
  | element {tag : String} {attributes : List Attribute} {children : List Node} :
      lower tag = tag → (∀ n ∈ children, n.Lowered) → Lowered (.element tag attributes children)
  | text (s : String) : Lowered (.text s)
  | comment (s : String) : Lowered (.comment s)

theorem lower_of_tagName? {s name r : List Char} (h : tagName? s = some (name, r)) :
    lower (String.ofList name) = String.ofList name := by
  cases s with
  | nil => cases h
  | cons c cs =>
      rw [tagName?] at h
      split at h
      · have hname : name = (c :: cs.takeWhile continuesTag).map Char.toLower :=
          (congrArg Prod.fst (Option.some_inj.1 h)).symm
        have hlower :
            String.ofList name = lower (String.ofList (c :: cs.takeWhile continuesTag)) := by
          rw [hname, lower, String.toList_ofList]
        rw [hlower, lower_lower]
      · cases h

theorem lowered_scanDeclaration (s : List Char) : (scanDeclaration s).1.Lowered := by
  unfold scanDeclaration
  repeat' split
  all_goals trivial

theorem lowered_scanEndTag (s : List Char) : (scanEndTag s).1.Lowered := by
  unfold scanEndTag
  split
  · trivial
  · split
    · trivial
    · trivial

theorem lowered_scanMarkup? {s r : List Char} {t : Token} (h : scanMarkup? s = some (t, r)) :
    t.Lowered := by
  rcases scanMarkup?_cases h with ⟨s', -, heq⟩ | ⟨s', -, heq⟩ | ⟨body, s', -, -, rfl⟩ |
    ⟨name, s', as, b, hname, -, rfl⟩ | ⟨rfl, -⟩
  · have ht := lowered_scanDeclaration s'
    rwa [heq] at ht
  · have ht := lowered_scanEndTag s'
    rwa [heq] at ht
  · trivial
  · exact lower_of_tagName? hname
  · trivial

theorem lowered_scanToken? {c : Char} {s r : List Char} {t : Token}
    (h : scanToken? c s = some (t, r)) : t.Lowered := by
  unfold scanToken? at h
  split at h
  · exact lowered_scanMarkup? h
  · cases h
    trivial

theorem lowered_tokens? {s : List Char} {ts : List Token} (h : tokens? s = some ts) :
    ∀ t ∈ ts, t.Lowered :=
  forall_tokens? h (fun _ _ _ _ _ => lowered_scanToken?) fun _ _ => trivial

theorem lowered_addText {ns : List Node} (h : ∀ n ∈ ns, n.Lowered) (text : String) :
    ∀ n ∈ addText text ns, n.Lowered := by
  fun_induction addText text ns with
  | case1 => exact List.forall_mem_singleton.2 (.text text)
  | case2 s => exact List.forall_mem_singleton.2 (.text _)
  | case3 n ns _ ih =>
      rw [List.forall_mem_cons] at h ⊢
      exact ⟨h.1, ih h.2⟩

namespace Builder

variable {b : Builder}

structure Lowered (b : Builder) : Prop where
  opened : ∀ o ∈ b.opened, lower o.tag = o.tag ∧ ∀ n ∈ o.children, n.Lowered
  roots : ∀ n ∈ b.roots, n.Lowered

namespace Lowered

theorem onSiblings (h : b.Lowered) {f : List Node → List Node}
    (hf : ∀ ns, (∀ n ∈ ns, n.Lowered) → ∀ n ∈ f ns, n.Lowered) : (b.onSiblings f).Lowered := by
  obtain ⟨opened, roots⟩ := b
  cases opened with
  | nil => exact ⟨nofun, hf roots h.roots⟩
  | cons o os =>
      have hopened := List.forall_mem_cons.1 h.opened
      exact ⟨List.forall_mem_cons.2 ⟨⟨hopened.1.1, hf o.children hopened.1.2⟩, hopened.2⟩, h.roots⟩

theorem add (h : b.Lowered) {n : Node} (hn : n.Lowered) : (b.add n).Lowered := by
  refine h.onSiblings fun ns hns => ?_
  rw [List.forall_mem_append]
  exact ⟨hns, List.forall_mem_singleton.2 hn⟩

theorem close (h : b.Lowered) : b.close.Lowered := by
  obtain ⟨opened, roots⟩ := b
  cases opened with
  | nil => exact h
  | cons o os =>
      have hopened := List.forall_mem_cons.1 h.opened
      have hrest : (Builder.mk os roots).Lowered := ⟨hopened.2, h.roots⟩
      exact hrest.add (.element hopened.1.1 hopened.1.2)

theorem closeMany (h : b.Lowered) (n : Nat) : (b.closeMany n).Lowered := by
  induction n generalizing b with
  | zero => exact h
  | succ n ih => exact ih h.close

theorem step (h : b.Lowered) {t : Token} (ht : t.Lowered) : (b.step t).Lowered := by
  cases t with
  | startTag name attributes selfClosing =>
      rw [Builder.step]
      split
      · exact h.add (.element ht (List.forall_mem_nil _))
      · exact ⟨List.forall_mem_cons.2 ⟨⟨ht, List.forall_mem_nil _⟩, h.opened⟩, h.roots⟩
  | endTag name =>
      rw [Builder.step]
      split
      · exact h.closeMany _
      · exact h
  | text s => exact h.onSiblings fun _ hns => lowered_addText hns _
  | rawText s => exact h.onSiblings fun _ hns => lowered_addText hns _
  | comment s => exact h.add (.comment _)
  | ignored => exact h

theorem foldl (h : b.Lowered) {ts : List Token} (hts : ∀ t ∈ ts, t.Lowered) :
    (ts.foldl Builder.step b).Lowered := by
  induction ts generalizing b with
  | nil => exact h
  | cons t ts ih =>
      rw [List.forall_mem_cons] at hts
      exact ih (h.step hts.1) hts.2

end Lowered

end Builder

/-- Every tag in a forest that was read is in lower case. -/
theorem lowered_forest (s : String) : ∀ n ∈ forest s, n.Lowered := by
  unfold forest forest?
  cases hts : tokens? s.toList with
  | none => exact nofun
  | some ts =>
      have hstart : Builder.start.Lowered := ⟨nofun, nofun⟩
      exact ((hstart.foldl (lowered_tokens? hts)).closeMany _).roots

theorem lower_tag_of_mem_childElements {e child : Element} (h : e.node.Lowered)
    (hchild : child ∈ e.childElements) : lower child.tag = child.tag := by
  obtain ⟨n, hn, helement⟩ := List.mem_filterMap.1 hchild
  cases h with
  | element _ hchildren =>
      cases hchildren n hn with
      | element htag _ =>
          cases helement
          exact htag
      | text | comment => exact nomatch helement

end Markup

end Componentry
