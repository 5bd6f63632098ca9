import Componentry.Declaration.Extract
import Componentry.Proofs.Declaration.Walk
import Componentry.Proofs.Text.Breaking

/-!
# Where declarations stand

`sites` names the places among the children of a definition where members are declared, without
going through the states of `classify`: an element that declares a member is one, and so is a
comment that begins with `@`, if the last child before it that is not blank is a text that opens a
block. `filterMap_classify` shows that classification finds these places and no others, in document
order.
-/

namespace Componentry

open Markup Text

/-- A text opens a block if it begins with `<@`, blanks aside, and goes on to a `>` with a word
before it. The first word is the name of the block and the others are its attributes; what stands
behind the `>` is its text. -/
theorem Block.ofText?_eq_some_iff {text : String} {block : Block} :
    Block.ofText? text = some block ↔
      ∃ header body, trimStart text.toList = '<' :: '@' :: (header ++ '>' :: body) ∧
        '>' ∉ header ∧
        wordsBy isAsciiBlank header =
          block.name.toList :: block.attributes.map String.toList ∧
        block.body = String.ofList (trimmed body) := by
  have hself : ∀ words : List (List Char),
      (words.map String.ofList).map String.toList = words := fun words => by simp
  constructor
  · intro h
    unfold Block.ofText? at h
    split at h
    · cases h
    · next s hopens =>
      split at h
      · cases h
      · next header body hbreak =>
        obtain ⟨rfl, hfree⟩ := breakOn?_singleton_eq_some_iff.1 hbreak
        split at h
        · cases h
        · next name attributes hwords =>
          cases h
          refine ⟨header, body, after?_eq_some_iff.1 hopens, hfree, ?_, rfl⟩
          rw [hwords, hself, String.toList_ofList]
  · rintro ⟨header, body, hopens, hfree, hwords, hbody⟩
    have hafter : after? ['<', '@'] (trimStart text.toList) = some (header ++ '>' :: body) :=
      after?_eq_some_iff.2 hopens
    have hnames : (block.attributes.map String.toList).map String.ofList = block.attributes := by
      simp
    rw [Block.ofText?, hafter]
    simp only [breakOn?_singleton_append hfree, hwords, hnames, String.ofList_toList, ← hbody]

inductive Site where
  | element (index : Nat) (element : Element)
  /-- A text that opens a block and the comment that closes it. -/
  | block (textIndex commentIndex : Nat) (block : Block) (marker : String)
  deriving Repr

namespace Site

def tag : Site → String
  | .element _ e => e.tag
  | .block _ _ b _ => b.tag

def attributes : Site → List String
  | .element _ e => e.attributeNames
  | .block _ _ b _ => b.attributes

end Site

/-- The place that ends with a node, by the children before it. -/
def siteAfter? (isDefined : String → Bool) (before : List Node) : Node → Option Site
  | .text _ => none
  | .element tag attributes children =>
    if declaresMember isDefined tag then
      some (.element before.length ⟨tag, attributes, children⟩)
    else none
  | .comment marker =>
    if beginsWith '@' marker then
      match lastSolid? before with
      | some (.text text, i) => (Block.ofText? text).map (.block i before.length · marker)
      | _ => none
    else none

/-- The places where the children of a definition declare members, in document order. -/
def sites (isDefined : String → Bool) (children : List Node) : List Site :=
  children.zipIdx.filterMap fun child => siteAfter? isDefined (children.take child.2) child.1

def Classification.site? : Classification → Option Site
  | .blank _ => none
  | .structural _ => none
  | .pair i j text marker => (Block.ofText? text).map (.block i j · marker)
  | .element i e => some (.element i e)

/-- An element that is the only child of a definition. -/
theorem classify_singleton {isDefined : String → Bool} {tag : String}
    (h : declaresMember isDefined tag = true) (definition : String)
    (attributes attributes' : List Attribute) (children : List Node) :
    classify isDefined ⟨definition, attributes, [.element tag attributes' children]⟩ =
      [.element 0 ⟨tag, attributes', children⟩] := by
  rw [classify, classifyFrom_element, if_pos h]
  rfl

/-- The place is that of the declaration which the walk finds at the node. -/
theorem siteAfter?_eq (isDefined : String → Bool) (before : List Node) (n : Node) :
    siteAfter? isDefined before n =
      (kindAfter? isDefined before n).bind Classification.site? := by
  cases n with
  | text s =>
      rw [kindAfter?.eq_def]
      split <;> rfl
  | element tag attributes children =>
      by_cases h : declaresMember isDefined tag = true
      · simp only [siteAfter?, kindAfter?, Node.isBlank, if_pos h]
        rfl
      · simp only [siteAfter?, kindAfter?, Node.isBlank, if_neg h]
        rfl
  | comment marker =>
      by_cases h : beginsWith '@' marker = true
      · simp only [siteAfter?, kindAfter?, Node.isBlank, if_pos h, waitingAfter]
        rcases lastSolid? before with _ | ⟨_ | _ | _, i⟩ <;> rfl
      · simp only [siteAfter?, kindAfter?, Node.isBlank, if_neg h]
        rfl

/-- Classification finds the places of declarations in document order. -/
theorem filterMap_classify (isDefined : String → Bool) (definition : Element) :
    (classify isDefined definition).filterMap Classification.site? =
      sites isDefined definition.children := by
  have hfilter : (classify isDefined definition).filterMap Classification.site? =
      ((classify isDefined definition).filter (!·.isStructural)).filterMap
        Classification.site? := by
    rw [List.filterMap_filter]
    congr 1
    funext c
    cases c <;> rfl
  rw [hfilter, filter_classify, List.filterMap_filterMap, sites]
  simp only [siteAfter?_eq]

end Componentry
