import Mathlib.Data.List.Chain
import Mathlib.Tactic.MkIffOfInductiveProp
import Componentry.Markup.Tree
import Componentry.Markup.Written

/-!
# Trees in normal form

A tree is in normal form when nothing in it is lost on the way through its written markup. Texts are
not empty and do not stand side by side, since reading joins them; a comment does not contain its
own end; tags and attribute names hold only what a reader takes for a part of them; a void element
has no content, and the content of a raw element does not contain its end tag. `Node.Normal` says so
of a tree and `Node.AllNormal` of a forest; attribute values and ordinary texts are free.

`Node.depth` counts the elements with content on the longest way down, which is what the limit of a
reader is about.
-/

namespace Componentry.Markup

open Componentry.Text

/-- A tag in lower case that a reader takes for one tag. -/
@[mk_iff] structure NormalTag (tag : String) : Prop where
  begins : tag.toList.head?.any Char.isLower = true
  continues : ∀ c ∈ tag.toList, c.isUpper = false ∧ isBlank c = false ∧ c ≠ '/' ∧ c ≠ '>'

@[mk_iff] structure NormalName (name : String) : Prop where
  ne_empty : name ≠ ""
  continues : ∀ c ∈ name.toList, isBlank c = false ∧ c ≠ '/' ∧ c ≠ '>'
  /-- An equals sign may only begin a name. -/
  equals : '=' ∉ name.toList.tail

@[mk_iff] structure NormalAttributes (attributes : List Attribute) : Prop where
  names : ∀ a ∈ attributes, NormalName a.name
  distinct : attributes.Pairwise fun a b => sameName a.name b.name = false
  /-- After an attribute without value an equals sign would give it one. -/
  separate : attributes.IsChain fun a b => a.value = none → b.name.toList.head? ≠ some '='

-- A condition on the characters of a list is decided on the list; the instance that goes through
-- all characters there are would be found first.
instance (tag : String) : Decidable (NormalTag tag) :=
  have : Decidable (∀ c ∈ tag.toList, c.isUpper = false ∧ isBlank c = false ∧ c ≠ '/' ∧ c ≠ '>') :=
    List.decidableBAll _ _
  decidable_of_iff' _ (normalTag_iff tag)

instance (name : String) : Decidable (NormalName name) :=
  have : Decidable (∀ c ∈ name.toList, isBlank c = false ∧ c ≠ '/' ∧ c ≠ '>') :=
    List.decidableBAll _ _
  decidable_of_iff' _ (normalName_iff name)

instance (attributes : List Attribute) : Decidable (NormalAttributes attributes) :=
  decidable_of_iff' _ (normalAttributes_iff attributes)

/-- The content of a raw element: nothing, or a text in which its end tag does not begin. -/
def RawContent (tag : String) : List Node → Prop
  | [] => True
  | [.text s] => s ≠ "" ∧ ¬ ('<' :: '/' :: tag.toList) <:+: s.toList.map Char.toLower
  | _ => False

instance (tag : String) : (children : List Node) → Decidable (RawContent tag children)
  | [] => isTrue trivial
  | [.text s] =>
    have : Decidable (('<' :: '/' :: tag.toList) <:+: s.toList.map Char.toLower) :=
      List.instDecidableIsInfixOfDecidableEq _ _
    inferInstanceAs (Decidable (s ≠ "" ∧
      ¬ ('<' :: '/' :: tag.toList) <:+: s.toList.map Char.toLower))
  | .text _ :: _ :: _ => isFalse id
  | .element .. :: _ => isFalse id
  | .comment _ :: _ => isFalse id

namespace Node

def isText : Node → Bool
  | .text _ => true
  | _ => false

def beginInText (nodes : List Node) : Bool := nodes.head?.any isText

mutual

def Normal : Node → Prop
  | .element tag attributes children =>
    NormalTag tag ∧ NormalAttributes attributes ∧
      if isVoid tag then children = []
      else if isRaw tag then RawContent tag children
      else AllNormal children
  | .text s => s ≠ ""
  | .comment s => ¬ ['-', '-', '>'] <:+: s.toList

def AllNormal : List Node → Prop
  | [] => True
  | n :: ns => n.Normal ∧ (n.isText = true → beginInText ns = false) ∧ AllNormal ns

end

theorem normal_element {tag : String} {attributes : List Attribute} {children : List Node} :
    (Node.element tag attributes children).Normal ↔
      NormalTag tag ∧ NormalAttributes attributes ∧
        if isVoid tag then children = []
        else if isRaw tag then RawContent tag children
        else AllNormal children := by
  rw [Normal]

theorem normal_text {s : String} : (Node.text s).Normal ↔ s ≠ "" := by rw [Normal]

theorem normal_comment {s : String} :
    (Node.comment s).Normal ↔ ¬ ['-', '-', '>'] <:+: s.toList := by
  rw [Normal]

theorem allNormal_cons {n : Node} {ns : List Node} :
    AllNormal (n :: ns) ↔
      n.Normal ∧ (n.isText = true → beginInText ns = false) ∧ AllNormal ns := by
  rw [AllNormal]

mutual

def decidableNormal : (n : Node) → Decidable n.Normal
  | .element _ _ children =>
    have := decidableAllNormal children
    have : Decidable (children = []) := decidable_of_iff' _ List.isEmpty_iff.symm
    decidable_of_iff' _ normal_element
  | .text _ => decidable_of_iff' _ normal_text
  | .comment s =>
    have : Decidable (['-', '-', '>'] <:+: s.toList) := List.instDecidableIsInfixOfDecidableEq _ _
    decidable_of_iff' _ normal_comment

def decidableAllNormal : (ns : List Node) → Decidable (AllNormal ns)
  | [] => isTrue (by rw [AllNormal]; trivial)
  | n :: ns =>
    have := decidableNormal n
    have := decidableAllNormal ns
    decidable_of_iff' _ allNormal_cons

end

instance (ns : List Node) : Decidable (AllNormal ns) := decidableAllNormal ns

mutual

/-- How deep elements with content are nested in a tree. -/
def depth : Node → Nat
  | .element tag _ children => if isVoid tag then 0 else depths children + 1
  | _ => 0

def depths : List Node → Nat
  | [] => 0
  | n :: ns => max n.depth (depths ns)

end

theorem depth_element (tag : String) (attributes : List Attribute) (children : List Node) :
    (Node.element tag attributes children).depth =
      if isVoid tag then 0 else depths children + 1 := by
  rw [depth]

theorem depths_cons (n : Node) (ns : List Node) :
    depths (n :: ns) = max n.depth (depths ns) := by
  rw [depths]

end Node

end Componentry.Markup
