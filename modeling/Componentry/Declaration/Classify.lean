import Componentry.Declaration.Parameters
import Componentry.Markup.Node

/-!
# Kinds of children

The children of a definition are declarations or content. An element that is neither standard nor
defined elsewhere declares a member. So does a block such as `<@click (e)>log(e)</@click>`, which
markup reads as a text and a comment `@click`: a text and the next comment that begins with `@`
make a pair, blank texts between them aside. `classify` says of each child what it is.
-/

namespace Componentry

open Markup

inductive Classification where
  /-- A text of blanks. -/
  | blank (index : Nat)
  | structural (index : Nat)
  /-- A text and the comment that closes it as a block. -/
  | pair (textIndex commentIndex : Nat) (text marker : String)
  /-- An element that declares a member. -/
  | element (index : Nat) (element : Element)
  deriving Repr

def Classification.indices : Classification → List Nat
  | .blank i => [i]
  | .structural i => [i]
  | .pair i j _ _ => [i, j]
  | .element i _ => [i]

def declaresMember (isDefined : String → Bool) (tag : String) : Bool :=
  !isStandard tag && !isDefined tag

/-- The content of a comment that closes a block. -/
def blockEnd? : Node → Option String
  | .comment s => if beginsWith '@' s then some s else none
  | _ => none

/-- The text that waits for the comment that closes it. -/
abbrev Waiting := Option (Nat × String)

def Waiting.settle : Waiting → List Classification
  | some (i, _) => [.structural i]
  | none => []

def classifyFrom (isDefined : String → Bool) (index : Nat) (waiting : Waiting) :
    List Node → List Classification
  | [] => waiting.settle
  | n :: ns =>
    if n.isBlank then .blank index :: classifyFrom isDefined (index + 1) waiting ns
    else match waiting, blockEnd? n with
      | some (i, text), some marker =>
        .pair i index text marker :: classifyFrom isDefined (index + 1) none ns
      | _, _ => waiting.settle ++
        match n with
        | .text s => classifyFrom isDefined (index + 1) (some (index, s)) ns
        | .element tag attributes children =>
          (if declaresMember isDefined tag then .element index ⟨tag, attributes, children⟩
            else .structural index) :: classifyFrom isDefined (index + 1) none ns
        | .comment _ => .structural index :: classifyFrom isDefined (index + 1) none ns

/-- What each child of a definition is, in the order in which that becomes known. -/
def classify (isDefined : String → Bool) (definition : Element) : List Classification :=
  classifyFrom isDefined 0 none definition.children

/-- The end tag that a comment stands for: `@click` for `</on-click>`. -/
def endTagHint (marker : String) : String :=
  let name := match marker.toList with
    | '@' :: cs => String.ofList cs
    | _ => marker
  "</on-" ++ name ++ ">"

end Componentry
