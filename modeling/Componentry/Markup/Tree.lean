import Componentry.Markup.Token

/-!
# Building trees

A forest is built from tokens with a list of open elements, innermost first. An end tag closes the
innermost open element of its name with all elements in it, and is dropped if there is none; the
end of the tokens closes all. An element opened when `depthLimit` elements are open already is kept
without children. Texts that follow each other become one.
-/

namespace Componentry.Markup

def depthLimit : Nat := 512

/-- An element that is not closed yet, with the children so far. -/
structure Opened where
  tag : String
  attributes : List Attribute
  children : List Node
  deriving Inhabited, Repr

def Opened.node (o : Opened) : Node := .element o.tag o.attributes o.children

structure Builder where
  /-- The open elements, innermost first. -/
  opened : List Opened
  /-- The finished nodes outside all open elements. -/
  roots : List Node
  deriving Inhabited, Repr

/-- Adds text at the end of siblings, to a text that stands there. -/
def addText (text : String) : List Node → List Node
  | [] => [.text text]
  | [.text s] => [.text (s ++ text)]
  | n :: ns => n :: addText text ns

namespace Builder

def start : Builder := ⟨[], []⟩

/-- Changes the children of the innermost open element, or the roots. -/
def onSiblings (f : List Node → List Node) (b : Builder) : Builder :=
  match b.opened with
  | [] => { b with roots := f b.roots }
  | o :: os => { b with opened := { o with children := f o.children } :: os }

def add (n : Node) : Builder → Builder := onSiblings (· ++ [n])

def close (b : Builder) : Builder :=
  match b.opened with
  | [] => b
  | o :: os => add o.node { b with opened := os }

def closeMany : Nat → Builder → Builder
  | 0, b => b
  | n + 1, b => closeMany n b.close

def step (b : Builder) : Token → Builder
  | .startTag name attributes selfClosing =>
    if selfClosing || isVoid name || depthLimit ≤ b.opened.length then
      b.add (.element name attributes [])
    else { b with opened := ⟨name, attributes, []⟩ :: b.opened }
  | .endTag name =>
    match b.opened.findIdx? (·.tag == name) with
    | some i => b.closeMany (i + 1)
    | none => b
  | .text s => b.onSiblings (addText (String.ofList (decode s)))
  | .rawText s => b.onSiblings (addText (String.ofList s))
  | .comment s => b.add (.comment (String.ofList s))
  | .ignored => b

def finish (b : Builder) : List Node := (b.closeMany b.opened.length).roots

end Builder

def forestOf (ts : List Token) : List Node := (ts.foldl Builder.step .start).finish

/-- The forest of a text; none if one of its start tags never ends. -/
def forest? (s : String) : Option (List Node) := (tokens? s.toList).map forestOf

/-- As `forest?`, with no nodes where there is no forest. A text that is never read to its end
counts as an empty one here, and in all that is built on this. -/
def forest (s : String) : List Node := (forest? s).getD []

def elementOf? (s : String) : Option Element := firstElement? (forest s)

end Componentry.Markup
