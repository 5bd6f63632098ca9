import Componentry.Markup.Vocabulary
import Componentry.Text.Blank

/-!
# Markup trees

A node is an element, a text or a comment. An element has a tag, its attributes in order and its
children; an attribute without a value differs from one with the empty value. The tree is what
definitions, templates and the content of instances are made of.
-/

namespace Componentry.Markup

structure Attribute where
  name : String
  value : Option String
  deriving DecidableEq, Inhabited, Repr

inductive Node where
  | element (tag : String) (attributes : List Attribute) (children : List Node)
  | text (content : String)
  | comment (content : String)
  deriving Inhabited, Repr

structure Element where
  tag : String
  attributes : List Attribute
  children : List Node
  deriving Inhabited, Repr

def Element.node (e : Element) : Node := .element e.tag e.attributes e.children

namespace Node

def element? : Node → Option Element
  | .element tag attributes children => some ⟨tag, attributes, children⟩
  | _ => none

def isBlank : Node → Bool
  | .text s => Text.isBlankText s
  | _ => false

mutual

/-- The text in a node, comments left out. -/
def textContent : Node → String
  | .element _ _ children => textContents children
  | .text s => s
  | .comment _ => ""

def textContents : List Node → String
  | [] => ""
  | n :: ns => n.textContent ++ textContents ns

end

end Node

namespace Element

def textContent (e : Element) : String := Node.textContents e.children

/-- The value of the attribute with a name; empty for an attribute without value. -/
def attribute? (e : Element) (name : String) : Option String :=
  (e.attributes.find? fun a => Text.sameName a.name name).map fun a => a.value.getD ""

def hasAttribute (e : Element) (name : String) : Bool :=
  e.attributes.any fun a => Text.sameName a.name name

def attributeNames (e : Element) : List String := e.attributes.map Attribute.name

def childElements (e : Element) : List Element := e.children.filterMap Node.element?

@[simp] theorem element?_node (e : Element) : e.node.element? = some e := rfl

end Element

def firstElement? (nodes : List Node) : Option Element := nodes.findSome? Node.element?

end Componentry.Markup
