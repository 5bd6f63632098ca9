import Componentry.Markup.Node

/-!
# Written markup

The text of a tree. In texts the characters `&`, `<` and `>` are written as entities, and in
attribute values `&` and the quote; the text of a raw element is written as it is, and a void
element without children or end tag.
-/

namespace Componentry.Markup

def escapeChar (c : Char) : List Char :=
  if c = '&' then ['&', 'a', 'm', 'p', ';']
  else if c = '<' then ['&', 'l', 't', ';']
  else if c = '>' then ['&', 'g', 't', ';']
  else [c]

def escapeQuotedChar (c : Char) : List Char :=
  if c = '&' then ['&', 'a', 'm', 'p', ';']
  else if c = '"' then ['&', 'q', 'u', 'o', 't', ';']
  else [c]

def escape (s : String) : List Char := s.toList.flatMap escapeChar

def escapeQuoted (s : String) : List Char := s.toList.flatMap escapeQuotedChar

def Attribute.written (a : Attribute) : List Char :=
  ' ' :: a.name.toList ++
    match a.value with
    | some v => '=' :: '"' :: escapeQuoted v ++ ['"']
    | none => []

def startTag (tag : String) (attributes : List Attribute) : List Char :=
  '<' :: tag.toList ++ attributes.flatMap Attribute.written ++ ['>']

def endTag (tag : String) : List Char := '<' :: '/' :: tag.toList ++ ['>']

namespace Node

mutual

/-- A node as it is written; `raw` tells whether it stands in a raw element. -/
def written (raw : Bool) : Node → List Char
  | .element tag attributes children =>
    startTag tag attributes ++
      if isVoid tag then [] else writtenAll (isRaw tag) children ++ endTag tag
  | .text s => if raw then s.toList else escape s
  | .comment s => ['<', '!', '-', '-'] ++ s.toList ++ ['-', '-', '>']

def writtenAll (raw : Bool) : List Node → List Char
  | [] => []
  | n :: ns => n.written raw ++ writtenAll raw ns

end

def markup (n : Node) : String := String.ofList (n.written false)

end Node

def markupOf (nodes : List Node) : String := String.ofList (Node.writtenAll false nodes)

def Element.markup (e : Element) : String := e.node.markup

def Element.innerMarkup (e : Element) : String :=
  String.ofList (Node.writtenAll (isRaw e.tag) e.children)

end Componentry.Markup
