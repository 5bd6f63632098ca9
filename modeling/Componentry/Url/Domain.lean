import Componentry.Url.Direction
import Componentry.Url.Joining
import Componentry.Url.Punycode

/-!
# Domains

A domain is a list of labels with full stops between them. To be compared and looked up it is
brought to one form in ASCII: it is folded and composed, and each label with characters beyond
ASCII is encoded and marked with `xn--`. A label that has the mark is decoded, and must be what
folding and composing leave as it is.
-/

namespace Componentry.Url

open Componentry.Text

def isForbidden (c : Char) : Bool :=
  c.toNat ≤ 0x20 || c.toNat = 0x7F ||
    ['%', '#', '/', ':', '<', '>', '?', '@', '[', '\\', ']', '^', '|'].contains c

def isAscii (c : Char) : Bool := c.toNat < 0x80

def encodedMark : List Char := ['x', 'n', '-', '-']

def longestCode : Nat := 2000

def longestLabel : Nat := 1000

def decodeLabel? (label : List Char) : Option (List Char) :=
  match after? encodedMark label with
  | none => some label
  | some code =>
    if longestCode < code.length then none
    else (Punycode.decode? code).filter fun l =>
      !l.all isAscii && l.all isFolded && composed l == l

def isLabel (l : List Char) : Bool :=
  l.all (!isForbidden ·) && !l.head?.any isMark && joinersFit [] l &&
    (l.all isAscii || l.length ≤ longestLabel)

def encodeLabel (l : List Char) : List Char :=
  if l.all isAscii then l else encodedMark ++ Punycode.encode l

def domainLabels? (s : List Char) : Option (List (List Char)) :=
  (fold? s).bind fun t => (splitAt '.' (composed t)).mapM decodeLabel?

def asciiDomain? (s : List Char) : Option (List Char) :=
  (domainLabels? s).bind fun ls =>
    if ls.all isLabel && Direction.allKeepOrder ls then
      some (['.'].intercalate (ls.map encodeLabel))
    else none

end Componentry.Url
