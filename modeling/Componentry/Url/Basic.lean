import Componentry.Url.Host

/-!
# Addresses

An address has a scheme, an authority if its scheme has one, a path, and perhaps a query and a
fragment. The path is made of segments or, where no slash follows the scheme, an opaque text.
Every part is kept as it is written, so `written` only puts the parts together.

The origin of an address is its scheme, host and port where the scheme is one of those that name a
server; other addresses have an origin of their own, which equals no origin.
-/

namespace Componentry.Url

inductive Path where
  | opaqueText (text : List Char)
  /-- A path of segments, each with a slash in front of it. -/
  | rooted (text : List Char)
  deriving DecidableEq, Repr

structure Address where
  scheme : List Char
  username : List Char
  /-- The password, empty if there is none. -/
  password : List Char
  host : Option Host
  /-- The port, unless it is the usual one of the scheme. -/
  port : Option Nat
  path : Path
  query : Option (List Char)
  fragment : Option (List Char)
  deriving DecidableEq, Repr

def usualPort? (scheme : List Char) : Option Nat :=
  if scheme = "http".toList ∨ scheme = "ws".toList then some 80
  else if scheme = "https".toList ∨ scheme = "wss".toList then some 443
  else if scheme = "ftp".toList then some 21
  else none

def isFileScheme (scheme : List Char) : Bool := scheme == "file".toList

/-- Whether the scheme is one whose addresses have a host and a path of segments. -/
def isSpecialScheme (scheme : List Char) : Bool :=
  isFileScheme scheme || (usualPort? scheme).isSome

namespace Address

def writtenUser (a : Address) : List Char :=
  if a.username = [] ∧ a.password = [] then []
  else a.username ++ (if a.password = [] then [] else ':' :: a.password) ++ ['@']

def writtenPath (a : Address) : List Char :=
  match a.path with
  | .opaqueText t => t
  | .rooted t => t

/-- The host with all around it as it is written. Where there is none, a path that begins with two
slashes is kept from being read as a host. -/
def writtenAuthority (a : Address) : List Char :=
  match a.host with
  | none => if a.writtenPath.take 2 = ['/', '/'] then ['/', '.'] else []
  | some h =>
    ['/', '/'] ++ a.writtenUser ++ h.written ++
      match a.port with
      | some p => ':' :: Nat.toDigits 10 p
      | none => []

def marked (mark : Char) : Option (List Char) → List Char
  | some s => mark :: s
  | none => []

def written (a : Address) : List Char :=
  a.scheme ++ ':' :: a.writtenAuthority ++ a.writtenPath ++ marked '?' a.query ++
    marked '#' a.fragment

def text (a : Address) : String := String.ofList a.written

def isOpaque (a : Address) : Bool :=
  match a.path with
  | .opaqueText _ => true
  | .rooted _ => false

end Address

end Componentry.Url
