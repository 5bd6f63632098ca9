import Componentry.Url.Basic
import Componentry.Url.Path

/-!
# Reading addresses

`read` reads a text as an address, relative to a base address if there is one. Blanks and control
characters at the ends and tabs and line ends within are dropped. A text with a scheme stands on
its own, except that a text with the scheme of the base and no two slashes is relative.
-/

namespace Componentry.Url

open Componentry.Text

/-! ### Query and fragment -/

def withEnd (a : Address) (s : List Char) : Address :=
  match s with
  | '?' :: r =>
    let set := if isSpecialScheme a.scheme then specialQuerySet else querySet
    let query := some (encode set (r.takeWhile (· ≠ '#')))
    match r.dropWhile (· ≠ '#') with
    | _ :: f => { a with query, fragment := some (encode fragmentSet f) }
    | [] => { a with query, fragment := none }
  | '#' :: f => { a with query := none, fragment := some (encode fragmentSet f) }
  | _ => { a with query := none, fragment := none }

/-! ### Authorities -/

def endsAuthority (special : Bool) (c : Char) : Bool := isSlash special c || endsPath c

/-- Parts the authority at its last `@`: the user with the password, and the rest. -/
def splitUser (special : Bool) (s : List Char) : Option (List Char) × List Char :=
  let authority := s.takeWhile (!endsAuthority special ·)
  let back := authority.reverse
  if authority.contains '@' then
    (some (back.dropWhile (· ≠ '@')).tail.reverse,
      (back.takeWhile (· ≠ '@')).reverse ++ s.dropWhile (!endsAuthority special ·))
  else (none, s)

/-- The host at the start of an authority without user: up to a colon outside of brackets. -/
def takeHost (special bracketed : Bool) : List Char → List Char × List Char
  | [] => ([], [])
  | c :: r =>
    if (c == ':' && !bracketed) || endsAuthority special c then ([], c :: r)
    else
      let parts := takeHost special (c == '[' || (bracketed && c != ']')) r
      (c :: parts.1, parts.2)

/-- The port at the start of a text; none if it is the usual one or is missing. -/
def readPort (scheme s : List Char) : Except UrlError (Option Nat × List Char) :=
  let digits := s.takeWhile Char.isDigit
  let r := s.dropWhile Char.isDigit
  let port := (Markup.digitsValue? 10 digits).getD 0
  if 65535 < port then .error .invalidPort
  else if r.head?.any fun c => !isSlash true c && !endsPath c then .error .invalidPort
  else if digits = [] ∨ usualPort? scheme = some port then .ok (none, r)
  else .ok (some port, r)

def readAuthority (scheme s : List Char) : Except UrlError Address := do
  let special := isSpecialScheme scheme
  let (user, r) := splitUser special s
  if user = some [] ∧ r.head?.any (endsAuthority special ·) then throw .emptyHost
  let user := user.getD []
  let username := encode userSet (user.takeWhile (· ≠ ':'))
  let password := encode userSet (user.dropWhile (· ≠ ':')).tail
  let (name, r) := takeHost special false r
  if special && name.isEmpty then throw .emptyHost
  let host ← if special then Host.ofText name else Host.ofOpaque name
  if name = [] ∧ (r.head? = some ':' ∨ username ≠ [] ∨ password ≠ []) then throw .emptyHost
  let (port, r) ← match r with
    | ':' :: r => readPort scheme r
    | r => Except.ok (none, r)
  let (path, r) :=
    if special then readPath true false ['/'] (dropSlash true r)
    else if r.head?.all endsPath then ([], r)
    else readPath false false ['/'] (dropSlash false r)
  return withEnd ⟨scheme, username, password, some host, port, .rooted path, none, none⟩ r

/-! ### Files -/

def localHost : Host := .domain ""

def fileAddress (host : Host) (path s : List Char) : Address :=
  let (path, r) := readPath true true path s
  withEnd ⟨"file".toList, [], [], some host, none, .rooted (filePath path), none, none⟩ r

/-- Reads the address of a file after two slashes. A path that begins with a drive letter is on the
machine itself. -/
def readFileHost (s : List Char) : Except UrlError Address := do
  let ends (c : Char) : Bool := isSlash true c || endsPath c
  let name := s.takeWhile (!ends ·)
  let r := s.dropWhile (!ends ·)
  if isDrive name then return fileAddress localHost ['/'] s
  let host ← if name = [] then .ok localHost else Host.ofText name
  if host = localHost ∨ host = .domain "localhost" then return fileAddress localHost ['/'] r
  let s := dropSlash true r
  if isPlainDrive (firstSegment (readPath true true ['/'] s).1) then
    return fileAddress localHost ['/'] s
  return fileAddress host ['/'] s

def readFile (base : Option Address) (s : List Char) : Except UrlError Address :=
  match s with
  | c :: r =>
    if isSlash true c then
      match r with
      | d :: r' => if isSlash true d then readFileHost r' else .ok (rooted r)
      | [] => .ok (rooted r)
    else match base with
      | some b =>
        if c = '#' then .ok { b with fragment := some (encode fragmentSet r) }
        else if c = '?' then .ok (withEnd b s)
        else if beginsWithDrive s then .ok (fileAddress localHost ['/'] s)
        else
          let (path, r) := readPath true true (withoutLast true b.writtenPath) s
          .ok (withEnd { b with path := .rooted (filePath path) } r)
      | none => .ok (fileAddress localHost ['/'] s)
  | [] =>
    match base with
    | some b => .ok { b with fragment := none }
    | none => .ok (fileAddress localHost ['/'] [])
where
  /-- A path from the root of the machine, or of the drive, that the base is on. -/
  rooted (s : List Char) : Address :=
    match base with
    | some b =>
      let drive := firstSegment b.writtenPath
      if beginsWithDrive s then fileAddress localHost ['/'] s
      else if isPlainDrive drive then fileAddress localHost ('/' :: drive ++ ['/']) s
      else fileAddress (b.host.getD localHost) ['/'] s
    | none => fileAddress localHost ['/'] s

/-! ### Relative and absolute addresses -/

def readRelative (base : Address) (s : List Char) : Except UrlError Address :=
  let special := isSpecialScheme base.scheme
  match s with
  | [] => .ok { base with fragment := none }
  | '#' :: f => .ok { base with fragment := some (encode fragmentSet f) }
  | '?' :: r => .ok (withEnd base ('?' :: r))
  | c :: r =>
    if isSlash true c then
      match r with
      | d :: r' =>
        if isSlash true d then
          readAuthority base.scheme (if c = '/' ∧ d = '/' then r' else r.dropWhile (isSlash true))
        else behind special ['/'] r
      | [] => behind special ['/'] r
    else
      behind special (withSlash (withoutLast false base.writtenPath)) (c :: r)
where
  /-- The base with what is read of a text behind a path. -/
  behind (special : Bool) (path s : List Char) : Except UrlError Address :=
    let (path, r) := readPath special false path s
    .ok (withEnd { base with path := .rooted path } r)

def readOther (scheme s : List Char) : Except UrlError Address :=
  match s with
  | '/' :: '/' :: r => readAuthority scheme r
  | '/' :: r =>
    let (path, r) := readPath false false ['/'] r
    .ok (withEnd ⟨scheme, [], [], none, none, .rooted path, none, none⟩ r)
  | s =>
    let text := encode controlSet (s.takeWhile (!endsPath ·))
    .ok (withEnd ⟨scheme, [], [], none, none, .opaqueText text, none, none⟩
      (s.dropWhile (!endsPath ·)))

def continuesScheme (c : Char) : Bool := c.isAlphanum || c == '+' || c == '-' || c == '.'

def scheme? (s : List Char) : Option (List Char × List Char) :=
  match s with
  | [] => none
  | c :: _ =>
    if c.isAlpha then
      match s.dropWhile continuesScheme with
      | ':' :: r => some ((s.takeWhile continuesScheme).map Char.toLower, r)
      | _ => none
    else none

def readScheme (base : Option Address) (scheme s : List Char) : Except UrlError Address :=
  if isFileScheme scheme then readFile (base.filter fun b => isFileScheme b.scheme) s
  else if isSpecialScheme scheme then
    match base.filter fun b => b.scheme == scheme && (s.takeWhile (isSlash true)).length < 2 with
    | some b => readRelative b s
    | none => readAuthority scheme (s.dropWhile (isSlash true))
  else readOther scheme s

def cleaned (s : List Char) : List Char :=
  let ends (c : Char) : Bool := c.toNat ≤ 0x20
  (((s.dropWhile ends).reverse.dropWhile ends).reverse).filter fun c =>
    c != '\t' && c != '\n' && c != '\r'

def readCleaned (base : Option Address) (s : List Char) : Except UrlError Address :=
  match scheme? s with
  | some (scheme, r) => readScheme base scheme r
  | none =>
    match base with
    | none => .error .relativeWithoutBase
    | some b =>
      if s.head? = some '#' then .ok { b with fragment := some (encode fragmentSet s.tail) }
      else if b.isOpaque then .error .opaqueBase
      else if isFileScheme b.scheme then readFile (some b) s
      else readRelative b s

def read (base : Option Address) (s : String) : Except UrlError Address :=
  readCleaned base (cleaned s.toList)

/-! ### Origins -/

structure Origin where
  scheme : List Char
  host : Host
  port : Nat
  deriving DecidableEq, Repr

/-- The origin of an address; none if it has one of its own. The content of a `blob` address
belongs to the origin of the address in its path. -/
def originWithin : Nat → Address → Option Origin
  | 0, _ => none
  | n + 1, a =>
    if a.scheme = "blob".toList then
      match read none (String.ofList a.writtenPath) with
      | .ok b => originWithin n b
      | .error _ => none
    else
      match usualPort? a.scheme, a.host with
      | some p, some h => some ⟨a.scheme, h, a.port.getD p⟩
      | _, _ => none

/-- The origin of an address. Each `blob` address in another is shorter than it. -/
def Address.origin? (a : Address) : Option Origin := originWithin (a.written.length + 1) a

def sameOrigin (a b : Address) : Bool :=
  match a.origin?, b.origin? with
  | some x, some y => x == y
  | _, _ => false

end Componentry.Url
