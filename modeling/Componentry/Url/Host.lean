import Componentry.Url.Domain
import Componentry.Url.Percent

/-!
# Hosts

The host of an address is a domain or an address of the Internet Protocol, version 4 or 6. A host
whose last part is a number must be a version 4 address; one in brackets is a version 6 address.
Domains are kept in their form in ASCII.
-/

namespace Componentry.Url

open Componentry.Text

inductive UrlError where
  | emptyHost
  | invalidDomain
  | invalidPort
  | invalidIpv4
  | invalidIpv6
  | invalidHostCharacter
  | relativeWithoutBase
  | opaqueBase
  deriving DecidableEq, Repr

def UrlError.message : UrlError → String
  | .emptyHost => "empty host"
  | .invalidDomain => "invalid international domain name"
  | .invalidPort => "invalid port number"
  | .invalidIpv4 => "invalid IPv4 address"
  | .invalidIpv6 => "invalid IPv6 address"
  | .invalidHostCharacter => "invalid domain character"
  | .relativeWithoutBase => "relative URL without a base"
  | .opaqueBase => "relative URL with a cannot-be-a-base base"

inductive Host where
  | domain (name : String)
  | ipv4 (address : Nat)
  | ipv6 (pieces : List Nat)
  deriving DecidableEq, Repr

namespace Host

/-! ### Version 4 -/

/-- The number that a part of a version 4 address is, in base 8 or 16 after `0` or `0x`. -/
def number? (s : List Char) : Option Nat :=
  match s with
  | [] => none
  | '0' :: 'x' :: r => Markup.digitsValue? 16 r
  | '0' :: 'X' :: r => Markup.digitsValue? 16 r
  | '0' :: r => Markup.digitsValue? 8 r
  | s => Markup.digitsValue? 10 s

/-- The parts of a domain; an empty one at the end is dropped. -/
def parts (s : List Char) : List (List Char) :=
  let ps := splitAt '.' s
  if ps.getLast? = some [] then ps.dropLast else ps

def endsInNumber (s : List Char) : Bool :=
  match (parts s).getLast? with
  | none => false
  | some p => (p ≠ [] && p.all Char.isDigit) || (number? p).isSome

/-- The address of the parts of a version 4 address. The last part fills the places that are
left. -/
def addressOf? (numbers : List Nat) : Option Nat :=
  match numbers.getLast? with
  | none => none
  | some last =>
    let front := numbers.dropLast
    if 4 < numbers.length ∨ front.any (255 < ·) ∨ 1 <<< (8 * (4 - front.length)) ≤ last then none
    else some ((front.foldl (256 * · + ·) 0) <<< (8 * (4 - front.length)) + last)

def ofIpv4 (s : List Char) : Except UrlError Host :=
  match ((parts s).mapM number?).bind addressOf? with
  | some a => .ok (.ipv4 a)
  | none => .error .invalidIpv4

/-! ### Version 6 -/

structure Pieces where
  read : List Nat
  gap : Option Nat

/-- The version 4 address of at most three digits a part, without leading zeros. -/
def dotted? (s : List Char) : Option (List Nat) :=
  let ps := splitAt '.' s
  if ps.length = 4 then
    ps.mapM fun p =>
      if p = [] ∨ !p.all Char.isDigit ∨ (1 < p.length ∧ p.head? = some '0') then none
      else (Markup.digitsValue? 10 p).filter (· ≤ 255)
  else none

def pieces? (p : Pieces) (s : List Char) : Option Pieces :=
  match s with
  | [] => some p
  | ':' :: r =>
    if p.gap.isSome ∨ p.read.length = 8 then none
    else pieces? ⟨p.read, some p.read.length⟩ r
  | c :: r =>
    if p.read.length + (if p.gap.isSome then 1 else 0) ≥ 8 then none
    else
      let isHex (c : Char) : Bool := (Markup.digitValue? 16 c).isSome
      let digits := ((c :: r).take 4).takeWhile isHex
      let value := (Markup.digitsValue? 16 digits).getD 0
      match (c :: r).drop digits.length with
      | [] => some ⟨p.read ++ [value], p.gap⟩
      | ':' :: r' =>
        if r' = [] ∨ r.length < r'.length then none
        else pieces? ⟨p.read ++ [value], p.gap⟩ r'
      | '.' :: _ =>
        if digits = [] ∨ 6 < p.read.length + (if p.gap.isSome then 1 else 0) then none
        else match dotted? (c :: r) with
          | some [a, b, c, d] => some ⟨p.read ++ [256 * a + b, 256 * c + d], p.gap⟩
          | _ => none
      | _ => none
termination_by s.length
decreasing_by
  · simp
  · simp only [List.length_cons]
    omega

def Pieces.filled? (p : Pieces) : Option (List Nat) :=
  match p.gap with
  | none => if p.read.length = 8 then some p.read else none
  | some i =>
    if p.read.length < 8 then
      some (p.read.take i ++ List.replicate (8 - p.read.length) 0 ++ p.read.drop i)
    else none

def ofIpv6 (s : List Char) : Except UrlError Host :=
  let pieces :=
    match s with
    | [] => none
    | [_] => none
    | ':' :: ':' :: r => pieces? ⟨[], some 0⟩ r
    | ':' :: _ => none
    | s => pieces? ⟨[], none⟩ s
  match pieces.bind Pieces.filled? with
  | some ps => .ok (.ipv6 ps)
  | none => .error .invalidIpv6

/-- The first longest run of zeros of at least two pieces: where it begins and its length. -/
def zeroRun (index : Nat) (best : Nat × Nat) : List Nat → Nat × Nat
  | [] => best
  | n :: ns =>
    let run := ((n :: ns).takeWhile (· == 0)).length
    zeroRun (index + 1) (if best.2 < run ∧ 1 < run then (index, run) else best) ns

def joinPieces (ps : List Nat) : List Char :=
  [':'].intercalate (ps.map (Nat.toDigits 16))

def writtenPieces (ps : List Nat) : List Char :=
  let run := zeroRun 0 (0, 0) ps
  if run.2 = 0 then joinPieces ps
  else joinPieces (ps.take run.1) ++ [':', ':'] ++ joinPieces (ps.drop (run.1 + run.2))

/-! ### Reading and writing -/

def ofText (s : List Char) : Except UrlError Host :=
  match s with
  | '[' :: r => if r.getLast? = some ']' then ofIpv6 r.dropLast else .error .invalidIpv6
  | s =>
    match (decode? s).bind asciiDomain? with
    | none => .error .invalidDomain
    | some [] => .error .emptyHost
    | some d => if endsInNumber d then ofIpv4 d else .ok (.domain (String.ofList d))

def isForbiddenOpaque (c : Char) : Bool :=
  ['\x00', '\t', '\n', '\r', ' ', '#', '/', ':', '<', '>', '?', '@', '[', '\\', ']', '^',
    '|'].contains c

def ofOpaque (s : List Char) : Except UrlError Host :=
  match s with
  | '[' :: r => if r.getLast? = some ']' then ofIpv6 r.dropLast else .error .invalidIpv6
  | s =>
    if s.any isForbiddenOpaque then .error .invalidHostCharacter
    else .ok (.domain (String.ofList (encode controlSet s)))

def written : Host → List Char
  | .domain name => name.toList
  | .ipv4 a =>
    let parts := [a >>> 24, a >>> 16 % 256, a >>> 8 % 256, a % 256]
    ['.'].intercalate (parts.map (Nat.toDigits 10))
  | .ipv6 ps => '[' :: writtenPieces ps ++ [']']

end Host

end Componentry.Url
