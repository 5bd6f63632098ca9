import Componentry.Markup.Entity
import Componentry.Number.Numeral
import Componentry.Text.Blank
import Componentry.Text.Units

/-!
# Reading JSON piece by piece

A text in JSON is read from the front by readers that each take one piece, so that a reader which
knows what it wants fails as soon as it meets something else. A `Fault` tells the three ways of
failing apart: the text ends too soon, the text is not JSON, or the piece has another type or
content than is wanted.
-/

namespace Componentry.Json

open Componentry.Text Componentry.Markup

inductive Fault where
  /-- The text ends too soon. -/
  | truncated
  | malformed
  /-- The text is JSON, but not what is wanted. -/
  | unsuitable
  deriving DecidableEq, Repr

abbrev Reader (α : Type) := List Char → Except Fault (α × List Char)

def skipBlanks (s : List Char) : List Char := s.dropWhile isGap

def word : List Char → Reader Unit
  | [], s => .ok ((), s)
  | _ :: _, [] => .error .truncated
  | w :: ws, c :: cs => if w = c then word ws cs else .error .malformed

/-! ### Strings -/

def hexFour : Reader Nat
  | a :: b :: c :: d :: r =>
    match digitsValue? 16 [a, b, c, d] with
    | some n => .ok (n, r)
    | none => .error .malformed
  | s => if byteCount s < 4 then .error .truncated else .error .malformed

def lowHalf (high : Nat) : Reader Char
  | [] => .error .truncated
  | '\\' :: [] => .error .truncated
  | '\\' :: 'u' :: r =>
    match hexFour r with
    | .ok (n, r) =>
      if 0xDC00 ≤ n ∧ n < 0xE000 then
        .ok (Char.ofNat (0x10000 + (high - 0xD800) * 0x400 + (n - 0xDC00)), r)
      else .error .malformed
    | .error e => .error e
  | _ => .error .malformed

def unicodeEscape : Reader Char := fun s =>
  match hexFour s with
  | .ok (n, r) =>
    if 0xDC00 ≤ n ∧ n < 0xE000 then .error .malformed
    else if 0xD800 ≤ n ∧ n < 0xDC00 then lowHalf n r
    else .ok (Char.ofNat n, r)
  | .error e => .error e

def shortEscape? (c : Char) : Option Char :=
  if c = '"' ∨ c = '\\' ∨ c = '/' then some c
  else if c = 'b' then some '\x08'
  else if c = 'f' then some '\x0c'
  else if c = 'n' then some '\n'
  else if c = 'r' then some '\r'
  else if c = 't' then some '\t'
  else none

/-- Reads the content of a string up to the closing quote. The numbers of characters are read by
`unicode`. -/
def stringWith {α : Type} (unicode : Reader α) (char : Char → α) (s : List Char) :
    Except Fault (List α × List Char) :=
  match s with
  | [] => .error .truncated
  | '"' :: r => .ok ([], r)
  | '\\' :: [] => .error .truncated
  | '\\' :: 'u' :: r =>
    match unicode r with
    | .error e => .error e
    | .ok (a, r') =>
      if r'.length ≤ r.length then
        (stringWith unicode char r').map fun t => (a :: t.1, t.2)
      else .error .malformed
  | '\\' :: c :: r =>
    match shortEscape? c with
    | some d => (stringWith unicode char r).map fun t => (char d :: t.1, t.2)
    | none => .error .malformed
  | c :: r =>
    if c.toNat < 0x20 then .error .malformed
    else (stringWith unicode char r).map fun t => (char c :: t.1, t.2)
termination_by s.length
decreasing_by all_goals simp only [List.length_cons]; omega

def stringBody : Reader String := fun s =>
  (stringWith unicodeEscape id s).map fun t => (String.ofList t.1, t.2)

/-- Passes over the content of a string, in which a half of a surrogate pair may stand alone. -/
def skipString : Reader Unit := fun s =>
  (stringWith (fun s => (hexFour s).map fun t => ((), t.2)) (fun _ => ()) s).map fun t => ((), t.2)

/-! ### Numbers -/

/-- What is missing where a digit is wanted: `atEnd` at the end of the text. -/
def needDigit (atEnd : Fault) : List Char → Fault
  | [] => atEnd
  | _ :: _ => .malformed

def skipExponent (atEnd : Fault) : Reader Unit
  | c :: r =>
    if c = 'e' ∨ c = 'E' then
      let r := match r with
        | '+' :: r' => r'
        | '-' :: r' => r'
        | _ => r
      if r.takeWhile Char.isDigit = [] then .error (needDigit atEnd r)
      else .ok ((), r.dropWhile Char.isDigit)
    else .ok ((), c :: r)
  | [] => .ok ((), [])

def skipFraction (atEnd : Fault) : Reader Unit
  | '.' :: r =>
    if r.takeWhile Char.isDigit = [] then .error (needDigit atEnd r)
    else skipExponent atEnd (r.dropWhile Char.isDigit)
  | r => skipExponent atEnd r

/-- Passes over a number after its sign. A zero in front stands alone. -/
def skipUnsigned (atEnd : Fault) : Reader Unit
  | '0' :: r =>
    if r.head?.any Char.isDigit then .error .malformed else skipFraction atEnd r
  | s =>
    if s.takeWhile Char.isDigit = [] then .error (needDigit atEnd s)
    else skipFraction atEnd (s.dropWhile Char.isDigit)

def skipNumber (atEnd : Fault) : Reader Unit
  | '-' :: r => skipUnsigned atEnd r
  | s => skipUnsigned atEnd s

/-- Whether the number at the start of a text is too great for a double. -/
def isTooGreat (s : List Char) : Bool :=
  match Number.scan? s with
  | some (n, _) => (n.toFloat false).isInf
  | none => false

def skipBounded (s : List Char) : Except Fault (Unit × List Char) :=
  let unsigned := match s with
    | '-' :: r => r
    | _ => s
  match skipNumber .truncated s with
  | .ok t => if isTooGreat unsigned then .error .malformed else .ok t
  | .error e => .error e

/-! ### Values -/

inductive Place where
  | value
  /-- The first item of an array, or its end. -/
  | firstItem
  /-- The first key of an object, or its end. -/
  | firstKey
  | key
  /-- A comma, or the end of the innermost array or object. -/
  | next
  deriving DecidableEq, Repr

def skipKey : Reader Unit := fun s =>
  match skipBlanks s with
  | [] => .error .truncated
  | '"' :: r =>
    match skipString r with
    | .error e => .error e
    | .ok (_, r) =>
      match skipBlanks r with
      | [] => .error .truncated
      | ':' :: r => .ok ((), r)
      | _ => .error .malformed
  | _ => .error .malformed

def skipScalar : Reader Unit
  | [] => .error .truncated
  | 'n' :: r => word "ull".toList r
  | 't' :: r => word "rue".toList r
  | 'f' :: r => word "alse".toList r
  | '"' :: r => skipString r
  | c :: r =>
    if c = '-' ∨ c.isDigit then skipNumber .malformed (c :: r) else .error .malformed

/-- Passes over a value. The brackets that are open, `true` for an array, are kept in a list,
innermost first; each step takes at least one character. -/
def skipFrom : Nat → Place → List Bool → Reader Unit
  | 0, _, _, _ => .error .malformed
  | fuel + 1, place, opened, s =>
    let s := skipBlanks s
    let close (r : List Char) : Except Fault (Unit × List Char) :=
      match opened.tail with
      | [] => .ok ((), r)
      | outer => skipFrom fuel .next outer r
    match place, s with
    | _, [] => .error .truncated
    | .firstItem, ']' :: r => close r
    | .firstKey, '\x7d' :: r => close r
    | .next, ',' :: r => skipFrom fuel (if opened.head? = some true then .value else .key) opened r
    | .next, ']' :: r => if opened.head? = some true then close r else .error .malformed
    | .next, '\x7d' :: r => if opened.head? = some false then close r else .error .malformed
    | .next, _ => .error .malformed
    | place, s =>
      if place = .key ∨ place = .firstKey then
        match skipKey s with
        | .error e => .error e
        | .ok (_, r) => skipFrom fuel .value opened r
      else match s with
        | '[' :: r => skipFrom fuel .firstItem (true :: opened) r
        | '\x7b' :: r => skipFrom fuel .firstKey (false :: opened) r
        | s =>
          match skipScalar s with
          | .error e => .error e
          | .ok (_, r) => if opened = [] then .ok ((), r) else skipFrom fuel .next opened r

def skipValue : Reader Unit := fun s => skipFrom (s.length + 1) .value [] s

/-- Why a value of another type than is wanted cannot be read. A word, a number and a string are
read first. -/
def otherType (s : List Char) : Fault :=
  let after (r : Except Fault (Unit × List Char)) : Fault :=
    match r with
    | .ok _ => .unsuitable
    | .error e => e
  match s with
  | [] => .truncated
  | 'n' :: r => after (word "ull".toList r)
  | 't' :: r => after (word "rue".toList r)
  | 'f' :: r => after (word "alse".toList r)
  | '"' :: r => after ((stringBody r).map fun t => ((), t.2))
  | '[' :: _ => .unsuitable
  | '\x7b' :: _ => .unsuitable
  | c :: r => if c = '-' ∨ c.isDigit then after (skipBounded (c :: r)) else .malformed

def string : Reader String := fun s =>
  match skipBlanks s with
  | '"' :: r => stringBody r
  | s => .error (otherType s)

def bool : Reader Bool := fun s =>
  match skipBlanks s with
  | 't' :: r => (word "rue".toList r).map fun t => (true, t.2)
  | 'f' :: r => (word "alse".toList r).map fun t => (false, t.2)
  | s => .error (otherType s)

def nullable {α : Type} (read : Reader α) : Reader (Option α) := fun s =>
  match skipBlanks s with
  | 'n' :: r => (word "ull".toList r).map fun t => (none, t.2)
  | s => (read s).map fun t => (some t.1, t.2)

end Componentry.Json
