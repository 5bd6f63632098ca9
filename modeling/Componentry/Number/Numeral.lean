import Componentry.Number.Binary
import Componentry.Number.Shortest

/-!
# Reading decimals

A numeral is digits with at most one point among, before or after them, and an optional exponent.
`scan?` reads the longest numeral at the start of a text, and `Numeral.toFloat` gives the nearest
double, so that every decimal a double is written as reads back as that double.
-/

namespace Componentry.Number

/-- A numeral of value `mantissa · 10 ^ exponent`. -/
structure Numeral where
  mantissa : Nat
  exponent : Int
  deriving DecidableEq, Repr

def digitsValue (ds : List Char) : Nat :=
  ds.foldl (fun n d => 10 * n + (d.toNat - '0'.toNat)) 0

/-- Reads the exponent mark, an optional sign and at least one digit. Anything else leaves the
exponent zero and the text unread. -/
def scanExponent (cs : List Char) : Int × List Char :=
  let digits (negative : Bool) (r : List Char) : Int × List Char :=
    let ds := r.takeWhile Char.isDigit
    if ds = [] then (0, cs)
    else (if negative then -(digitsValue ds : Int) else digitsValue ds, r.dropWhile Char.isDigit)
  match cs with
  | c :: r =>
    if c = 'e' ∨ c = 'E' then
      match r with
      | '-' :: r' => digits true r'
      | '+' :: r' => digits false r'
      | _ => digits false r
    else (0, cs)
  | [] => (0, cs)

def scanFraction : List Char → List Char × List Char
  | '.' :: r => (r.takeWhile Char.isDigit, r.dropWhile Char.isDigit)
  | r => ([], r)

def scan? (cs : List Char) : Option (Numeral × List Char) :=
  let front := cs.takeWhile Char.isDigit
  let fraction := scanFraction (cs.dropWhile Char.isDigit)
  if front = [] ∧ fraction.1 = [] then none
  else
    let exponent := scanExponent fraction.2
    some (⟨digitsValue (front ++ fraction.1), exponent.1 - fraction.1.length⟩, exponent.2)

/-- The double nearest to a numeral. Beyond 400 decimal places the answer is infinity or zero
without computing the power. -/
def Numeral.toFloat (negative : Bool) (n : Numeral) : Float :=
  if n.mantissa = 0 then nearest negative 0 1
  else if 400 < digitCount n.mantissa + n.exponent then infinity negative
  else if digitCount n.mantissa + n.exponent < -400 then nearest negative 0 1
  else nearest negative (n.mantissa * Nat.pow 10 n.exponent.toNat) (Nat.pow 10 (-n.exponent).toNat)

/-- The number that an unsigned text stands for: a numeral, or one of the words for infinity and
for not a number in any case. -/
def ofUnsigned? (negative : Bool) (cs : List Char) : Option Float :=
  let word := String.ofList (cs.map Char.toLower)
  if word = "inf" ∨ word = "infinity" then some (infinity negative)
  else if word = "nan" then some nan
  else match scan? cs with
    | some (n, []) => some (n.toFloat negative)
    | _ => none

def ofText? : List Char → Option Float
  | '-' :: cs => ofUnsigned? true cs
  | '+' :: cs => ofUnsigned? false cs
  | cs => ofUnsigned? false cs

end Componentry.Number
