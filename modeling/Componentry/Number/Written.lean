import Componentry.Number.Binary
import Componentry.Number.Shortest

/-!
# Written numbers

Numbers are written positionally, without an exponent. `plain` writes the shortest decimal that
reads back as the number; `display` is the form that scripts see: whole numbers below 10^21 in
full, the shortest decimal for any other, and no sign on zero.
-/

namespace Componentry.Number

def Decimal.positional (d : Decimal) : List Char :=
  let ds := Nat.toDigits 10 d.digits
  if 0 ≤ d.exponent then ds ++ List.replicate d.exponent.toNat '0'
  else
    let places := (-d.exponent).toNat
    if places < ds.length then ds.take (ds.length - places) ++ '.' :: ds.drop (ds.length - places)
    else '0' :: '.' :: List.replicate (places - ds.length) '0' ++ ds

def signed (negative : Bool) (digits : List Char) : String :=
  String.ofList (if negative then '-' :: digits else digits)

/-- The shortest decimal that reads back, with the sign of zero kept. -/
def plain (x : Float) : String :=
  match form x with
  | .nan => "NaN"
  | .infinite negative => signed negative ['i', 'n', 'f']
  | .finite negative m q =>
    if m = 0 then signed negative ['0'] else signed negative (shortest m q).positional

def whole? (m : Nat) (q : Int) : Option Nat :=
  if 0 ≤ q then some (m <<< q.toNat)
  else if m % 1 <<< (-q).toNat = 0 then some (m >>> (-q).toNat)
  else none

def display (x : Float) : String :=
  match form x with
  | .nan => "NaN"
  | .infinite negative => if negative then "-Infinity" else "Infinity"
  | .finite negative m q =>
    if m = 0 then "0"
    else match whole? m q with
      | some n =>
        if n < Nat.pow 10 21 then signed negative (Nat.toDigits 10 n)
        else signed negative (shortest m q).positional
      | none => signed negative (shortest m q).positional

end Componentry.Number
