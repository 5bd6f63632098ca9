/-!
# Binary floating point, exactly

A double is not a number, an infinity, or a sign with `mantissa · 2 ^ exponent`. `form` reads this
off the bits, and `nearest` goes back: it gives the double nearest to a fraction of natural
numbers, ties to the even mantissa. Everything between is arithmetic on natural numbers.

`remainder x y` is what is left of `x` when `y` is taken away as often as the quotient rounded
toward zero says. It has the sign of `x` and is exact: brought to a common power of two, it is the
remainder of two natural numbers.
-/

namespace Componentry.Number

inductive Form where
  | nan
  | infinite (negative : Bool)
  | finite (negative : Bool) (mantissa : Nat) (exponent : Int)
  deriving DecidableEq, Repr

/-- The bit `2 ^ 52` in front of the fraction, which every normal double has in its mantissa. -/
def hiddenBit : Nat := 1 <<< 52

def formOfBits (bits : Nat) : Form :=
  let negative : Bool := bits >>> 63 % 2 == 1
  let scale : Nat := bits >>> 52 % 2048
  let fraction : Nat := bits % hiddenBit
  if scale = 2047 then
    if fraction = 0 then .infinite negative else .nan
  else if scale = 0 then .finite negative fraction (-1074)
  else .finite negative (hiddenBit + fraction) ((scale : Int) - 1075)

def form (x : Float) : Form := formOfBits x.toBits.toNat

/-- The quotient rounded to the nearest natural number, a tie to the even one. -/
def roundEven (num den : Nat) : Nat :=
  let q := num / den
  let r := num % den
  if 2 * r < den then q
  else if den < 2 * r then q + 1
  else if q % 2 = 0 then q else q + 1

/-- The greatest `l` with `2 ^ l ≤ num / den`, for positive `num` and `den`. -/
def log2Ratio (num den : Nat) : Int :=
  let l : Int := (Nat.log2 num : Int) - Nat.log2 den
  if num <<< (-l).toNat < den <<< l.toNat then l - 1 else l

/-- The bits, less the sign, of the double nearest to `num / den`. A quotient at least half a
step above the greatest double becomes infinity. -/
def nearestBits (num den : Nat) : Nat :=
  if num = 0 ∨ den = 0 then 0
  else
    let q := max (log2Ratio num den - 52) (-1074)
    let m := roundEven (num <<< (-q).toNat) (den <<< q.toNat)
    min ((q + 1074).toNat * hiddenBit + m) (2047 * hiddenBit)

def nearest (negative : Bool) (num den : Nat) : Float :=
  Float.ofBits (UInt64.ofNat (nearestBits num den + if negative then 1 <<< 63 else 0))

def nan : Float := Float.ofBits 0x7FF8000000000000

def infinity (negative : Bool) : Float :=
  Float.ofBits (if negative then 0xFFF0000000000000 else 0x7FF0000000000000)

example : nearestBits 1 1 = 0x3FF0000000000000 := by decide +kernel
example : nearestBits 1 10 = 0x3FB999999999999A := by decide +kernel

/-- The exact remainder, with the sign of the dividend; not a number for an infinite dividend or a
zero divisor. -/
def remainder (x y : Float) : Float :=
  match form x, form y with
  | .finite negative m p, .finite _ n q =>
    if n = 0 then nan
    else
      let e := min p q
      let r := (m <<< (p - e).toNat) % (n <<< (q - e).toNat)
      nearest negative (r <<< e.toNat) (1 <<< (-e).toNat)
  | .finite .., .infinite _ => x
  | _, _ => nan

end Componentry.Number
