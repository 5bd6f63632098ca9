import Componentry.Number.Binary

/-!
# The shortest decimal

The shortest decimal of a positive double `m · 2 ^ q` is the one with the fewest digits among all
decimals that round to it, and of those the nearest; of two equally near the greater. The decimals
that round to it lie within half a step of it, the ends included when `m` is even; below a power of
two the step is half as long.

A decimal with `n` digits lies on the grid of multiples of `10 ^ t` for the right `t`. Only the two
neighbours of the value on a grid need to be tried, since a point of the grid further away lies in
the interval only if the neighbour on its side does.
-/

namespace Componentry.Number

def digitCount (n : Nat) : Nat := (Nat.toDigits 10 n).length

/-- The greatest `e` with `10 ^ e ≤ num / den`, for positive `num` and `den`. -/
def log10Ratio (num den : Nat) : Int :=
  if den ≤ num then (digitCount (num / den) : Int) - 1
  else -(digitCount ((den - 1) / num) : Int)

structure Decimal where
  digits : Nat
  exponent : Int
  deriving DecidableEq, Repr

/-- The neighbour of `m · 2 ^ q` on the grid of multiples of `10 ^ t` that rounds to it, the nearer
one if both do. -/
def onGrid? (m : Nat) (q : Int) (t : Int) : Option Nat :=
  let step := Nat.pow 10 (-t).toNat <<< q.toNat
  let den := Nat.pow 10 t.toNat <<< (-q).toNat
  let below := m * step / den
  let low := (4 * m - if m = hiddenBit ∧ -1074 < q then 1 else 2) * step
  let high := (4 * m + 2) * step
  let even := m % 2 = 0
  let fitsBelow := if even then low ≤ 4 * below * den else low < 4 * below * den
  let fitsAbove :=
    if even then 4 * (below + 1) * den ≤ high else 4 * (below + 1) * den < high
  if fitsBelow then
    if fitsAbove ∧ (below + 1) * den - m * step ≤ m * step - below * den then some (below + 1)
    else some below
  else if fitsAbove then some (below + 1)
  else none

/-- Tries the grids for `n`, `n + 1`, … digits below the decimal magnitude `e`. -/
def firstGrid (m : Nat) (q : Int) (e : Int) : Nat → Nat → Decimal
  | 0, n => ⟨m, e - n⟩
  | fuel + 1, n =>
    match onGrid? m q (e - n + 1) with
    | some c => if c = Nat.pow 10 n then ⟨1, e + 1⟩ else ⟨c, e - n + 1⟩
    | none => firstGrid m q e fuel (n + 1)

/-- The shortest decimal of the double `m · 2 ^ q`, for positive `m`. Seventeen digits are always
enough. -/
def shortest (m : Nat) (q : Int) : Decimal :=
  firstGrid m q (log10Ratio (m <<< q.toNat) (1 <<< (-q).toNat)) 17 1

example : shortest 1 (-1074) = ⟨5, -324⟩ := by decide +kernel
example : shortest 0x1999999999999A (-56) = ⟨1, -1⟩ := by decide +kernel
example : shortest 0x10000000000000 0 = ⟨4503599627370496, 0⟩ := by decide +kernel

end Componentry.Number
