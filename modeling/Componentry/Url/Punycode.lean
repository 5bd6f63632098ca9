/-!
# Punycode

A label of a domain with characters beyond ASCII is written in ASCII: the ASCII characters first,
then a hyphen, then one number for each other character in the order of the characters. The number
tells how far the next insertion is from the last, and is written in base 36 with digits of
adapting weight.
-/

namespace Componentry.Url.Punycode

def digit (n : Nat) : Char :=
  if n < 26 then Char.ofNat ('a'.toNat + n) else Char.ofNat ('0'.toNat + n - 26)

def digitValue? (c : Char) : Option Nat :=
  if c.isDigit then some (c.toNat - '0'.toNat + 26)
  else if c.isAlpha then some (c.toLower.toNat - 'a'.toNat)
  else none

/-- The greatest digit that ends a number at the place `36 * k`. -/
def threshold (k bias : Nat) : Nat := max 1 (min 26 (36 * k - bias))

theorem threshold_pos (k bias : Nat) : 1 ≤ threshold k bias := Nat.le_max_left ..

def reduce (delta k : Nat) : Nat × Nat :=
  if 455 < delta then reduce (delta / 35) (k + 1) else (delta, k)
termination_by delta
decreasing_by omega

def adapt (delta count : Nat) (first : Bool) : Nat :=
  let delta := if first then delta / 700 else delta / 2
  let (delta, k) := reduce (delta + delta / count) 0
  36 * k + 36 * delta / (delta + 38)

def encodeNumber (bias k q : Nat) : List Char :=
  let t := threshold k bias
  if t ≤ q ∧ t < 36 then
    digit (t + (q - t) % (36 - t)) :: encodeNumber bias (k + 1) ((q - t) / (36 - t))
  else [digit q]
termination_by q
decreasing_by
  have := threshold_pos k bias
  have : (q - t) / (36 - t) ≤ q - t := Nat.div_le_self ..
  simp only [t] at *
  omega

/-- The state of the encoding: the distance since the last insertion, the bias, the number of
characters written, and the digits so far. -/
structure Encoder where
  delta : Nat
  bias : Nat
  count : Nat
  first : Bool
  digits : List Char

def Encoder.scan (n : Nat) (e : Encoder) (c : Char) : Encoder :=
  if c.toNat < n then { e with delta := e.delta + 1 }
  else if c.toNat = n then
    { delta := 0
      bias := adapt e.delta (e.count + 1) e.first
      count := e.count + 1
      first := false
      digits := e.digits ++ encodeNumber e.bias 1 e.delta }
  else e

/-- Inserts the characters beyond ASCII in the order of their numbers; `m` is the least number not
treated yet. -/
def encodeFrom (label : List Char) (m : Nat) (e : Encoder) : List Nat → Encoder
  | [] => e
  | n :: ns =>
    let e := { e with delta := e.delta + (n - m) * (e.count + 1) }
    let e := label.foldl (Encoder.scan n) e
    encodeFrom label (n + 1) { e with delta := e.delta + 1 } ns

def encode (label : List Char) : List Char :=
  let basic := label.filter (·.toNat < 0x80)
  let others := ((label.filter (0x80 ≤ ·.toNat)).map Char.toNat).eraseDups.mergeSort
  let e := encodeFrom label 0x80 ⟨0, 72, basic.length, true, []⟩ others
  basic ++ (if basic = [] then [] else ['-']) ++ e.digits

def numberBound : Nat := 1 <<< 32

def decodeNumber? (bias k weight value : Nat) : List Char → Option (Nat × List Char)
  | [] => none
  | c :: cs =>
    match digitValue? c with
    | none => none
    | some d =>
      let t := threshold k bias
      if numberBound ≤ value + d * weight then none
      else if d < t then some (value + d * weight, cs)
      else if numberBound ≤ weight * (36 - t) then none
      else decodeNumber? bias (k + 1) (weight * (36 - t)) (value + d * weight) cs

theorem length_decodeNumber? {bias k weight value i : Nat} {s r : List Char}
    (h : decodeNumber? bias k weight value s = some (i, r)) : r.length < s.length := by
  fun_induction decodeNumber? bias k weight value s with
  | case1 => simp at h
  | case2 => simp at h
  | case3 => simp at h
  | case4 k weight value c cs d _ _ _ _ =>
    simp only [Option.some.injEq, Prod.mk.injEq] at h
    simp [h.2]
  | case5 => simp at h
  | case6 k weight value c cs d _ _ _ _ _ ih =>
    have := ih h
    simp only [List.length_cons]
    omega

def decodeFrom? (label : List Char) (n i bias : Nat) (first : Bool) (s : List Char) :
    Option (List Char) :=
  if s = [] then some label
  else
    match _h : decodeNumber? bias 1 1 i s with
    | none => none
    | some (j, r) =>
      let size := label.length + 1
      let m := n + j / size
      if m < 0xD800 ∨ (0xE000 ≤ m ∧ m < 0x110000) then
        decodeFrom? (label.insertIdx (j % size) (Char.ofNat m)) m (j % size + 1)
          (adapt (j - i) size first) false r
      else none
termination_by s.length
decreasing_by exact length_decodeNumber? _h

/-- The label that an ASCII label without the mark stands for. A hyphen in front of the digits
follows at least one character. -/
def decode? (s : List Char) : Option (List Char) :=
  let back := s.reverse
  let digits := (back.takeWhile (· ≠ '-')).reverse
  match back.dropWhile (· ≠ '-') with
  | [] => decodeFrom? [] 0x80 0 72 true digits
  | [_] => none
  | _ :: basic =>
    if basic.all (·.toNat < 0x80) then decodeFrom? basic.reverse 0x80 0 72 true digits else none

example : encode "bücher".toList = "bcher-kva".toList := by decide +kernel
example : decode? "bcher-kva".toList = some "bücher".toList := by decide +kernel

end Componentry.Url.Punycode
