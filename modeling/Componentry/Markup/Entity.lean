import Componentry.Text.Scan

/-!
# Entities

An ampersand, a name or a number, and a semicolon stand for one character. `decode` replaces the
entities of a text; an ampersand that begins none stands for itself. The name runs to the first
semicolon after the ampersand, whatever stands between.
-/

namespace Componentry.Markup

open Componentry.Text

def digitValue? (base : Nat) (c : Char) : Option Nat :=
  let n :=
    if c.isDigit then c.toNat - '0'.toNat
    else if 'a' ≤ c ∧ c ≤ 'f' then c.toNat - 'a'.toNat + 10
    else if 'A' ≤ c ∧ c ≤ 'F' then c.toNat - 'A'.toNat + 10
    else base
  if n < base then some n else none

def digitsValue? (base : Nat) (cs : List Char) : Option Nat :=
  cs.foldlM (fun n c => (digitValue? base c).map (base * n + ·)) 0

/-- The value of at least one digit, after a plus sign or none. -/
def numberValue? (base : Nat) : List Char → Option Nat
  | [] => none
  | ['+'] => none
  | '+' :: cs => digitsValue? base cs
  | cs => digitsValue? base cs

/-- The character with a number, which must not be a surrogate. -/
def characterAt? (n : Nat) : Option Char :=
  if n < 0xD800 ∨ (0xE000 ≤ n ∧ n < 0x110000) then some (Char.ofNat n) else none

def entity? (name : List Char) : Option Char :=
  if name = ['a', 'm', 'p'] then some '&'
  else if name = ['l', 't'] then some '<'
  else if name = ['g', 't'] then some '>'
  else if name = ['q', 'u', 'o', 't'] then some '"'
  else if name = ['a', 'p', 'o', 's'] then some '\''
  else if name = ['n', 'b', 's', 'p'] then some '\u00A0'
  else match name with
    | '#' :: 'x' :: digits => (numberValue? 16 digits).bind characterAt?
    | '#' :: 'X' :: digits => (numberValue? 16 digits).bind characterAt?
    | '#' :: digits => (numberValue? 10 digits).bind characterAt?
    | _ => none

def decode : List Char → List Char
  | [] => []
  | c :: cs =>
    if c = '&' then
      match _h : breakOn? [';'] cs with
      | some (name, rest) =>
        match entity? name with
        | some d => d :: decode rest
        | none => c :: decode cs
      | none => c :: decode cs
    else c :: decode cs
termination_by s => s.length
decreasing_by
  · have := congrArg List.length (eq_append_of_breakOn? _h)
    simp only [List.length_append, List.length_cons, List.length_nil] at this ⊢
    omega
  all_goals simp

theorem decode_nil : decode [] = [] := by rw [decode]

theorem decode_cons_of_ne {c : Char} (h : c ≠ '&') (cs : List Char) :
    decode (c :: cs) = c :: decode cs := by
  rw [decode.eq_def]
  simp [h]

def decodeText (s : String) : String := String.ofList (decode s.toList)

end Componentry.Markup
