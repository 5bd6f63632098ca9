import Componentry.Value.Basic
import Componentry.Number.Binary

/-!
# Operators on values

The binary operators with their binding strength, and `BinaryOp.apply`, what each makes of two
values that have been computed. `+` joins texts as soon as one side is a string or an array and
adds numbers otherwise; the comparisons are false where there is no order.
-/

namespace Componentry

inductive UnaryOp where
  | not
  | neg
  | plus
  | typeOf
  deriving DecidableEq, Repr

inductive BinaryOp where
  | or
  | and
  | eq
  | ne
  | strictEq
  | strictNe
  | lt
  | gt
  | le
  | ge
  | add
  | sub
  | mul
  | div
  | mod
  deriving DecidableEq, Repr

/-- How tightly an operator binds; a greater strength binds tighter. -/
def BinaryOp.strength : BinaryOp → Nat
  | .or => 1
  | .and => 2
  | .eq | .ne | .strictEq | .strictNe => 3
  | .lt | .gt | .le | .ge => 4
  | .add | .sub => 5
  | .mul | .div | .mod => 6

def UnaryOp.apply : UnaryOp → Value → Value
  | .not, v => .bool !v.truthy
  | .neg, v => .number (-v.toNumber)
  | .plus, v => .number v.toNumber
  | .typeOf, v => .string v.scriptType

/-- Whether the text of a value is joined, not its number added. -/
def Value.joins : Value → Bool
  | .string _ => true
  | .array _ => true
  | _ => false

def BinaryOp.apply (op : BinaryOp) (a b : Value) : Value :=
  match op with
  | .or => if a.truthy then a else b
  | .and => if a.truthy then b else a
  | .eq => .bool (a.looseEquals b)
  | .ne => .bool !a.looseEquals b
  | .strictEq => .bool (a.strictEquals b)
  | .strictNe => .bool !a.strictEquals b
  | .lt => .bool ((a.compare? b).any Ordering.isLT)
  | .gt => .bool ((a.compare? b).any Ordering.isGT)
  | .le => .bool ((a.compare? b).any Ordering.isLE)
  | .ge => .bool ((a.compare? b).any Ordering.isGE)
  | .add =>
    if a.joins || b.joins then .string (a.display ++ b.display)
    else .number (a.toNumber + b.toNumber)
  | .sub => .number (a.toNumber - b.toNumber)
  | .mul => .number (a.toNumber * b.toNumber)
  | .div => .number (a.toNumber / b.toNumber)
  | .mod => .number (Number.remainder a.toNumber b.toNumber)

end Componentry
