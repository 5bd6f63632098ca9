import Componentry.Value.Basic

/-!
# The mathematical functions

The functions and constants that scripts find under `Math`. A missing argument is not a number.
-/

namespace Componentry.Maths

def greatest (xs : List Float) : Float :=
  xs.foldl (fun a x => if a.isNaN || x.isNaN then Number.nan else if a < x then x else a)
    (Number.infinity true)

def least (xs : List Float) : Float :=
  xs.foldl (fun a x => if a.isNaN || x.isNaN then Number.nan else if x < a then x else a)
    (Number.infinity false)

/-- The value of a constant; undefined for a name that is none. -/
def constant (name : String) : Value :=
  if name = "PI" then .number (Float.ofBits 0x400921FB54442D18)
  else if name = "E" then .number (Float.ofBits 0x4005BF0A8B145769)
  else .undefined

def call? (name : String) (args : List Value) : Option Value :=
  let numbers := args.map Value.toNumber
  let first := numbers[0]?.getD Number.nan
  let second := numbers[1]?.getD Number.nan
  (match name with
    | "max" => some (greatest numbers)
    | "min" => some (least numbers)
    | "floor" => some first.floor
    | "ceil" => some first.ceil
    | "abs" => some first.abs
    | "round" => some (first + 0.5).floor
    | "sqrt" => some first.sqrt
    | "pow" => some (first.pow second)
    | _ => none).map .number

end Componentry.Maths
