import Componentry.Number.Written
import Componentry.Number.Numeral
import Componentry.Text.Blank

/-!
# Values

The dynamically typed values of scripts: property declarations are evaluated to a value, and the
fields of an element hold values. A value has a truth, a number and a text; all three are total,
so scripts never fail on a conversion. Two equalities are defined: `strictEquals` compares within
one type, `looseEquals` across types by number. An array is equal to nothing, itself included,
since values have no identity.
-/

namespace Componentry

inductive Value where
  | undefined
  | null
  | bool (truth : Bool)
  | number (value : Float)
  | string (text : String)
  | array (items : List Value)
  deriving Inhabited, Repr

namespace Value

def ofText? : Option String → Value
  | some s => .string s
  | none => .null

def truthy : Value → Bool
  | .undefined => false
  | .null => false
  | .bool b => b
  | .number n => n != 0 && !n.isNaN
  | .string s => s ≠ ""
  | .array _ => true

/-- The number that a text stands for: zero for blanks, and not a number if it is no numeral. -/
def numberOfText (s : String) : Float :=
  match Text.trimmed s.toList with
  | [] => 0
  | cs => (Number.ofText? cs).getD Number.nan

/-- The number that a value stands for. An array stands for its only item. -/
def toNumber : Value → Float
  | .undefined => Number.nan
  | .null => 0
  | .bool b => if b then 1 else 0
  | .number n => n
  | .string s => numberOfText s
  | .array [] => 0
  | .array [v] => v.toNumber
  | .array (_ :: _ :: _) => Number.nan

def isNothing : Value → Bool
  | .undefined => true
  | .null => true
  | _ => false

mutual

/-- The text of a value. Undefined and null have a text on their own but none within an array. -/
def display : Value → String
  | .undefined => "undefined"
  | .null => "null"
  | .bool b => if b then "true" else "false"
  | .number n => Number.display n
  | .string s => s
  | .array items => String.intercalate "," (displayItems items)

def displayItems : List Value → List String
  | [] => []
  | v :: vs => (if v.isNothing then "" else v.display) :: displayItems vs

end

def typeName : Value → String
  | .undefined => "undefined"
  | .null => "null"
  | .bool _ => "boolean"
  | .number _ => "number"
  | .string _ => "string"
  | .array _ => "array"

/-- The type as scripts are told it: null and arrays are objects. -/
def scriptType : Value → String
  | .null => "object"
  | .array _ => "object"
  | v => v.typeName

def strictEquals : Value → Value → Bool
  | .undefined, .undefined => true
  | .null, .null => true
  | .bool a, .bool b => a == b
  | .number a, .number b => a == b
  | .string a, .string b => a == b
  | _, _ => false

/-- Equality across types: undefined and null equal each other and nothing else, two strings are
compared as texts, and all other pairs without an array as numbers. -/
def looseEquals (a b : Value) : Bool :=
  if a.isNothing || b.isNothing then a.isNothing && b.isNothing
  else match a, b with
    | .string s, .string t => s == t
    | .array _, _ => false
    | _, .array _ => false
    | _, _ => a.toNumber == b.toNumber

/-- The order of two values: two strings by their characters, all others by number. There is none
where a number is missing. -/
def compare? : Value → Value → Option Ordering
  | .string s, .string t => some (compare s t)
  | a, b =>
    let x := a.toNumber
    let y := b.toNumber
    if x < y then some .lt
    else if x == y then some .eq
    else if y < x then some .gt
    else none

end Value

end Componentry
