import Componentry.KeyedList
import Componentry.Script.Journal
import Componentry.Script.Term
import Componentry.Text.Units
import Componentry.Value.Maths

/-!
# Running programs

Programs run against a receiver. Names are bound in a stack of scopes, innermost first; `eval`
computes the value of an expression and `exec` runs a statement, which either goes on with a value
or returns one. Both follow the syntax tree. The scopes and the world are kept when a run fails, so
what a failing run did before is still there.
-/

namespace Componentry.Script

structure Binding where
  value : Value
  constant : Bool
  deriving Inhabited, Repr

abbrev Scope := KeyedList Binding

/-- The scopes around a place, innermost first. -/
abbrev Scopes := List Scope

namespace Scopes

def find? (name : String) : Scopes → Option Binding
  | [] => none
  | scope :: outer =>
    match scope.find? name with
    | some b => some b
    | none => find? name outer

def declare (name : String) (b : Binding) : Scopes → Scopes
  | [] => []
  | scope :: outer => scope.insert name b :: outer

def assign (name : String) (v : Value) : Scopes → Scopes
  | [] => []
  | scope :: outer =>
    match scope.find? name with
    | some b => scope.insert name { b with value := v } :: outer
    | none => scope :: assign name v outer

end Scopes

structure Frame (σ : Type) where
  scopes : Scopes
  world : World σ

abbrev Eval (σ : Type) := ExceptT ScriptError (StateM (Frame σ))

namespace Eval

variable {σ α : Type}

def inWorld (run : Run σ α) : Eval σ α := fun frame =>
  let (result, world) := run frame.world
  (result, { frame with world })

def inScope (run : Eval σ α) : Eval σ α := fun frame =>
  let (result, after) := run { frame with scopes := .empty :: frame.scopes }
  (result, { after with scopes := after.scopes.tail })

def declare (name : String) (b : Binding) : Eval σ Unit :=
  modify fun frame => { frame with scopes := frame.scopes.declare name b }

def binding? (name : String) : Eval σ (Option Binding) := do
  return (← get).scopes.find? name

def isFree (e : Expr) (name : String) : Eval σ Bool := do
  match e.name? with
  | some n => if n = name then return (← binding? name).isNone else return false
  | none => return false

end Eval

/-- How a statement ends: it goes on with a value, or it returns one. -/
inductive Flow where
  | normal (value : Value)
  | returned (value : Value)

def memberOf (v : Value) (property place : String) : Except ScriptError Value :=
  match v with
  | .undefined => .error (.noMembers property v place)
  | .null => .error (.noMembers property v place)
  | .string s =>
    if property = "length" then .ok (.number (Float.ofNat (Text.unitCount s))) else .ok .undefined
  | .array items =>
    if property = "length" then .ok (.number (Float.ofNat items.length)) else .ok .undefined
  | _ => .ok .undefined

/-- The position that a number is, if it is a whole number and not negative. -/
def position? (x : Float) : Option Nat :=
  match Number.form x with
  | .finite negative m q =>
    if m = 0 then some 0
    else if negative then none
    else Number.whole? m q
  | _ => none

def itemOf (v key : Value) (place : String) : Except ScriptError Value :=
  match v with
  | .undefined => .error (.noMembers key.display v place)
  | .null => .error (.noMembers key.display v place)
  | .array items => .ok (((position? key.toNumber).bind fun i => items[i]?).getD .undefined)
  | .string s =>
    .ok ((((position? key.toNumber).bind fun i => Text.unitAt? s i).map Value.string).getD
      .undefined)
  | _ =>
    match key with
    | .string property => memberOf v property place
    | _ => .ok .undefined

def AssignOp.apply : AssignOp → Value → Value → Value
  | .set, _, v => v
  | .add, current, v => BinaryOp.apply .add current v
  | .sub, current, v => BinaryOp.apply .sub current v

section

variable {σ : Type} (host : Receiver σ)

def call (callee : Expr) (args : List Value) : Eval σ Value := do
  let refused : Eval σ Value := throw (.notCallable callee.describe)
  match callee with
  | .member object property =>
    if object.isThis then Eval.inWorld (host.call property args)
    else if property = "log" && (← Eval.isFree object "console") then do
      Eval.inWorld (Run.record (.logged (String.intercalate " " (args.map Value.display))))
      return .undefined
    else if ← Eval.isFree object "Math" then
      match Maths.call? property args with
      | some v => return v
      | none => refused
    else refused
  | _ => refused

def assignName (name : String) (op : AssignOp) (v : Value) : Eval σ Value := do
  match ← Eval.binding? name with
  | some b =>
    if b.constant then throw (.constant name)
    else
      let next := op.apply b.value v
      modify fun frame => { frame with scopes := frame.scopes.assign name next }
      return next
  | none => throw (.unbound name)

def assignMember (property : String) (op : AssignOp) (v : Value) : Eval σ Value := do
  let self := (← get).world.self
  let next := match op with
    | .set => v
    | op => op.apply ((host.get self property).getD .undefined) v
  Eval.inWorld (host.set property next)
  return next

mutual

def eval : Expr → Eval σ Value
  | .number n => return .number n
  | .string s => return .string s
  | .bool b => return .bool b
  | .null => return .null
  | .undefined => return .undefined
  | .this => throw .bareThis
  | .name n => do
    match ← Eval.binding? n with
    | some b => return b.value
    | none => throw (.unbound n)
  | .array items => return .array (← evalAll items)
  | .member object property => do
    if object.isThis then
      return (host.get (← get).world.self property).getD .undefined
    else if ← Eval.isFree object "Math" then
      return Maths.constant property
    else
      let target ← eval object
      liftM (memberOf target property object.describe)
  | .index object position => do
    let target ← eval object
    let key ← eval position
    liftM (itemOf target key object.describe)
  | .call callee args => do
    let args ← evalAll args
    call host callee args
  | .unary op operand => return op.apply (← eval operand)
  | .binary op left right => do
    let a ← eval left
    match op with
    | .and => if a.truthy then eval right else return a
    | .or => if a.truthy then return a else eval right
    | op => return op.apply a (← eval right)
  | .conditional test yes no => do
    if (← eval test).truthy then eval yes else eval no
  | .assignName name op value => do
    let v ← eval value
    assignName name op v
  | .assignMember object property op value => do
    let v ← eval value
    if object.isThis then assignMember host property op v else throw .invalidAssignment

def evalAll : List Expr → Eval σ (List Value)
  | [] => return []
  | e :: es => do
    let v ← eval e
    let vs ← evalAll es
    return v :: vs

end

def declareAll (constant : Bool) : List (String × Option Expr) → Eval σ Unit
  | [] => return ()
  | (name, value) :: items => do
    let v ← match value with
      | some e => eval host e
      | none => pure .undefined
    Eval.declare name ⟨v, constant⟩
    declareAll constant items

mutual

def exec : Stmt → Eval σ Flow
  | .expr e => return .normal (← eval host e)
  | .declare kind items => do
    declareAll host (kind == .const) items
    return .normal .undefined
  | .ifElse test yes none => do
    if (← eval host test).truthy then
      if yes.isBlock then exec yes else Eval.inScope (exec yes)
    else return .normal .undefined
  | .ifElse test yes (some no) => do
    if (← eval host test).truthy then
      if yes.isBlock then exec yes else Eval.inScope (exec yes)
    else
      if no.isBlock then exec no else Eval.inScope (exec no)
  | .return none => return .returned .undefined
  | .return (some e) => return .returned (← eval host e)
  | .block body => Eval.inScope (execAll .undefined body)
  | .empty => return .normal .undefined

/-- Runs statements in order. The value is that of the last one that has a value. -/
def execAll (last : Value) : List Stmt → Eval σ Flow
  | [] => return .normal last
  | s :: rest => do
    match ← exec s with
    | .returned v => return .returned v
    | .normal v => execAll (if s.isSilent then last else v) rest

end

/-- Runs a program. Its value is the one returned, or else that of its last expression. -/
def Program.run (p : Program) : Run σ Value := fun world =>
  let (result, frame) := execAll host .undefined p ⟨[.empty], world⟩
  (result.map fun
    | .normal v => v
    | .returned v => v, frame.world)

end

structure Function where
  parameters : List String
  body : Program
  deriving Inhabited, Repr

namespace Function

variable {σ : Type}

/-- The bindings of parameters. A missing argument is undefined, and one too many is dropped. -/
def bind : List String → List Value → Scope → Scope
  | [], _, scope => scope
  | name :: names, args, scope =>
    bind names args.tail (scope.insert name ⟨args.head?.getD .undefined, false⟩)

/-- Runs the body with `this` standing for the receiver. Only a return statement gives a value. -/
def run (host : Receiver σ) (f : Function) (args : List Value) : Run σ Value := fun world =>
  let (result, frame) := execAll host .undefined f.body ⟨[bind f.parameters args .empty], world⟩
  (result.map fun
    | .normal _ => .undefined
    | .returned v => v, frame.world)

end Function

end Componentry.Script
