import Componentry.Element.Kind
import Componentry.Markup.Written
import Componentry.Script.Run

/-!
# Instances

An instance is one element of an element type, with fields, attributes and children of its own, and
a copy of the template as its shadow content. Its methods and hooks run with the instance as
`this`; they may call each other, but no more than `callLimit` calls may nest. `activate n` runs a
function while `n` more calls may nest, so the bound is the recursion.

Every attribute change is notified to the attribute hook with the name, the old and the new value.
-/

namespace Componentry

open Markup Script

structure Instance where
  type : ElementType
  fields : KeyedList Value
  attributes : KeyedList String
  /-- The content made from the template. -/
  shadow : List Node
  /-- The children of the element itself. -/
  children : List Node
  hidden : Bool
  connected : Bool

namespace Instance

/-- The fields of a new instance: the class name, and the declared ones. -/
def initialFields (type : ElementType) : KeyedList Value :=
  type.members.entries.foldl
    (fun fields e =>
      match e.2 with
      | .field v => fields.insert e.1 v
      | .method _ => fields)
    (KeyedList.empty.insert "name" (.string type.className))

def ofType (type : ElementType) : Instance where
  type
  fields := initialFields type
  attributes := .empty
  shadow := type.template.children
  children := []
  hidden := false
  connected := false

/-- The value of a member. Three members are part of every element. -/
def get? (i : Instance) (name : String) : Option Value :=
  if name = "hidden" then some (.bool i.hidden)
  else if name = "isConnected" then some (.bool i.connected)
  else if name = "tagName" then some (.string (Text.upper i.type.tag))
  else i.fields.find? name

def set (name : String) (v : Value) : Run Instance Unit :=
  if name = "hidden" then Run.change fun i => { i with hidden := v.truthy }
  else if name = "isConnected" ∨ name = "tagName" then throw .invalidAssignment
  else Run.change fun i => { i with fields := i.fields.insert name v }

def method? (i : Instance) (name : String) : Option Function :=
  match i.type.members.find? name with
  | some (.method f) => some f
  | _ => none

abbrev Activation := Function → List Value → Run Instance Value

section

variable (activate : Activation)

def runHook (lifecycle : Lifecycle) (args : List Value) : Run Instance Unit := do
  match ((← Run.self).type.hooks lifecycle).function with
  | some f => discard (activate f args)
  | none => return ()

def notify (name : String) (old new : Value) : Run Instance Unit := do
  match ((← Run.self).type.hooks .attribute).function with
  | some _ => Run.record (.notified name old new)
  | none => pure ()
  let args := [Value.string name, old, new]
  runHook activate .attribute args

def setAttribute (name value : String) : Run Instance Unit := do
  let old := (← Run.self).attributes.find? name
  Run.change fun i => { i with attributes := i.attributes.insert name value }
  notify activate name (Value.ofText? old) (.string value)

def removeAttribute (name : String) : Run Instance Unit := do
  match (← Run.self).attributes.find? name with
  | some old =>
    Run.change fun i => { i with attributes := i.attributes.erase name }
    notify activate name (.string old) .null
  | none => return ()

/-- Calls a method. A field of that name hides the method; a method hides what every element can
do with its attributes. -/
def callMember (name : String) (args : List Value) : Run Instance Value := do
  let i ← Run.self
  let arg (n : Nat) : String := (args[n]?.map Value.display).getD ""
  if i.fields.contains name then throw (.notCallable ("this." ++ name))
  else match i.method? name with
    | some f => activate f args
    | none =>
      if name = "getAttribute" then return Value.ofText? (i.attributes.find? (arg 0))
      else if name = "hasAttribute" then return .bool (i.attributes.contains (arg 0))
      else if name = "setAttribute" then do
        setAttribute activate (arg 0) (arg 1)
        return .undefined
      else if name = "removeAttribute" then do
        removeAttribute activate (arg 0)
        return .undefined
      else throw (.notCallable ("this." ++ name))

def receiver : Receiver Instance := ⟨get?, set, callMember activate⟩

end

/-- Runs a function while so many calls may nest. -/
def activate : Nat → Activation
  | 0, _, _ => do
    Run.record .refused
    throw .callTooDeep
  | n + 1, f, args => do
    Run.record .entered
    let outcome ← observing (f.run (receiver (activate n)) args)
    match outcome with
    | .ok v =>
      Run.record (.left none)
      return v
    | .error e =>
      Run.record (.left (some e))
      throw e
where
  /-- The outcome of an activity, a failure included. -/
  observing {α : Type} (run : Run Instance α) : Run Instance (Except ScriptError α) :=
    fun world =>
      let (result, world) := run world
      (.ok result, world)

def call (name : String) (args : List Value) : Run Instance Value :=
  callMember (activate callLimit) name args

def apply (f : Function) (args : List Value) : Run Instance Value := activate callLimit f args

def connect : Run Instance Unit := do
  Run.change fun i => { i with connected := true, hidden := false }
  runHook (activate callLimit) .connected []

def disconnect : Run Instance Unit := do
  Run.change fun i => { i with connected := false }
  runHook (activate callLimit) .disconnected []

def adopt : Run Instance Unit := runHook (activate callLimit) .adopted []

def writeAttribute (name value : String) : Run Instance Unit :=
  setAttribute (activate callLimit) name value

def deleteAttribute (name : String) : Run Instance Unit :=
  removeAttribute (activate callLimit) name

def append (i : Instance) (n : Node) : Instance := { i with children := i.children ++ [n] }

end Instance

/-- The first element with a tag, going through a forest in order, parents before children. -/
def findElement? (tag : String) : List Node → Option Element
  | [] => none
  | .element t attributes children :: rest =>
    if Text.sameName t tag then some ⟨t, attributes, children⟩
    else (findElement? tag children).orElse fun _ => findElement? tag rest
  | _ :: rest => findElement? tag rest

end Componentry
