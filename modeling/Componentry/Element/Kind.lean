import Componentry.Declaration.Extract

/-!
# Element types

`synthesize` turns a definition into an element type: the methods are compiled, the properties give
the initial values of the fields, and the hooks are set apart from the members. The children of the
definition are the template of the content of each instance.
-/

namespace Componentry

open Markup Script

inductive TypeMember where
  /-- A field with its initial value. -/
  | field (value : Value)
  | method (function : Function)
  deriving Inhabited, Repr

/-- A hook: its text, and the compiled function unless the text is blank. -/
structure Hook where
  body : String
  function : Option Function
  deriving Inhabited, Repr

def Hook.none : Hook := ⟨"", Option.none⟩

structure ElementType where
  /-- The tag, in lower case. -/
  tag : String
  className : String
  /-- The definition without its methods and blocks. -/
  template : Element
  members : KeyedList TypeMember
  hooks : Lifecycle → Hook

inductive SynthesisError where
  /-- The body of a method is not a program. -/
  | method (name : String) (cause : ScriptError)
  /-- The body of a hook is not a program. -/
  | hook (lifecycle : Lifecycle) (cause : ScriptError)
  deriving Repr

namespace SynthesisError

def message : SynthesisError → String
  | .method name _ => "Failed to compile method '" ++ name ++ "'"
  | .hook lifecycle _ => "Failed to compile " ++ lifecycle.name ++ " lifecycle hook"

def cause : SynthesisError → ScriptError
  | .method _ cause => cause
  | .hook _ cause => cause

end SynthesisError

/-- The parameters and the text of a hook. The text of a property value serves as a body. -/
def hookSource (lifecycle : Lifecycle) : Member → List String × String
  | .method parameters body => (parameters, body)
  | .property value => (lifecycle.parameters, value.display)

def compileHook (engine : Engine) (lifecycle : Lifecycle) (member : Member) :
    Except SynthesisError Hook :=
  let (parameters, body) := hookSource lifecycle member
  if Text.isBlankText body then .ok Hook.none
  else match engine.compile parameters body with
    | .ok f => .ok ⟨body, some f⟩
    | .error cause => .error (.hook lifecycle cause)

def declaredHook (engine : Engine) (declarations : Declarations) (lifecycle : Lifecycle) :
    Except SynthesisError Hook :=
  match declarations.find? lifecycle.name with
  | some d => compileHook engine lifecycle d.member
  | none => .ok Hook.none

def compileMember (engine : Engine) (name : String) : Member → Except SynthesisError TypeMember
  | .property value => .ok (.field value)
  | .method parameters body =>
    match engine.compile parameters body with
    | .ok f => .ok (.method f)
    | .error cause => .error (.method name cause)

def compileMembers (engine : Engine) : List (String × Declaration) → KeyedList TypeMember →
    Except SynthesisError (KeyedList TypeMember)
  | [], compiled => .ok compiled
  | (name, d) :: rest, compiled => do
    let m ← compileMember engine name d.member
    compileMembers engine rest (compiled.insert name m)

/-- The element type of a definition. The hooks are compiled first, then the methods in order. -/
def synthesize (engine : Engine) (definition : Definition) : Except SynthesisError ElementType := do
  let ds := definition.declarations
  let onConnected ← declaredHook engine ds .connected
  let onDisconnected ← declaredHook engine ds .disconnected
  let onAdopted ← declaredHook engine ds .adopted
  let onAttribute ← declaredHook engine ds .attribute
  let members ←
    compileMembers engine (ds.entries.filter fun e => (Lifecycle.ofName? e.1).isNone) .empty
  let tag := Text.lower definition.element.tag
  return {
    tag
    className := className tag
    template := definition.element
    members
    hooks := fun
      | .connected => onConnected
      | .disconnected => onDisconnected
      | .adopted => onAdopted
      | .attribute => onAttribute }

end Componentry
