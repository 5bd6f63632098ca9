import Componentry.Loading.Config
import Componentry.Loading.Fetch
import Componentry.Loading.Registry
import Componentry.Loading.Source
import Componentry.Markup.Tree

/-!
# The loader

The loader finds components, gets their definitions and registers the element types. An inline
definition is registered as it is found; an external one is queued as a fetch, and registered when
the fetch is answered. Every component found gets a key of its own and goes from `discovered` over
`loading` and `parsed` to `registered`, or ends as `failed`. A failure is kept and reported, and
touches no other component.

The answers to fetches are an argument of the functions that wait, and may change with time: each
time that the queue is looked at has answers of its own. A fetch may stay unanswered; then the
loader waits, and goes on when it is asked again. Definitions are registered in the order in which
the answers come.
-/

namespace Componentry

open Markup

variable {A : Type}

inductive LoadState where
  | discovered
  | loading
  | parsed
  | registered
  | failed
  deriving DecidableEq, Repr

def LoadState.name : LoadState → String
  | .discovered => "discovered"
  | .loading => "loading"
  | .parsed => "parsed"
  | .registered => "registered"
  | .failed => "failed"

structure Summary where
  /-- The tags registered, in order. -/
  registered : List String
  /-- The keys of those that failed. -/
  failed : List String
  deriving DecidableEq, Repr

namespace Summary

def empty : Summary := ⟨[], []⟩

def isEmpty (s : Summary) : Bool := s.registered.isEmpty && s.failed.isEmpty

def append (s t : Summary) : Summary := ⟨s.registered ++ t.registered, s.failed ++ t.failed⟩

instance : Append Summary := ⟨append⟩

@[simp] theorem registered_append (s t : Summary) :
    (s ++ t).registered = s.registered ++ t.registered := rfl

@[simp] theorem failed_append (s t : Summary) : (s ++ t).failed = s.failed ++ t.failed := rfl

@[simp] theorem empty_append (s : Summary) : empty ++ s = s := rfl

end Summary

structure Mutation where
  target : String
  added : List Node

def Mutation.isFor (m : Mutation) (config : Config A) : Bool :=
  Text.sameName m.target config.containerTag

structure Loader (A : Type) where
  config : Config A
  /-- What evaluates and compiles the scripts of definitions. -/
  engine : Script.Engine
  registry : Registry
  states : KeyedList LoadState
  inlineCount : Nat
  /-- The fetches under way, in the order in which they were queued. -/
  pending : List (Fetch A)
  /-- The addresses that have been asked for. -/
  requests : List String
  /-- The failures that have been reported, with their keys. -/
  reports : List (String × LoadError)
  /-- The lines that definitions logged while they were read. -/
  lines : List String

abbrev Loading (A : Type) := StateM (Loader A)

def inlineKey (n : Nat) : String := "inline#" ++ toString n

def numberedKey (key : String) (n : Nat) : String := key ++ " [" ++ toString n ++ "]"

/-- A key that is not used: the key itself, or the key with the least number from 2 on. With `n`
keys in use, one of the first `n` numbers is free. -/
def freshKey (used : List String) (key : String) : String :=
  if used.contains key then
    (((List.range' 2 (used.length + 1)).map (numberedKey key)).find?
      fun k => !used.contains k).getD key
  else key

namespace Loader

def start (config : Config A) : Loader A :=
  ⟨config, .standard, .empty, .empty, 0, [], [], [], []⟩

def withEngine (l : Loader A) (engine : Script.Engine) : Loader A := { l with engine }

/-- Forgets all components and registrations. Fetches under way are dropped. -/
def reset (l : Loader A) : Loader A :=
  { l with registry := .empty, states := .empty, inlineCount := 0, pending := [] }

def state? (l : Loader A) (key : String) : Option LoadState := l.states.find? key

def transition (key : String) (s : LoadState) : Loading A Unit :=
  modify fun l => { l with states := l.states.insert key s }

def define (key : String) (root : Element) : Loading A (Except LoadError ElementType) := do
  let l ← get
  let registry := l.registry
  let (extracted, lines) := extract l.engine.evaluate registry.contains root l.lines
  set { l with lines }
  match extracted with
  | .error e => return .error (.declaration e)
  | .ok definition =>
    transition key .parsed
    match synthesize l.engine definition with
    | .error e => return .error (.synthesis e)
    | .ok t =>
      match registry.define t with
      | .error e => return .error (.registry e)
      | .ok registry =>
        modify fun l => { l with registry := registry.recordImport t.tag root }
        return .ok t

def conclude (key : String) : Except LoadError ElementType → Loading A Summary
  | .ok t => do
    transition key .registered
    return ⟨[t.tag], []⟩
  | .error e => do
    transition key .failed
    modify fun l =>
      { l with reports := l.reports ++ [(key, e)], registry := l.registry.recordFailure key e }
    return ⟨[], [key]⟩

def load (key : String) (nodes : List Node) : Loading A Summary := do
  match definitionRoot nodes with
  | .ok root => conclude key (← define key root)
  | .error e => conclude key (.error e)

/-- The text that a component with an unusable source is named by. -/
def failureKey (component : Element) : LoadError → String
  | .crossOrigin url => url
  | _ => (sourceText? component).getD ""

def definitionsIn (config : Config A) (nodes : List Node) : List Element :=
  (nodes.filterMap Node.element?).filter fun e => Text.sameName e.tag config.definitionTag

mutual

/-- The components in the containers of a node, in document order. A container within a container
is not looked into. -/
def componentsOf (config : Config A) : Node → List Element
  | .element tag _ children =>
    if Text.sameName tag config.containerTag then definitionsIn config children
    else components config children
  | _ => []

def components (config : Config A) : List Node → List Element
  | [] => []
  | n :: ns => componentsOf config n ++ components config ns

end

variable [Addressing A]

def keyFor (l : Loader A) (component : Element) : String :=
  match sourceOf component l.config.base with
  | .ok .inline => inlineKey l.inlineCount
  | .ok (.external address) => freshKey l.states.keys (Addressing.text address)
  | .error e => freshKey l.states.keys (failureKey component e)

def discoverOne (component : Element) : Loading A Summary := do
  let l ← get
  let key := l.keyFor component
  match sourceOf component l.config.base with
  | .ok .inline =>
    modify fun l => { l with inlineCount := l.inlineCount + 1 }
    transition key .discovered
    transition key .loading
    load key component.children
  | .ok (.external address) =>
    transition key .discovered
    transition key .loading
    modify fun l => { l with pending := l.pending ++ [⟨key, address, false⟩] }
    return .empty
  | .error e =>
    transition key .discovered
    conclude key (.error e)

def discover : List Element → Loading A Summary
  | [] => return .empty
  | c :: cs => do
    let first ← discoverOne c
    let rest ← discover cs
    return first ++ rest

/-- Loads the component with a key from the answer to its fetch. An answer that is never read to its
end fails as one without an element. -/
def settle (key : String) : Except LoadError String → Loading A Summary
  | .ok text => load key (forest text)
  | .error e => conclude key (.error e)

inductive Progress where
  /-- There is no fetch under way. -/
  | idle
  /-- No fetch under way is answered. -/
  | waiting
  /-- A fetch was answered and its definition loaded. -/
  | done (summary : Summary)

def completeNext (answers : Answers A) : Loading A Progress := do
  let l ← get
  if l.pending.isEmpty then return .idle
  else
    let wait := Wait.on answers l.pending
    set { l with pending := wait.left, requests := l.requests ++ wait.asked }
    match wait.answered with
    | some (f, result) => return .done (← settle f.key result)
    | none => return .waiting

/-- The answers to fetches each time that the queue is looked at. -/
abbrev Schedule (A : Type) := Nat → Answers A

/-- Waits for fetches one after the other, at most as often as given, and gives the summary and
whether fetches are left that are not answered. -/
def completeAll (schedule : Schedule A) : Nat → Loading A (Summary × Bool)
  | 0 => return (.empty, false)
  | n + 1 => do
    match ← completeNext (schedule 0) with
    | .idle => return (.empty, false)
    | .waiting => return (.empty, true)
    | .done first =>
      let (rest, waits) ← completeAll (fun k => schedule (k + 1)) n
      return (first ++ rest, waits)

/-- Loads all definitions whose fetches are answered. Each round takes one fetch away. -/
def completeReady (schedule : Schedule A) : Loading A Summary := do
  return (← completeAll schedule ((← get).pending.length + 1)).1

/-- Waits for all fetches; no summary if some are not answered. -/
def finishPending (schedule : Schedule A) : Loading A (Option Summary) := do
  let (summary, waits) ← completeAll schedule ((← get).pending.length + 1)
  return if waits then none else some summary

def loadBatch (schedule : Schedule A) (components : List Element) : Loading A (Option Summary) := do
  let first ← discover components
  return (← finishPending schedule).map (first ++ ·)

def scan (schedule : Schedule A) (nodes : List Node) : Loading A (Option Summary) := do
  loadBatch schedule (components (← get).config nodes)

/-- Begins to load the components that were added to a container; no summary if the nodes were added
elsewhere. -/
def handleMutation (m : Mutation) : Loading A (Option Summary) := do
  let config := (← get).config
  if m.isFor config then return some (← discover (definitionsIn config m.added))
  else return none

end Loader

end Componentry
