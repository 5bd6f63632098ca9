import Componentry.Script.Error

/-!
# The journal of a run

A script acts on the element it belongs to, its receiver, and leaves a journal of what happened:
the lines it logged, the functions that were entered and left, the calls that were refused, and the
attribute changes that were notified. The receiver and the journal make the `World` of a run. A
failing run keeps both as they are at the failure.
-/

namespace Componentry.Script

inductive Event where
  | logged (line : String)
  | entered
  /-- A compiled function ended, with or without an error. -/
  | left (failure : Option ScriptError)
  /-- A call was refused since calls nest too deeply. -/
  | refused
  /-- An attribute change was notified: its name, the old and the new value. -/
  | notified (name : String) (old new : Value)
  deriving Repr

/-- The events of a run, latest first. -/
abbrev Journal := List Event

def Event.line? : Event → Option String
  | .logged line => some line
  | _ => none

def Journal.lines (j : Journal) : List String := j.reverse.filterMap Event.line?

@[simp] theorem Journal.lines_nil : Journal.lines [] = [] := rfl

structure World (σ : Type) where
  self : σ
  journal : Journal

abbrev Run (σ : Type) := ExceptT ScriptError (StateM (World σ))

namespace Run

variable {σ α : Type}

def record (e : Event) : Run σ Unit :=
  modify fun w => { w with journal := e :: w.journal }

def self : Run σ σ := do return (← get).self

def change (f : σ → σ) : Run σ Unit := modify fun w => { w with self := f w.self }

def start (run : Run σ α) (s : σ) : Except ScriptError α × World σ := run ⟨s, []⟩

end Run

structure Receiver (σ : Type) where
  /-- The value of a member, if there is one. -/
  get : σ → String → Option Value
  set : String → Value → Run σ Unit
  call : String → List Value → Run σ Value

/-- The receiver of scripts that belong to no element: it has no members, and writing or calling
one fails. -/
def Receiver.detached : Receiver Unit where
  get _ _ := none
  set _ _ := throw .noReceiver
  call _ _ := throw .noReceiver

end Componentry.Script
