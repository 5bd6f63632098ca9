import Componentry.Script.Grammar
import Componentry.Script.Run

/-!
# Evaluating and compiling

`evaluate` computes the value of a text on its own, without a receiver, and gives the lines that it
logged. `compile` reads a function body without running it. An `Engine` is what does both for
definitions; `Engine.standard` does it with the scripts of this library.
-/

namespace Componentry.Script

structure Evaluation where
  result : Except ScriptError Value
  lines : List String

def evaluate (source : String) : Evaluation :=
  match Program.ofSource source with
  | .error e => ⟨.error e, []⟩
  | .ok p =>
    let (result, world) := Run.start (p.run Receiver.detached) ()
    ⟨result, world.journal.lines⟩

def compile (parameters : List String) (body : String) : Except ScriptError Function := do
  let p ← Program.ofSource body
  return ⟨parameters, p⟩

/-- What computes the values of properties, with the lines that were logged as its state, and
compiles bodies. -/
structure Engine where
  evaluate : String → StateM (List String) (Except ScriptError Value)
  compile : List String → String → Except ScriptError Function

namespace Engine

def standard : Engine where
  evaluate source lines :=
    ((Script.evaluate source).result, lines ++ (Script.evaluate source).lines)
  compile := Script.compile

end Engine

end Componentry.Script
