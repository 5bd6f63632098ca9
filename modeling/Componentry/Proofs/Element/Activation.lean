import Componentry.Element.Instance
import Componentry.Proofs.Script.Course

/-!
# One activation

What a function that is entered does to the world: its body runs with the instance as `this`, and
the methods and hooks that it calls run one level further in. The journal has an event before the
body and one after it, however the body ends.
-/

namespace Componentry

open Script

def failure? {α : Type} : Except ScriptError α → Option ScriptError
  | .ok _ => none
  | .error e => some e

theorem failure?_eq_some_iff {α : Type} {r : Except ScriptError α} {e : ScriptError} :
    failure? r = some e ↔ r = .error e := by
  cases r with
  | ok a => exact ⟨nofun, nofun⟩
  | error e' => rw [failure?, Option.some_inj, Except.error.injEq]

/-- A world in which something more has happened. -/
def Script.World.after {σ : Type} (w : World σ) (e : Event) : World σ :=
  { w with journal := e :: w.journal }

namespace Instance

/-- Enters a function. Calls out of its body are activations of the kind given. -/
def enter (inner : Activation) : Activation := fun f args w =>
  let (result, after) := f.run (receiver inner) args (w.after .entered)
  (result, after.after (.left (failure? result)))

def refuse : Activation := fun _ _ w => (.error .callTooDeep, w.after .refused)

theorem activate_zero : activate 0 = refuse := rfl

theorem activate_succ (n : Nat) : activate (n + 1) = enter (activate n) := by
  funext f args w
  rw [activate, Activity.bind_apply]
  refine (Activity.bind_apply (activate.observing (f.run (receiver (activate n)) args)) _
    (w.after .entered)).trans ?_
  rw [activate.observing, enter]
  rcases f.run (receiver (activate n)) args (w.after .entered) with ⟨v | e, after⟩ <;> rfl

end Instance

end Componentry
