import Componentry.Proofs.Element.Member
import Componentry.Proofs.Element.Nesting
import Componentry.Proofs.Script.Reach

/-!
# How an instance changes

The scripts of an instance call each other through the instance, write attributes whose hook runs
again, and may fail at any point. All that comes of it is a sequence of elementary changes: an event
is added to the journal, a field or the visibility is written, or an attribute is written or removed
and its hook notified. `Change` is one of them. `changing_activate` says that an activation is such
a sequence, whatever room is left for calls, so what each change keeps is kept by all that scripts
do.

`Action` is what can be done with an instance from outside. Some actions change the instance
themselves (`Action.begin`) before a script of the instance runs.
-/

namespace Componentry

open Script Markup

structure Notice where
  name : String
  old : Value
  new : Value

def Script.Event.notice? : Event → Option Notice
  | .notified name old new => some ⟨name, old, new⟩
  | _ => none

namespace Instance

variable {w w' : World Instance}

def noticed (name : String) (old new : Value) (w : World Instance) : World Instance :=
  match (w.self.type.hooks .attribute).function with
  | some _ => w.after (.notified name old new)
  | none => w

inductive Change (w : World Instance) : World Instance → Prop
  /-- Something happens that is no attribute change. -/
  | event {e : Event} (h : e.notice? = none) : Change w (w.after e)
  | field {name : String} (h : name ∉ builtIn) (v : Value) :
      Change w { w with self := { w.self with fields := w.self.fields.insert name v } }
  | hidden (hidden : Bool) : Change w { w with self := { w.self with hidden } }
  | setAttribute (name value : String) :
      Change w (noticed name (Value.ofText? (w.self.attributes.find? name)) (.string value)
        { w with self := { w.self with attributes := w.self.attributes.insert name value } })
  | removeAttribute {name old : String} (h : w.self.attributes.find? name = some old) :
      Change w (noticed name (.string old) .null
        { w with self := { w.self with attributes := w.self.attributes.erase name } })

abbrev Changes : World Instance → World Instance → Prop := Relation.ReflTransGen Change

/-- An activity is a sequence of elementary changes, also when it fails. -/
def Changing {α : Type} (x : Run Instance α) : Prop := ∀ w, Changes w (x w).2

theorem Changing.bind {α β : Type} {x : Run Instance α} {f : α → Run Instance β}
    (h : Changing x) (hf : ∀ a, Changing (f a)) : Changing (x >>= f) := by
  have hx : Follows Change id x := h
  exact hx.bind hf

theorem Changing.of_snd_eq {α : Type} {x : Run Instance α} (h : ∀ w, (x w).2 = w) :
    Changing x := by
  have hx : Follows Change id x := .of_look_eq h
  exact hx

theorem changing_set (name : String) (v : Value) : Changing (set name v) := by
  intro w
  by_cases hname : name ∈ builtIn
  · rw [set_builtIn hname]
    split
    · exact .single (.hidden v.truthy)
    · exact .refl
  · rw [set_eq_insert hname]
    exact .single (.field hname v)

/-- To notify is to add the event and to run the hook with what is told. -/
theorem notify_apply (act : Activation) (name : String) (old new : Value) (w : World Instance) :
    notify act name old new w =
      runHook act .attribute ([.string name, old, new]) (noticed name old new w) := by
  have hself : (Run.self : Run Instance Instance) w = (.ok w.self, w) := rfl
  rw [notify, Activity.bind_apply, hself, noticed]
  dsimp only
  cases (w.self.type.hooks .attribute).function <;> rfl

theorem setAttribute_apply (act : Activation) (name value : String) (w : World Instance) :
    setAttribute act name value w =
      notify act name (Value.ofText? (w.self.attributes.find? name)) (.string value)
        { w with self := { w.self with attributes := w.self.attributes.insert name value } } := rfl

theorem removeAttribute_apply (act : Activation) (name : String) (w : World Instance) :
    removeAttribute act name w =
      match w.self.attributes.find? name with
      | some old =>
        notify act name (.string old) .null
          { w with self := { w.self with attributes := w.self.attributes.erase name } }
      | none => (.ok (), w) := by
  have hself : (Run.self : Run Instance Instance) w = (.ok w.self, w) := rfl
  rw [removeAttribute, Activity.bind_apply, hself]
  dsimp only
  cases w.self.attributes.find? name <;> rfl

section activities

variable {act : Activation} (h : ∀ f args, Changing (act f args))
include h

theorem changing_runHook (lifecycle : Lifecycle) (args : List Value) :
    Changing (runHook act lifecycle args) := by
  unfold runHook
  apply (Changing.of_snd_eq fun _ => rfl).bind
  intro i
  split
  · exact (h _ _).bind fun _ => .of_snd_eq fun _ => rfl
  · exact .of_snd_eq fun _ => rfl

theorem changing_setAttribute (name value : String) : Changing (setAttribute act name value) := by
  intro w
  rw [setAttribute_apply, notify_apply]
  exact .head (.setAttribute name value) (changing_runHook h _ _ _)

theorem changing_removeAttribute (name : String) : Changing (removeAttribute act name) := by
  intro w
  rw [removeAttribute_apply]
  cases hold : w.self.attributes.find? name with
  | none => exact .refl
  | some old =>
      dsimp only
      rw [notify_apply]
      exact .head (.removeAttribute hold) (changing_runHook h _ _ _)

theorem changing_callMember (name : String) (args : List Value) :
    Changing (callMember act name args) := by
  unfold callMember
  apply (Changing.of_snd_eq fun _ => rfl).bind
  intro i
  dsimp only
  split
  · exact .of_snd_eq fun _ => rfl
  · split
    · exact h _ _
    · split_ifs
      · exact .of_snd_eq fun _ => rfl
      · exact .of_snd_eq fun _ => rfl
      · exact (changing_setAttribute h _ _).bind fun _ => .of_snd_eq fun _ => rfl
      · exact (changing_removeAttribute h _).bind fun _ => .of_snd_eq fun _ => rfl
      · exact .of_snd_eq fun _ => rfl

/-- A deed of a script whose receiver is the instance. -/
theorem changes_of_step (hstep : (receiver act).Step w w') : Changes w w' := by
  cases hstep with
  | log line => exact .single (.event (e := .logged line) rfl)
  | set name v => exact changing_set name v w
  | call name args => exact changing_callMember h name args w

theorem changes_of_reaches (hreaches : (receiver act).Reaches w w') : Changes w w' := by
  induction hreaches with
  | refl => exact .refl
  | tail _ hstep ih => exact ih.trans (changes_of_step h hstep)

end activities

/-- Whatever a function does, to whatever depth it calls others, is a sequence of elementary
changes. The induction is on the room that is left for calls. -/
theorem changing_activate (n : Nat) (f : Function) (args : List Value) :
    Changing (activate n f args) := by
  induction n generalizing f args with
  | zero => exact fun w => .single (.event (e := .refused) rfl)
  | succ n ih =>
      intro w
      have hbody := changes_of_reaches ih (f.confined_run (receiver (activate n)) args
        (w.after .entered))
      rw [activate_succ, enter]
      exact .head (.event (e := .entered) rfl) (hbody.tail (.event (e := .left _) rfl))

/-- What can be done with an instance from outside, functions that were compiled apart from its type
included. -/
inductive Action where
  | operation (op : Operation)
  /-- Calls a function with the instance as `this`. -/
  | apply (f : Function) (args : List Value)
  | set (name : String) (v : Value)
  | hide (hidden : Bool)
  | append (child : Node)

namespace Action

def run (w : World Instance) : Action → World Instance
  | .operation op => (op.run w).2
  | .apply f args => (Instance.apply f args w).2
  | .set name v => (Instance.set name v w).2
  | .hide hidden => { w with self := { w.self with hidden } }
  | .append child => { w with self := w.self.append child }

def runAll (actions : List Action) (w : World Instance) : World Instance := actions.foldl run w

/-- What an action itself changes before a script runs. -/
def begin (i : Instance) : Action → Instance
  | .operation .connect => { i with connected := true, hidden := false }
  | .operation .disconnect => { i with connected := false }
  | .append child => i.append child
  | _ => i

/-- After what an action itself changes there are but elementary changes. -/
theorem changes_run (action : Action) (w : World Instance) :
    Changes { w with self := action.begin w.self } (action.run w) := by
  have hact := changing_activate callLimit
  cases action with
  | operation op =>
      cases op with
      | call name args => exact changing_callMember hact name args w
      | connect => exact changing_runHook hact .connected [] _
      | disconnect => exact changing_runHook hact .disconnected [] _
      | adopt => exact changing_runHook hact .adopted [] w
      | setAttribute name value => exact changing_setAttribute hact name value w
      | removeAttribute name => exact changing_removeAttribute hact name w
  | apply f args => exact hact f args w
  | set name v => exact changing_set name v w
  | hide hidden => exact .single (.hidden hidden)
  | append child => exact .refl

end Action

end Instance

end Componentry
