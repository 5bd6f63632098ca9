import Componentry.Proofs.Element.Change

/-!
# What scripts leave alone

Scripts write fields, the visibility and attributes of an instance. Its type, its shadow content,
its children and whether it is connected are not theirs to change, no field goes away, and no field
gets the name of a member that every element has: `Untouched`. So whether an instance is connected
is what the document did last: `connected_runAll`.
-/

namespace Componentry.Instance

open Script

structure Untouched (before after : Instance) : Prop where
  type_eq : after.type = before.type
  shadow_eq : after.shadow = before.shadow
  children_eq : after.children = before.children
  connected_eq : after.connected = before.connected
  /-- No field is removed. -/
  keys : ∀ name ∈ before.fields.keys, name ∈ after.fields.keys
  /-- No field is added under the name of a member that every element has. -/
  builtIn : ∀ name ∈ builtIn, name ∈ after.fields.keys → name ∈ before.fields.keys

namespace Untouched

variable {before between after : Instance}

theorem refl (i : Instance) : Untouched i i where
  type_eq := rfl
  shadow_eq := rfl
  children_eq := rfl
  connected_eq := rfl
  keys _ := id
  builtIn _ _ := id

theorem trans (h : Untouched before between) (h' : Untouched between after) :
    Untouched before after where
  type_eq := h'.type_eq.trans h.type_eq
  shadow_eq := h'.shadow_eq.trans h.shadow_eq
  children_eq := h'.children_eq.trans h.children_eq
  connected_eq := h'.connected_eq.trans h.connected_eq
  keys name hname := h'.keys name (h.keys name hname)
  builtIn name hname hafter := h.builtIn name hname (h'.builtIn name hname hafter)

/-- A field may be written that is not named like a member that every element has. -/
theorem field (i : Instance) {name : String} (h : name ∉ Instance.builtIn) (v : Value) :
    Untouched i { i with fields := i.fields.insert name v } where
  type_eq := rfl
  shadow_eq := rfl
  children_eq := rfl
  connected_eq := rfl
  keys other hother := by
    rw [KeyedList.keys_insert]
    split
    · exact hother
    · exact List.mem_append_left _ hother
  builtIn other hother hmem := by
    rw [KeyedList.keys_insert] at hmem
    split at hmem
    · exact hmem
    · rcases List.mem_append.1 hmem with hmem | hmem
      · exact hmem
      · exact absurd (List.mem_singleton.1 hmem ▸ hother) h

end Untouched

theorem noticed_self (name : String) (old new : Value) (w : World Instance) :
    (noticed name old new w).self = w.self := by
  unfold noticed
  split <;> rfl

/-- Attributes and the visibility may change. -/
theorem Change.untouched {w w' : World Instance} (h : Change w w') :
    Untouched w.self w'.self := by
  cases h with
  | event h => exact .refl w.self
  | field h v => exact .field w.self h v
  | hidden hidden => exact ⟨rfl, rfl, rfl, rfl, fun _ => id, fun _ _ => id⟩
  | setAttribute name value =>
      rw [noticed_self]
      exact ⟨rfl, rfl, rfl, rfl, fun _ => id, fun _ _ => id⟩
  | removeAttribute h =>
      rw [noticed_self]
      exact ⟨rfl, rfl, rfl, rfl, fun _ => id, fun _ _ => id⟩

theorem Changes.untouched {w w' : World Instance} (h : Changes w w') :
    Untouched w.self w'.self := by
  induction h with
  | refl => exact .refl w.self
  | tail _ hchange ih => exact ih.trans hchange.untouched

namespace Action

/-- Whether an action connects the instance, for those that say. -/
def connection? : Action → Option Bool
  | .operation .connect => some true
  | .operation .disconnect => some false
  | _ => none

theorem connected_run (action : Action) (w : World Instance) :
    (action.run w).self.connected = action.connection?.getD w.self.connected := by
  rw [(action.changes_run w).untouched.connected_eq]
  cases action with
  | operation op => cases op <;> rfl
  | apply | set | hide | append => rfl

/-- The last connection or disconnection decides. -/
theorem connected_runAll (actions : List Action) (w : World Instance) :
    (runAll actions w).self.connected =
      ((actions.filterMap connection?).getLast?).getD w.self.connected := by
  induction actions generalizing w with
  | nil => rfl
  | cons action actions ih =>
      rw [runAll, List.foldl_cons, ← runAll, ih, connected_run, List.filterMap_cons]
      cases action.connection? with
      | none => rfl
      | some connects =>
          dsimp only
          rw [List.getLast?_cons]
          rfl

end Action

/-- Functions of any kind, at any depth of calls and however they end, leave alone what is not
theirs: compiled functions, what is called at the instance and hooks. So after any actions the
instance is connected as the last action said that connects or disconnects, also if its hook failed,
and a new instance is connected exactly if there was such an action and it connects. -/
theorem scripts_untouched (w : World Instance) :
    (∀ n f args, Untouched w.self (activate n f args w).2.self) ∧
      (∀ n name args, Untouched w.self (callMember (activate n) name args w).2.self) ∧
      (∀ n lifecycle args, Untouched w.self (runHook (activate n) lifecycle args w).2.self) ∧
      (∀ actions, (Action.runAll actions w).self.connected =
        ((actions.filterMap Action.connection?).getLast?).getD w.self.connected) ∧
      ∀ t actions, (Action.runAll actions ⟨ofType t, []⟩).self.connected = true ↔
        (actions.filterMap Action.connection?).getLast? = some true := by
  have hact := changing_activate
  refine ⟨fun n f args => ?_, fun n name args => ?_, fun n lifecycle args => ?_,
    fun actions => Action.connected_runAll actions w, fun t actions => ?_⟩
  · exact (hact n f args w).untouched
  · exact (changing_callMember (hact n) name args w).untouched
  · exact (changing_runHook (hact n) lifecycle args w).untouched
  · rw [Action.connected_runAll]
    cases (actions.filterMap Action.connection?).getLast? with
    | none => simp [ofType]
    | some connects => simp

end Componentry.Instance
