import Componentry.Proofs.Element.Untouched

/-!
# What the attribute hook is told

Every attribute change, from outside or by a script, is told to the attribute hook with the old and
the new value, and the hook may change attributes again before the change is over, or fail. A
`Notice` is what the hook is told. `Notice.replay` writes the new values over a map without entries,
and `Told` says that the notices so far agree with the attributes: each tells the value that was
there, and all of them together give the attributes as they are. Each elementary change keeps that,
so it holds at every time, in the middle of nested hooks too.
-/

namespace Componentry

open Script

def Script.Journal.notices (j : Journal) : List Notice := j.reverse.filterMap Event.notice?

theorem Script.Journal.notices_cons (e : Event) (j : Journal) :
    Journal.notices (e :: j) = Journal.notices j ++ e.notice?.toList := by
  rw [notices, List.reverse_cons, List.filterMap_append, notices]
  cases hnotice : e.notice? <;> simp [hnotice]

namespace Notice

/-- Writes the new value over the old one. Null removes it. -/
def apply (attributes : KeyedList String) (n : Notice) : KeyedList String :=
  match n.new with
  | .string value => attributes.insert n.name value
  | _ => attributes.erase n.name

/-- The attributes that notices lead to where there were none. -/
def replay (ns : List Notice) : KeyedList String := ns.foldl apply .empty

/-- The notice tells a change of the attributes: the old value is the one that is there, or null,
the new one is a text or null, and they are not both null. -/
structure Fits (attributes : KeyedList String) (n : Notice) : Prop where
  old_eq : n.old = Value.ofText? (attributes.find? n.name)
  new_eq : ∃ value?, n.new = Value.ofText? value?
  change : ¬ (n.old = .null ∧ n.new = .null)

end Notice

structure Told (ns : List Notice) (attributes : KeyedList String) : Prop where
  fits : ∀ before n after, ns = before ++ n :: after → n.Fits (Notice.replay before)
  replay_eq : Notice.replay ns = attributes

namespace Told

variable {ns : List Notice} {attributes : KeyedList String} {n : Notice}

theorem nil : Told [] .empty where
  fits _ _ _ h := absurd h.symm (List.append_ne_nil_of_right_ne_nil _ (List.cons_ne_nil _ _))
  replay_eq := rfl

/-- One more notice that fits the attributes as they are. -/
theorem concat (h : Told ns attributes) (hn : n.Fits attributes) :
    Told (ns ++ [n]) (n.apply attributes) where
  fits before m after heq := by
    rcases List.eq_nil_or_concat after with rfl | ⟨after', last, rfl⟩
    · obtain ⟨rfl, hm⟩ := List.append_inj' heq rfl
      cases hm
      exact h.replay_eq ▸ hn
    · rw [List.concat_eq_append, ← List.cons_append, ← List.append_assoc] at heq
      exact h.fits before m after' (List.append_inj' heq rfl).1
  replay_eq := by
    rw [Notice.replay, List.foldl_append, ← Notice.replay, h.replay_eq]
    rfl

end Told

namespace Instance

def Informed (w : World Instance) : Prop := Told w.journal.notices w.self.attributes

/-- An elementary change of an instance with an attribute hook is told as it is. -/
theorem Change.informed {w w' : World Instance} (hchange : Change w w')
    (hook : (w.self.type.hooks .attribute).function.isSome = true) (h : Informed w) :
    Informed w' := by
  obtain ⟨f, hf⟩ := Option.isSome_iff_exists.1 hook
  have htold : ∀ {i : Instance} (name : String) (old new : Value), i.type = w.self.type →
      (⟨name, old, new⟩ : Notice).Fits w.self.attributes →
      (⟨name, old, new⟩ : Notice).apply w.self.attributes = i.attributes →
      Informed (noticed name old new ⟨i, w.journal⟩) := by
    intro i name old new htype hfits heq
    have hfunction : (i.type.hooks .attribute).function = some f := by rw [htype, hf]
    have hconcat := h.concat hfits
    rw [noticed, hfunction]
    rw [heq] at hconcat
    rw [Informed, World.after, Journal.notices_cons]
    exact hconcat
  cases hchange with
  | event he =>
      rwa [Informed, World.after, Journal.notices_cons, he, Option.toList_none, List.append_nil]
  | field hname v => exact h
  | hidden hidden => exact h
  | setAttribute name value =>
      exact htold _ _ _ rfl ⟨rfl, ⟨some value, rfl⟩, fun hnull => Value.noConfusion hnull.2⟩ rfl
  | removeAttribute hold =>
      refine htold _ _ _ rfl ⟨?_, ⟨none, rfl⟩, fun hnull => Value.noConfusion hnull.1⟩ rfl
      rw [hold]
      rfl

theorem Changes.informed {w w' : World Instance} (hchanges : Changes w w')
    (hook : (w.self.type.hooks .attribute).function.isSome = true) (h : Informed w) :
    Informed w' := by
  induction hchanges with
  | refl => exact h
  | tail hbefore hchange ih =>
      refine hchange.informed ?_ ih
      rwa [(Changes.untouched hbefore).type_eq]

namespace Action

theorem type_begin (action : Action) (i : Instance) : (action.begin i).type = i.type := by
  cases action with
  | operation op => cases op <;> rfl
  | apply | set | hide | append => rfl

theorem attributes_begin (action : Action) (i : Instance) :
    (action.begin i).attributes = i.attributes := by
  cases action with
  | operation op => cases op <;> rfl
  | apply | set | hide | append => rfl

theorem type_run (action : Action) (w : World Instance) :
    (action.run w).self.type = w.self.type :=
  (action.changes_run w).untouched.type_eq.trans (action.type_begin w.self)

theorem informed_run {action : Action} {w : World Instance}
    (hook : (w.self.type.hooks .attribute).function.isSome = true) (h : Informed w) :
    Informed (action.run w) := by
  refine Changes.informed (action.changes_run w) ?_ ?_
  · rwa [action.type_begin]
  · rwa [Informed, action.attributes_begin]

theorem informed_runAll {actions : List Action} {w : World Instance}
    (hook : (w.self.type.hooks .attribute).function.isSome = true) (h : Informed w) :
    Informed (runAll actions w) := by
  induction actions generalizing w with
  | nil => exact h
  | cons action actions ih =>
      refine ih ?_ (informed_run hook h)
      rwa [type_run]

end Action

/-- The attribute hook of an instance is told of all attribute changes and of nothing else. Each
notice is a call of the hook with what it tells, and after any actions on a new instance the notices
fit, one after the other, and lead to the attributes as they are. -/
theorem runAll_told {t : ElementType} {hook : Function}
    (hhook : (t.hooks .attribute).function = some hook) :
    (∀ n name old new w, w.self.type = t →
      notify (activate n) name old new w =
        (discard (activate n hook [.string name, old, new]) : Run Instance Unit)
          (w.after (.notified name old new))) ∧
      ∀ actions, Told (Action.runAll actions ⟨ofType t, []⟩).journal.notices
        (Action.runAll actions ⟨ofType t, []⟩).self.attributes := by
  refine ⟨fun n name old new w htype => ?_, fun actions => ?_⟩
  · have hself : (Run.self : Run Instance Instance) (w.after (.notified name old new)) =
        (.ok w.self, w.after (.notified name old new)) := rfl
    rw [notify_apply, noticed, htype, hhook]
    dsimp only
    rw [runHook, Activity.bind_apply, hself]
    dsimp only
    rw [htype, hhook]
  · refine Action.informed_runAll ?_ .nil
    have hnew : ((ofType t).type.hooks .attribute).function = some hook := hhook
    rw [hnew]
    rfl

/-- An attribute hook with the body `this.setAttribute('echo', newValue)`. -/
def echoing : Function :=
  ⟨Lifecycle.attribute.parameters,
    [.expr (.call (.member .this "setAttribute") [.string "echo", .name "newValue"])]⟩

def echo : ElementType where
  tag := "x-echo"
  className := "XEcho"
  template := ⟨"x-echo", [], []⟩
  members := .empty
  hooks
    | .attribute => ⟨"this.setAttribute('echo', newValue)", some echoing⟩
    | _ => Hook.none

/-- The hook calls itself until it is refused, at each of the two changes from outside. -/
theorem runAll_told_echo :
    ∃ w, Action.runAll [.operation (.setAttribute "color" "red"),
        .operation (.removeAttribute "color")] ⟨ofType echo, []⟩ = w ∧
      (echo.hooks .attribute).function = some echoing ∧
      w.journal.notices.length = 2 * (callLimit + 1) ∧
      w.self.attributes.entries = [("echo", "null")] ∧
      Told w.journal.notices w.self.attributes := by
  -- The journal and the attributes are looked at in one evaluation of the run.
  refine ⟨_, rfl, rfl, and_assoc.1 ⟨by decide +kernel, ?_⟩⟩
  exact (runAll_told (t := echo) rfl).2 _

end Instance

end Componentry
