import Componentry.Proofs.Element.Activation
import Componentry.Proofs.Script.Course
import Mathlib.Logic.ExistsUnique
import Mathlib.Tactic.SplitIfs

/-!
# How deep calls nest

The methods and hooks of an instance call each other through the instance. A counter keeps such
calls from going on forever: a function is entered only while fewer than `callLimit` functions are
entered and not left. The counter is what the journal says, `Journal.depth`, and `guarded` is one
activation by the counter. Only one activity satisfies that recursion, and it is what instances do
(`existsUnique_guarded`): the room that the counter leaves is the number that `activate` recurses
on.

`Nested` is what an activation adds to the journal. The counter comes back to where it was, whether
the activation succeeds or fails, never goes past the limit on the way, and no failure on the way is
caught.
-/

namespace Componentry

open Script

namespace Script

def Journal.depth : Journal → Nat
  | [] => 0
  | .entered :: j => Journal.depth j + 1
  | .left _ :: j => Journal.depth j - 1
  | _ :: j => Journal.depth j

def Event.failure? : Event → Option ScriptError
  | .left failure => failure
  | .refused => some .callTooDeep
  | _ => none

theorem depth_quiet {e : Event} (h : e.isQuiet = true) (j : Journal) :
    Journal.depth (e :: j) = Journal.depth j := by
  cases e <;> first | rfl | exact nomatch h

/-- What activations add to a journal where the calls so far nest no deeper than allowed, if the
last of them ends with the failure. -/
structure Nested (start : Journal) (failure : Option ScriptError) (now : Journal) : Prop where
  depth_eq : now.depth = start.depth
  /-- At no time do the calls nest deeper than allowed. -/
  depth_le : ∀ j : Journal, start <:+ j → j <:+ now → j.depth ≤ callLimit
  /-- A failure of one of the activations is that of the last. -/
  failed : ∃ events, now = events ++ start ∧
    ∀ event ∈ events, ∀ e, event.failure? = some e → failure = some e

namespace Nested

variable {start now : Journal} {failure : Option ScriptError}

theorem refl (h : start.depth ≤ callLimit) : Nested start none start where
  depth_eq := rfl
  depth_le j hstart hj := by
    have heq : j = start := hj.eq_of_length_le hstart.length_le
    rwa [heq]
  failed := ⟨[], rfl, nofun⟩

theorem suffix (h : Nested start failure now) : start <:+ now := by
  obtain ⟨events, heq, -⟩ := h.failed
  exact ⟨events, heq.symm⟩

theorem start_le (h : Nested start failure now) : start.depth ≤ callLimit :=
  h.depth_le start (List.suffix_refl _) h.suffix

/-- A failure may come where there was none. -/
theorem fail (h : Nested start none now) (e : ScriptError) : Nested start (some e) now where
  depth_eq := h.depth_eq
  depth_le := h.depth_le
  failed := by
    obtain ⟨events, heq, hfailed⟩ := h.failed
    exact ⟨events, heq, fun event hevent e' he' => nomatch hfailed event hevent e' he'⟩

/-- One more event that leaves the counter as it is. -/
theorem cons (h : Nested start none now) (event : Event)
    (hdepth : Journal.depth (event :: now) = now.depth) :
    Nested start event.failure? (event :: now) where
  depth_eq := hdepth.trans h.depth_eq
  depth_le j hstart hj := by
    rcases List.suffix_cons_iff.1 hj with rfl | hj
    · rw [hdepth, h.depth_eq]
      exact h.start_le
    · exact h.depth_le j hstart hj
  failed := by
    obtain ⟨events, heq, hfailed⟩ := h.failed
    refine ⟨event :: events, by rw [heq, List.cons_append], fun event' hevent' e he => ?_⟩
    rcases List.mem_cons.1 hevent' with rfl | hevent'
    · exact he
    · exact nomatch hfailed event' hevent' e he

/-- An activation adds what its body adds between its own two events. -/
theorem activation {mid : Journal} (h : Nested start none mid)
    (hbody : Nested (.entered :: mid) failure now) :
    Nested start failure (.left failure :: now) where
  depth_eq := by
    have hdepth : now.depth = mid.depth + 1 := hbody.depth_eq
    rw [Journal.depth, hdepth, Nat.add_sub_cancel, h.depth_eq]
  depth_le j hstart hj := by
    have hleft : Journal.depth (.left failure :: now) ≤ callLimit := by
      have hdepth : now.depth = mid.depth + 1 := hbody.depth_eq
      rw [Journal.depth, hdepth, Nat.add_sub_cancel, h.depth_eq]
      exact h.start_le
    rcases List.suffix_cons_iff.1 hj with rfl | hj
    · exact hleft
    · -- Either the body had begun, or the time was before that.
      rcases List.suffix_or_suffix_of_suffix hbody.suffix hj with hbegun | hbefore
      · exact hbody.depth_le j hbegun hj
      · rcases List.suffix_cons_iff.1 hbefore with rfl | hbefore
        · exact hbody.start_le
        · exact h.depth_le j hstart hbefore
  failed := by
    obtain ⟨before, hmid, hbefore⟩ := h.failed
    obtain ⟨inner, hnow, hinner⟩ := hbody.failed
    refine ⟨.left failure :: (inner ++ .entered :: before), ?_, fun event hevent e he => ?_⟩
    · rw [hnow, hmid, List.cons_append, List.append_assoc, List.cons_append]
    · simp only [List.mem_cons, List.mem_append] at hevent
      rcases hevent with rfl | hevent | rfl | hevent
      · exact he
      · exact hinner event hevent e he
      · exact nomatch he
      · exact nomatch hbefore event hevent e he

end Nested

def nesting (start : Journal) : Course where
  goes := Nested start none
  fails e := Nested start (some e)
  fails_of_goes e h := h.fail e
  goes_quiet hquiet h := by
    have hfailure : ∀ {e : Event}, e.isQuiet = true → e.failure? = none := by
      intro e he
      cases e <;> first | rfl | exact nomatch he
    have hcons := h.cons _ (depth_quiet hquiet _)
    rwa [hfailure hquiet] at hcons

theorem ends_nesting_iff {α : Type} {start now : Journal} {r : Except ScriptError α} :
    (nesting start).Ends r now ↔ Nested start (failure? r) now := by
  cases r <;> exact Iff.rfl

end Script

namespace Instance

section

variable {c : Course} {act act' : Activation}

theorem same_change (f : Instance → Instance) :
    Same c World.journal (Run.change f) (Run.change f) := .of_look_eq fun _ => rfl

theorem same_self : Same c World.journal (Run.self : Run Instance Instance) Run.self :=
  .of_look_eq fun _ => rfl

theorem same_record {e : Event} (h : e.isQuiet = true) :
    Same c World.journal (Run.record e : Run Instance Unit) (Run.record e) :=
  fun _ hw => ⟨rfl, c.goes_quiet h hw⟩

section hooks

variable (h : ∀ f args, Same c World.journal (act f args) (act' f args))
include h

theorem same_runHook (lifecycle : Lifecycle) (args : List Value) :
    Same c World.journal (runHook act lifecycle args) (runHook act' lifecycle args) := by
  unfold runHook
  refine same_self.bind fun i => ?_
  split
  · exact (h _ _).bind fun _ => .pure _
  · exact .pure _

theorem same_notify (name : String) (old new : Value) :
    Same c World.journal (notify act name old new) (notify act' name old new) := by
  unfold notify
  refine same_self.bind fun i => ?_
  split
  · exact (same_record rfl).bind fun _ => same_runHook h _ _
  · exact (Same.pure _).bind fun _ => same_runHook h _ _

theorem same_setAttribute (name value : String) :
    Same c World.journal (setAttribute act name value) (setAttribute act' name value) := by
  unfold setAttribute
  exact same_self.bind fun _ => (same_change _).bind fun _ => same_notify h _ _ _

theorem same_removeAttribute (name : String) :
    Same c World.journal (removeAttribute act name) (removeAttribute act' name) := by
  unfold removeAttribute
  refine same_self.bind fun i => ?_
  split
  · exact (same_change _).bind fun _ => same_notify h _ _ _
  · exact .pure _

theorem same_callMember (name : String) (args : List Value) :
    Same c World.journal (callMember act name args) (callMember act' name args) := by
  unfold callMember
  refine same_self.bind fun i => ?_
  dsimp only
  split
  · exact .throw _
  · split
    · exact h _ _
    · split_ifs
      · exact .pure _
      · exact .pure _
      · exact (same_setAttribute h _ _).bind fun _ => .pure _
      · exact (same_removeAttribute h _).bind fun _ => .pure _
      · exact .throw _

omit h in
theorem same_set (name : String) (v : Value) :
    Same c World.journal (set name v) (set name v) := by
  unfold set
  split_ifs
  · exact same_change _
  · exact .throw _
  · exact same_change _

/-- Instances are alike as receivers where their activations are. -/
theorem receiver_alike : (receiver act).Alike c (receiver act') where
  get_eq := rfl
  set := same_set
  call := same_callMember h

end hooks

end

/-- An activation goes from the journal back to the same depth if the activations in it do so from
one level further in. -/
theorem same_enter {act act' : Activation} {start : Journal}
    (hroom : Journal.depth start < callLimit)
    (h : ∀ mid, Journal.depth mid = Journal.depth start + 1 → ∀ f args,
      Same (nesting mid) World.journal (act f args) (act' f args))
    (f : Function) (args : List Value) :
    Same (nesting start) World.journal (enter act f args) (enter act' f args) := by
  intro w hw
  have hdepth : Journal.depth (.entered :: w.journal) = Journal.depth start + 1 :=
    congrArg (· + 1) hw.depth_eq
  have hbegins : Nested (.entered :: w.journal) none (w.after .entered).journal :=
    .refl (by omega)
  have hbody := Function.same_run (receiver_alike (h _ hdepth)) f args
  obtain ⟨heq, hends⟩ := hbody (w.after .entered) hbegins
  simp only [enter, ← heq]
  exact ⟨trivial, ends_nesting_iff.2 (Nested.activation hw (ends_nesting_iff.1 hends))⟩

/-- Where so many calls may still nest as the counter leaves room for, an activation adds to the
journal what activations may add. -/
theorem same_activate {n : Nat} {start : Journal} (hn : Journal.depth start + n = callLimit)
    (f : Function) (args : List Value) :
    Same (nesting start) World.journal (activate n f args) (activate n f args) := by
  induction n generalizing start f args with
  | zero =>
      intro w hw
      have hrefused : Nested start (some .callTooDeep) (.refused :: w.journal) :=
        hw.cons .refused rfl
      exact ⟨rfl, hrefused⟩
  | succ n ih =>
      rw [activate_succ]
      exact same_enter (by omega) (fun mid hmid => ih (by omega)) f args

def guarded (again : Activation) : Activation := fun f args w =>
  if w.journal.depth < callLimit then enter again f args w else refuse f args w

/-- What instances do, with the room that the counter leaves. -/
def counted : Activation := fun f args w => activate (callLimit - w.journal.depth) f args w

theorem counted_eq {n : Nat} {w : World Instance} (hn : w.journal.depth + n = callLimit)
    (f : Function) (args : List Value) : counted f args w = activate n f args w := by
  rw [counted, ← hn, Nat.add_sub_cancel_left]

theorem same_counted {n : Nat} {start : Journal} (hn : Journal.depth start + n = callLimit)
    (f : Function) (args : List Value) :
    Same (nesting start) World.journal (activate n f args) (counted f args) := by
  refine Same.congr_right (same_activate hn f args) fun w hw => counted_eq ?_ f args
  have hdepth : w.journal.depth = Journal.depth start := hw.depth_eq
  rw [hdepth, hn]

theorem guarded_counted : guarded counted = counted := by
  funext f args w
  by_cases hroom : w.journal.depth < callLimit
  · obtain ⟨n, hn⟩ : ∃ n, w.journal.depth + (n + 1) = callLimit :=
      ⟨callLimit - w.journal.depth - 1, by omega⟩
    have henter := same_enter hroom
      (fun mid hmid => @same_counted n mid (by omega)) f args w (.refl (by omega))
    rw [guarded, if_pos hroom, counted_eq hn, activate_succ, henter.1]
  · have hnone : callLimit - w.journal.depth = 0 := by omega
    rw [guarded, if_neg hroom, counted, hnone, activate_zero]

section counter

variable {again : Activation} (hagain : guarded again = again)
include hagain

theorem eq_enter {w : World Instance} (hroom : w.journal.depth < callLimit) (f : Function)
    (args : List Value) : again f args w = enter again f args w := by
  have hstep : guarded again f args w = again f args w := by rw [hagain]
  rw [← hstep, guarded, if_pos hroom]

theorem eq_refuse {w : World Instance} (hfull : ¬ w.journal.depth < callLimit) (f : Function)
    (args : List Value) : again f args w = refuse f args w := by
  have hstep : guarded again f args w = again f args w := by rw [hagain]
  rw [← hstep, guarded, if_neg hfull]

/-- An activation by the counter does what instances do. The induction is on the calls that may
still nest: by the time a body calls another function, one fewer may. -/
theorem same_of_guarded {n : Nat} {start : Journal} (hn : Journal.depth start + n = callLimit)
    (f : Function) (args : List Value) :
    Same (nesting start) World.journal (activate n f args) (again f args) := by
  induction n generalizing start f args with
  | zero =>
      refine Same.congr_right (same_activate hn f args) fun w hw => ?_
      have hdepth : w.journal.depth = Journal.depth start := hw.depth_eq
      rw [eq_refuse hagain (by omega), activate_zero]
  | succ n ih =>
      refine Same.congr_right (same_activate hn f args) fun w hw => ?_
      have hdepth : w.journal.depth = Journal.depth start := hw.depth_eq
      have hroom : Journal.depth start < callLimit := by omega
      have henter := same_enter hroom (fun mid hmid => @ih mid (by omega)) f args w hw
      rw [eq_enter hagain (by omega), activate_succ, henter.1]

theorem eq_counted : again = counted := by
  funext f args w
  by_cases hle : w.journal.depth ≤ callLimit
  · obtain ⟨n, hn⟩ := Nat.exists_eq_add_of_le hle
    rw [counted_eq hn.symm, (same_of_guarded hagain hn.symm f args w (.refl hle)).1]
  · have hnone : callLimit - w.journal.depth = 0 := by omega
    rw [eq_refuse hagain (by omega), counted, hnone, activate_zero]

end counter

/-- Activation by the counter comes to an end: its recursion determines what it does. -/
theorem existsUnique_guarded : ∃! again, guarded again = again :=
  ⟨counted, guarded_counted, fun _ hagain => eq_counted hagain⟩

inductive Operation where
  | call (name : String) (args : List Value)
  | connect
  | disconnect
  | adopt
  | setAttribute (name value : String)
  | removeAttribute (name : String)

namespace Operation

abbrev Result : Operation → Type
  | .call .. => Value
  | _ => Unit

def run : (op : Operation) → Run Instance op.Result
  | .call name args => Instance.call name args
  | .connect => Instance.connect
  | .disconnect => Instance.disconnect
  | .adopt => Instance.adopt
  | .setAttribute name value => Instance.writeAttribute name value
  | .removeAttribute name => Instance.deleteAttribute name

def runWith (act : Activation) : (op : Operation) → Run Instance op.Result
  | .call name args => Instance.callMember act name args
  | .connect => do
    Run.change fun i => { i with connected := true, hidden := false }
    Instance.runHook act .connected []
  | .disconnect => do
    Run.change fun i => { i with connected := false }
    Instance.runHook act .disconnected []
  | .adopt => Instance.runHook act .adopted []
  | .setAttribute name value => Instance.setAttribute act name value
  | .removeAttribute name => Instance.removeAttribute act name

theorem run_eq (op : Operation) : op.run = op.runWith (activate callLimit) := by cases op <;> rfl

theorem same_runWith {c : Course} {act act' : Activation}
    (h : ∀ f args, Same c World.journal (act f args) (act' f args)) (op : Operation) :
    Same c World.journal (op.runWith act) (op.runWith act') := by
  cases op with
  | call name args => exact same_callMember h name args
  | connect => exact (same_change _).bind fun _ => same_runHook h _ _
  | disconnect => exact (same_change _).bind fun _ => same_runHook h _ _
  | adopt => exact same_runHook h _ _
  | setAttribute name value => exact same_setAttribute h name value
  | removeAttribute name => exact same_removeAttribute h name

/-- Where no function is entered, an operation ends as activation by the counter determines, and
again no function is entered. At no time are more entered than allowed, and if any activation on the
way fails, the operation fails with that error. -/
theorem run_nested (op : Operation) (i : Instance) {j : Journal} (hj : Journal.depth j = 0) :
    (∃! again, guarded again = again) ∧
      (∀ again, guarded again = again → op.runWith again ⟨i, j⟩ = op.run ⟨i, j⟩) ∧
      Journal.depth (op.run ⟨i, j⟩).2.journal = 0 ∧
      (∀ time : Journal, j <:+ time → time <:+ (op.run ⟨i, j⟩).2.journal →
        Journal.depth time ≤ callLimit) ∧
      ∃ events, (op.run ⟨i, j⟩).2.journal = events ++ j ∧
        ∀ event ∈ events, ∀ e, event.failure? = some e → (op.run ⟨i, j⟩).1 = .error e := by
  have hn : Journal.depth j + callLimit = callLimit := by rw [hj, Nat.zero_add]
  have hbegins : Nested j none (World.mk i j).journal := .refl (by rw [hj]; exact Nat.zero_le _)
  have hends := (same_runWith (same_activate hn) op ⟨i, j⟩ hbegins).2
  rw [← run_eq, ends_nesting_iff] at hends
  refine ⟨existsUnique_guarded, fun again hagain => ?_, hends.depth_eq.trans hj, hends.depth_le, ?_⟩
  · rw [run_eq, (same_runWith (same_of_guarded hagain hn) op ⟨i, j⟩ hbegins).1]
  · obtain ⟨events, heq, hfailed⟩ := hends.failed
    exact ⟨events, heq, fun event hevent e he =>
      failure?_eq_some_iff.1 (hfailed event hevent e he)⟩

/-- A method `again` with the body `return this.again()`. -/
def endless : ElementType where
  tag := "x-loop"
  className := "XLoop"
  template := ⟨"x-loop", [], []⟩
  members := KeyedList.empty.insert "again"
    (.method ⟨[], [.return (some (.call (.member .this "again") []))]⟩)
  hooks _ := Hook.none

/-- The calls of `again` nest as deep as allowed; all of them fail as the one that is refused. -/
theorem run_nested_endless :
    ∃ out, run (.call "again" []) ⟨ofType endless, []⟩ = out ∧
      Journal.depth [] = 0 ∧ Journal.depth out.2.journal = 0 ∧
      out.2.journal.length = callLimit + 1 + callLimit ∧
      Journal.depth (out.2.journal.drop callLimit) = callLimit ∧ out.1 = .error .callTooDeep := by
  obtain ⟨-, -, hdepth, -, events, heq, hfailed⟩ :=
    @run_nested (.call "again" []) (ofType endless) [] rfl
  have hrefused : (run (.call "again" []) ⟨ofType endless, []⟩).2.journal.any
      (fun | .refused => true | _ => false) = true := by
    decide +kernel
  rw [heq, List.append_nil] at hrefused
  obtain ⟨event, hevent, hkind⟩ := List.any_eq_true.1 hrefused
  have hcause : event.failure? = some .callTooDeep := by
    cases event with
    | refused => rfl
    | _ => exact nomatch hkind
  exact ⟨_, rfl, rfl, hdepth, by decide +kernel, by decide +kernel,
    hfailed event hevent _ hcause⟩

end Operation

end Instance

end Componentry
