import Componentry.Proofs.Loading.Coherence

/-!
# Sessions with a loader

A session is a loader with all that it was asked to do. Calls come in any order, and each that waits
brings its own answers, so fetches complete in any order and with any result. A call that waits for
ever is given up, and the summary that it would have returned is lost; a session in which that
happened since the last reset is `interrupted`.

`Consistent` holds between any two calls. What depends on no summary holds of interrupted sessions
too. Answers are read with `Markup.forest`: one that is never read to its end is taken for an empty
text, and the call for one that returns.
-/

namespace Componentry

open Markup Loader

variable {A : Type}

inductive Call (A : Type) where
  | discover (components : List Element)
  | handleMutation (m : Mutation)
  | scan (schedule : Schedule A) (nodes : List Node)
  | loadBatch (schedule : Schedule A) (components : List Element)
  | completeNext (answers : Answers A)
  | completeReady (schedule : Schedule A)
  | finishPending (schedule : Schedule A)
  | reset

/-- A loader with what came of the calls since it was last reset. -/
structure Session (A : Type) where
  loader : Loader A
  found : List Finding
  /-- The summaries that were returned, one after the other. -/
  returned : Summary
  /-- The number of failures that were reported before. -/
  earlier : Nat
  /-- Whether a call was given up. -/
  interrupted : Bool

namespace Loader

variable [Addressing A]

theorem handleMutation_steps (m : Mutation) (l : Loader A) :
    Steps l (if m.isFor l.config then findings (definitionsIn l.config m.added) l else [])
      ((handleMutation m l).1.getD .empty) (handleMutation m l).2 := by
  have heq : handleMutation m l =
      (if m.isFor l.config then
        (do return some (← discover (definitionsIn l.config m.added)))
      else pure none : Loading A (Option Summary)) l := rfl
  rw [heq]
  by_cases hfor : m.isFor l.config = true
  · rw [if_pos hfor, if_pos hfor]
    exact discover_steps (definitionsIn l.config m.added) l
  · rw [if_neg hfor, if_neg hfor]
    exact Steps.none l

theorem completeReady_steps (schedule : Schedule A) (l : Loader A) :
    Steps l [] (completeReady schedule l).1 (completeReady schedule l).2 :=
  completeAll_steps (l.pending.length + 1) schedule l

theorem finishPending_steps (schedule : Schedule A) (l : Loader A) :
    ∃ made, Steps l [] made (finishPending schedule l).2 ∧
      ∀ summary, (finishPending schedule l).1 = some summary → summary = made := by
  unfold finishPending
  simp only [bind_apply, get_apply, pure_apply]
  refine ⟨_, completeAll_steps _ schedule l, ?_⟩
  intro summary hsummary
  split at hsummary
  · exact nomatch hsummary
  · exact (Option.some_inj.1 hsummary).symm

theorem loadBatch_steps (schedule : Schedule A) (components : List Element) (l : Loader A) :
    ∃ made, Steps l (findings components l) made (loadBatch schedule components l).2 ∧
      ∀ summary, (loadBatch schedule components l).1 = some summary → summary = made := by
  obtain ⟨made, hsteps, hmade⟩ := finishPending_steps schedule (discover components l).2
  have hall := (discover_steps components l).trans hsteps
  rw [List.append_nil] at hall
  refine ⟨_, hall, ?_⟩
  intro summary hsummary
  obtain ⟨rest, hrest, rfl⟩ := Option.map_eq_some_iff.1 hsummary
  rw [hmade rest hrest]

end Loader

namespace Session

def start (config : Config A) (engine : Script.Engine) : Session A :=
  ⟨(Loader.start config).withEngine engine, [], .empty, 0, false⟩

/-- The session after a call that found components and returned a summary, or was given up. -/
def after (s : Session A) (found : List Finding) : Option Summary → Loader A → Session A
  | some summary, loader =>
    { s with loader, found := s.found ++ found, returned := s.returned ++ summary }
  | none, loader => { s with loader, found := s.found ++ found, interrupted := true }

theorem loader_after (s : Session A) (found : List Finding) (returned : Option Summary)
    (loader : Loader A) : (s.after found returned loader).loader = loader := by
  cases returned <;> rfl

structure Continues (s s' : Session A) (found : List Finding) (made : Summary) : Prop where
  steps : Steps s.loader found made s'.loader
  found_eq : s'.found = s.found ++ found
  earlier_eq : s'.earlier = s.earlier
  returned_eq : s'.interrupted = false →
    s.interrupted = false ∧ s'.returned = s.returned ++ made

theorem after_continues {s : Session A} {found : List Finding} {made : Summary}
    {returned : Option Summary} {loader : Loader A} (hsteps : Steps s.loader found made loader)
    (hreturned : ∀ summary, returned = some summary → summary = made) :
    Continues s (s.after found returned loader) found made := by
  cases returned with
  | none => exact ⟨hsteps, rfl, rfl, fun h => nomatch h⟩
  | some summary =>
      refine ⟨hsteps, rfl, rfl, fun h => ⟨h, ?_⟩⟩
      rw [← hreturned summary rfl]
      rfl

/-- The loader of the session is coherent with what was found and, unless a call was given up, with
what was returned. -/
def Accounted (s : Session A) : Prop :=
  ∃ made, Coherent s.loader ⟨s.found, made, s.earlier⟩ ∧
    (s.interrupted = false → s.returned = made)

theorem start_accounted (config : Config A) (engine : Script.Engine) :
    (start config engine).Accounted :=
  ⟨.empty, coherent_of_empty rfl rfl rfl, fun _ => rfl⟩

theorem Continues.accounted {s s' : Session A} {found : List Finding} {made : Summary}
    (hcont : Continues s s' found made) (hs : s.Accounted) : s'.Accounted := by
  obtain ⟨before, hcoherent, hreturned⟩ := hs
  refine ⟨before ++ made, ?_, ?_⟩
  · rw [hcont.found_eq, hcont.earlier_eq]
    exact hcoherent.steps hcont.steps
  · intro h
    obtain ⟨hs, heq⟩ := hcont.returned_eq h
    rw [heq, hreturned hs]

/-- What holds between the calls of a session. The last three count what was found, reported and
registered since the last reset against the summaries, so they need that no call was given up. -/
structure Consistent (s : Session A) : Prop where
  state_cases : ∀ key state, s.loader.state? key = some state →
    state = .loading ∨ state = .registered ∨ state = .failed
  loading_iff : ∀ key,
    s.loader.state? key = some .loading ↔ key ∈ s.loader.pending.map Fetch.key
  nodup_pending : (s.loader.pending.map Fetch.key).Nodup
  failure_isSome : ∀ key, s.loader.state? key = some .failed →
    (s.loader.registry.failure? key).isSome
  countOf_registered : s.loader.states.countOf .registered = s.loader.registry.names.length
  imported_eq : s.loader.registry.imported.keys = s.loader.registry.names
  length_found : s.interrupted = false → s.found.length =
    s.returned.registered.length + s.returned.failed.length + s.loader.pending.length
  reports_eq : s.interrupted = false →
    (s.loader.reports.map Prod.fst).drop s.earlier = s.returned.failed
  names_eq : s.interrupted = false → s.loader.registry.names = s.returned.registered

theorem Accounted.consistent {s : Session A} (hs : s.Accounted) : s.Consistent := by
  obtain ⟨made, hc, hreturned⟩ := hs
  refine ⟨hc.state_cases, hc.loading_iff, hc.nodup_pending, hc.failure_isSome,
    hc.countOf_registered, hc.imported_eq, ?_, ?_, ?_⟩
  · intro h
    rw [hreturned h]
    exact hc.length_found
  · intro h
    rw [hreturned h]
    exact hc.reports_eq
  · intro h
    rw [hreturned h]
    exact hc.names_eq

variable [Addressing A]

def call (s : Session A) : Call A → Session A
  | .discover components =>
    s.after (findings components s.loader) (some (discover components s.loader).1)
      (discover components s.loader).2
  | .handleMutation m =>
    s.after
      (if m.isFor s.loader.config then
        findings (definitionsIn s.loader.config m.added) s.loader else [])
      (some ((handleMutation m s.loader).1.getD .empty)) (handleMutation m s.loader).2
  | .scan schedule nodes =>
    s.after (findings (components s.loader.config nodes) s.loader)
      (scan schedule nodes s.loader).1 (scan schedule nodes s.loader).2
  | .loadBatch schedule components =>
    s.after (findings components s.loader) (loadBatch schedule components s.loader).1
      (loadBatch schedule components s.loader).2
  | .completeNext answers =>
    s.after [] (some (completeNext answers s.loader).1.summary) (completeNext answers s.loader).2
  | .completeReady schedule =>
    s.after [] (some (completeReady schedule s.loader).1) (completeReady schedule s.loader).2
  | .finishPending schedule =>
    s.after [] (finishPending schedule s.loader).1 (finishPending schedule s.loader).2
  | .reset => ⟨s.loader.reset, [], .empty, s.loader.reports.length, false⟩

def run (s : Session A) (calls : List (Call A)) : Session A := calls.foldl call s

/-- A call that is no reset is made in steps. -/
theorem call_continues (s : Session A) {c : Call A} (hc : c ≠ .reset) :
    ∃ found made, Continues s (s.call c) found made := by
  have hsome : ∀ made summary : Summary, some made = some summary → summary = made :=
    fun _ _ h => (Option.some_inj.1 h).symm
  cases c with
  | discover components =>
      exact ⟨_, _, after_continues (discover_steps components s.loader) (hsome _)⟩
  | handleMutation m =>
      exact ⟨_, _, after_continues (handleMutation_steps m s.loader) (hsome _)⟩
  | scan schedule nodes =>
      obtain ⟨made, hsteps, hmade⟩ :=
        loadBatch_steps schedule (components s.loader.config nodes) s.loader
      exact ⟨_, _, after_continues hsteps hmade⟩
  | loadBatch schedule components =>
      obtain ⟨made, hsteps, hmade⟩ := loadBatch_steps schedule components s.loader
      exact ⟨_, _, after_continues hsteps hmade⟩
  | completeNext answers =>
      exact ⟨_, _, after_continues (completeNext_steps answers s.loader) (hsome _)⟩
  | completeReady schedule =>
      exact ⟨_, _, after_continues (completeReady_steps schedule s.loader) (hsome _)⟩
  | finishPending schedule =>
      obtain ⟨made, hsteps, hmade⟩ := finishPending_steps schedule s.loader
      exact ⟨_, _, after_continues hsteps hmade⟩
  | reset => exact absurd rfl hc

theorem engine_call (s : Session A) (c : Call A) : (s.call c).loader.engine = s.loader.engine := by
  by_cases hc : c = .reset
  · subst hc
    rfl
  · obtain ⟨found, made, hcont⟩ := s.call_continues hc
    exact hcont.steps.engine_eq

theorem config_call (s : Session A) (c : Call A) : (s.call c).loader.config = s.loader.config := by
  by_cases hc : c = .reset
  · subst hc
    rfl
  · obtain ⟨found, made, hcont⟩ := s.call_continues hc
    exact hcont.steps.config_eq

/-- A session keeps its configuration. -/
theorem config_run (s : Session A) (calls : List (Call A)) :
    (s.run calls).loader.config = s.loader.config := by
  induction calls generalizing s with
  | nil => rfl
  | cons c cs ih => exact (ih (s.call c)).trans (s.config_call c)

/-- A session keeps its engine. -/
theorem engine_run (s : Session A) (calls : List (Call A)) :
    (s.run calls).loader.engine = s.loader.engine := by
  induction calls generalizing s with
  | nil => rfl
  | cons c cs ih => exact (ih (s.call c)).trans (s.engine_call c)

theorem call_accounted {s : Session A} (hs : s.Accounted) (c : Call A) : (s.call c).Accounted := by
  by_cases hc : c = .reset
  · subst hc
    exact ⟨.empty, coherent_of_empty rfl rfl rfl, fun _ => rfl⟩
  · obtain ⟨found, made, hcont⟩ := s.call_continues hc
    exact hcont.accounted hs

theorem run_accounted {s : Session A} (hs : s.Accounted) (calls : List (Call A)) :
    (s.run calls).Accounted := by
  induction calls generalizing s with
  | nil => exact hs
  | cons c cs ih => exact ih (call_accounted hs c)

/-- Whatever a loader is asked to do, and whatever fetches are answered with, its records agree
after each call. -/
theorem run_consistent (config : Config A) (engine : Script.Engine) (calls : List (Call A)) :
    ((start config engine).run calls).Consistent :=
  (run_accounted (start_accounted config engine) calls).consistent

end Session

end Componentry
