import Componentry.Proofs.Loading.Session

/-!
# Acts of a loader

A call finds some components and then looks at the queue some times; it does nothing else.
`Call.acts` lists these acts, and `loader_call` says that doing them is all that the call does. An
act concludes at most one component: `perform_cases` says what it is concluded with, and what else
an act may touch.
-/

namespace Componentry

open Markup Loader

variable {A : Type}

inductive Act (A : Type) where
  | find (component : Element)
  /-- It looks at the queue, while fetches have the answers given. -/
  | look (answers : Answers A)

def Act.component? : Act A → Option Element
  | .find component => some component
  | .look _ => none

variable [Addressing A]

namespace Loader

def perform (l : Loader A) : Act A → Loader A
  | .find component => (discoverOne component l).2
  | .look answers => (completeNext answers l).2

def performAll (l : Loader A) (acts : List (Act A)) : Loader A := acts.foldl perform l

def made (l : Loader A) : Act A → Summary
  | .find component => (discoverOne component l).1
  | .look answers => (completeNext answers l).1.summary

/-- What comes of a component when it is found, unless a fetch is queued for it. -/
def verdict (l : Loader A) (component : Element) : Option Result :=
  match sourceOf component l.config.base with
  | .ok .inline => some (outcome l.engine l.registry component.children l.lines).1
  | .ok (.external _) => none
  | .error e => some (.error e)

def conclusion? (l : Loader A) : Act A → Option (String × Result)
  | .find component => (l.verdict component).map (l.keyFor component, ·)
  | .look answers =>
    (Wait.on answers l.pending).answered.map fun (f, answer) =>
      (f.key, (received l.engine l.registry l.lines answer).1)

/-- Either a fetch is queued for a component found, or what comes of it is noted. -/
theorem discoverOne_cases (component : Element) (l : Loader A) :
    (l.verdict component = none ∧ ∃ f states,
      sourceOf component l.config.base = .ok (.external f.address) ∧
      discoverOne component l = (.empty, { l with states, pending := l.pending ++ [f] })) ∨
    ∃ result, l.verdict component = some result ∧ Admissible l.registry result ∧
      ∃ inlineCount lines, discoverOne component l =
        (summaryOf (l.keyFor component) result,
          noted (l.keyFor component) { l with inlineCount, lines } result) := by
  unfold verdict keyFor
  cases hsource : sourceOf component l.config.base with
  | error e => exact .inr ⟨_, rfl, trivial, _, _, discoverOne_unusable hsource⟩
  | ok source =>
      cases source with
      | external address => exact .inl ⟨rfl, _, _, rfl, discoverOne_external hsource⟩
      | inline =>
          have hadm := outcome_admissible l.engine l.registry component.children l.lines
          refine .inr ⟨_, rfl, hadm, l.inlineCount + 1,
            (outcome l.engine l.registry component.children l.lines).2, ?_⟩
          rw [discoverOne_inline hsource, load_eq]
          simp only [KeyedList.insert_insert]
          exact congrArg _ (noted_insert (inlineKey l.inlineCount) .loading { l with
            inlineCount := l.inlineCount + 1
            lines := (outcome l.engine l.registry component.children l.lines).2 } _)

/-- An act concludes no component, and then leaves the registry and the reports alone, or it notes
what came of one. -/
theorem perform_cases (l : Loader A) (a : Act A) :
    (conclusion? l a = none ∧ made l a = .empty ∧ ∃ states pending requests,
      perform l a = { l with states, pending, requests }) ∨
    ∃ key result, conclusion? l a = some (key, result) ∧ made l a = summaryOf key result ∧
      Admissible l.registry result ∧ ∃ inlineCount pending requests lines,
        perform l a = noted key { l with inlineCount, pending, requests, lines } result := by
  cases a with
  | find component =>
      simp only [conclusion?, perform, made]
      rcases discoverOne_cases component l with
        ⟨hnone, _, _, -, heq⟩ | ⟨result, hresult, hadm, inlineCount, lines, heq⟩
      · rw [hnone, heq]
        exact .inl ⟨rfl, rfl, _, _, _, rfl⟩
      · rw [hresult, heq]
        exact .inr ⟨_, _, rfl, rfl, hadm, inlineCount, l.pending, l.requests, lines, rfl⟩
  | look answers =>
      simp only [conclusion?, perform, made]
      cases hanswered : (Wait.on answers l.pending).answered with
      | none =>
          obtain ⟨hmade, hl⟩ := completeNext_of_stalled hanswered
          exact .inl ⟨rfl, hmade, _, _, _, hl⟩
      | some answered =>
          rw [completeNext_of_answered hanswered, settle_eq]
          have hadm := received_admissible l.engine l.registry l.lines answered.2
          exact .inr ⟨_, _, rfl, rfl, hadm, l.inlineCount, _, _, _, rfl⟩

theorem performAll_append (l : Loader A) (acts acts' : List (Act A)) :
    l.performAll (acts ++ acts') = (l.performAll acts).performAll acts' :=
  List.foldl_append

theorem engine_perform (l : Loader A) (a : Act A) : (l.perform a).engine = l.engine := by
  rcases perform_cases l a with ⟨-, -, _, _, _, heq⟩ | ⟨_, _, -, -, -, _, _, _, _, heq⟩
  · rw [heq]
  · rw [heq, engine_noted]

theorem config_perform (l : Loader A) (a : Act A) : (l.perform a).config = l.config := by
  rcases perform_cases l a with ⟨-, -, _, _, _, heq⟩ | ⟨_, _, -, -, -, _, _, _, _, heq⟩
  · rw [heq]
  · rw [heq, config_noted]

theorem engine_performAll (l : Loader A) (acts : List (Act A)) :
    (l.performAll acts).engine = l.engine := by
  induction acts generalizing l with
  | nil => rfl
  | cons a acts ih => exact (ih (l.perform a)).trans (engine_perform l a)

/-- An act is made in steps. -/
theorem perform_steps (l : Loader A) (a : Act A) :
    ∃ found, Steps l found (l.made a) (l.perform a) := by
  cases a with
  | find component => exact ⟨_, .single (discoverOne_step component l)⟩
  | look answers => exact ⟨_, completeNext_steps answers l⟩

theorem performAll_steps (l : Loader A) (acts : List (Act A)) :
    ∃ found summary, Steps l found summary (l.performAll acts) := by
  induction acts generalizing l with
  | nil => exact ⟨_, _, .none l⟩
  | cons a acts ih =>
      obtain ⟨_, hfirst⟩ := perform_steps l a
      obtain ⟨_, _, hrest⟩ := ih (l.perform a)
      exact ⟨_, _, hfirst.trans hrest⟩

/-- The looks of a loader that waits for one fetch after the other. -/
def looks (schedule : Schedule A) : Nat → Loader A → List (Act A)
  | 0, _ => []
  | n + 1, l =>
    .look (schedule 0) ::
      match completeNext (schedule 0) l with
      | (.done _, l') => looks (fun k => schedule (k + 1)) n l'
      | _ => []

theorem completeAll_eq_looks (schedule : Schedule A) (n : Nat) (l : Loader A) :
    (completeAll schedule n l).2 = l.performAll (looks schedule n l) := by
  induction n generalizing schedule l with
  | zero => rfl
  | succ n ih =>
      have hfirst : l.perform (.look (schedule 0)) = (completeNext (schedule 0) l).2 := rfl
      unfold completeAll looks
      rw [bind_apply, performAll, List.foldl_cons, hfirst]
      rcases completeNext (schedule 0) l with ⟨progress, l'⟩
      cases progress with
      | idle => rfl
      | waiting => rfl
      | done first => exact ih (fun k => schedule (k + 1)) l'

theorem component?_of_mem_looks {schedule : Schedule A} {n : Nat} {l : Loader A} {a : Act A}
    (h : a ∈ looks schedule n l) : a.component? = none := by
  induction n generalizing schedule l with
  | zero => exact nomatch h
  | succ n ih =>
      unfold looks at h
      rcases List.mem_cons.1 h with rfl | h
      · rfl
      · split at h
        · exact ih h
        · exact nomatch h

theorem discover_eq_finds (components : List Element) (l : Loader A) :
    (discover components l).2 = l.performAll (components.map .find) := by
  induction components generalizing l with
  | nil => rfl
  | cons c cs ih => exact ih (discoverOne c l).2

end Loader

namespace Call

def components (config : Config A) : Call A → List Element
  | .discover components => components
  | .handleMutation m => if m.isFor config then definitionsIn config m.added else []
  | .scan _ nodes => Loader.components config nodes
  | .loadBatch _ components => components
  | _ => []

def looks (l : Loader A) : Call A → List (Act A)
  | .scan schedule _ | .loadBatch schedule _ | .completeReady schedule | .finishPending schedule =>
    Loader.looks schedule (l.pending.length + 1) l
  | .completeNext answers => [.look answers]
  | _ => []

def acts (l : Loader A) (c : Call A) : List (Act A) :=
  (c.components l.config).map .find ++
    c.looks (l.performAll ((c.components l.config).map .find))

theorem filterMap_component?_acts (l : Loader A) (c : Call A) :
    (c.acts l).filterMap Act.component? = c.components l.config := by
  have hlooks : ∀ l', ∀ a ∈ c.looks l', a.component? = none := by
    intro l' a ha
    cases c with
    | scan | loadBatch | completeReady | finishPending => exact component?_of_mem_looks ha
    | completeNext answers => rw [List.mem_singleton.1 ha]; rfl
    | discover | handleMutation | reset => exact nomatch ha
  rw [acts, List.filterMap_append, List.filterMap_eq_nil_iff.2 (hlooks _), List.append_nil,
    List.filterMap_map]
  exact List.filterMap_some

end Call

namespace Session

/-- A call other than a reset is made of acts. -/
theorem loader_call (s : Session A) {c : Call A} (hc : c ≠ .reset) :
    (s.call c).loader = s.loader.performAll (c.acts s.loader) := by
  have hbatch : ∀ schedule components, (loadBatch schedule components s.loader).2 =
      (s.loader.performAll (components.map .find)).performAll
        (Loader.looks schedule
          ((s.loader.performAll (components.map .find)).pending.length + 1)
          (s.loader.performAll (components.map .find))) := by
    intro schedule components
    rw [← completeAll_eq_looks, ← discover_eq_finds]
    rfl
  rw [Call.acts, performAll_append]
  cases c with
  | discover components => exact discover_eq_finds components s.loader
  | handleMutation m =>
      have heq : handleMutation m s.loader =
          (if m.isFor s.loader.config then
            (do return some (← discover (definitionsIn s.loader.config m.added)))
          else pure none : Loading A (Option Summary)) s.loader := rfl
      simp only [call, after, heq, Call.components]
      split
      · exact discover_eq_finds (definitionsIn s.loader.config m.added) s.loader
      · rfl
  | scan schedule nodes =>
      rw [call, loader_after]
      exact hbatch schedule (components s.loader.config nodes)
  | loadBatch schedule components =>
      rw [call, loader_after]
      exact hbatch schedule components
  | completeNext answers => rfl
  | completeReady schedule =>
      exact completeAll_eq_looks schedule (s.loader.pending.length + 1) s.loader
  | finishPending schedule =>
      rw [call, loader_after]
      exact completeAll_eq_looks schedule (s.loader.pending.length + 1) s.loader
  | reset => exact absurd rfl hc

/-- What the loader does in some calls, resets left out. -/
def acts (s : Session A) : List (Call A) → List (Act A)
  | [] => []
  | c :: cs => c.acts s.loader ++ (s.call c).acts cs

/-- Without a reset, calls are made of acts. -/
theorem loader_run {calls : List (Call A)} (hcalls : ∀ c ∈ calls, c ≠ .reset) (s : Session A) :
    (s.run calls).loader = s.loader.performAll (s.acts calls) := by
  induction calls generalizing s with
  | nil => rfl
  | cons c cs ih =>
      rw [List.forall_mem_cons] at hcalls
      rw [acts, performAll_append, ← s.loader_call hcalls.1]
      exact ih hcalls.2 (s.call c)

end Session

end Componentry
