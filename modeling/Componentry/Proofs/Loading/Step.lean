import Componentry.Proofs.Loading.Key
import Componentry.Proofs.Loading.Outcome

/-!
# Steps of a loader

Whatever a loader is asked to do, it does it in steps of five kinds: it finds an inline definition
and loads it, finds an address and queues a fetch, finds a source that cannot be used, loads a
definition that was fetched, or looks at the queue in vain. `Step` lists them, with all that is
known when one is made; `Steps` is any number of them. What holds of all loaders is proved kind by
kind and carried over by `discover_steps`, `completeNext_steps` and `completeAll_steps`.
-/

namespace Componentry

open Markup

variable {A : Type}

/-- How the definition of a component is to be had. -/
inductive Origin where
  /-- It is in the component, the one with this number that has its definition in itself. -/
  | inline (n : Nat)
  | external
  /-- The component names a source that cannot be used, by this text. -/
  | unusable (text : String)
  deriving DecidableEq, Repr

structure Finding where
  key : String
  origin : Origin
  deriving DecidableEq, Repr

namespace Summary

theorem append_empty (s : Summary) : s ++ empty = s := by
  change append s empty = s
  simp [append, empty]

theorem append_assoc (s t u : Summary) : s ++ t ++ u = s ++ (t ++ u) := by
  change append (append s t) u = append s (append t u)
  simp [append]

end Summary

namespace Loader

/-- A step of a loader, with the components that were found in it and what came of definitions. -/
inductive Step : Loader A → List Finding → Summary → Loader A → Prop where
  | inline {l : Loader A} {result : Result} (lines : List String) :
      Admissible l.registry result →
      Step l [⟨inlineKey l.inlineCount, .inline l.inlineCount⟩]
        (summaryOf (inlineKey l.inlineCount) result)
        (noted (inlineKey l.inlineCount) { l with inlineCount := l.inlineCount + 1, lines } result)
  | external {l : Loader A} (f : Fetch A) :
      f.key ∉ l.states.keys → ':' ∈ f.key.toList →
      Step l [⟨f.key, .external⟩] .empty
        { l with states := l.states.insert f.key .loading, pending := l.pending ++ [f] }
  | unusable {l : Loader A} (text : String) (e : LoadError) :
      Step l [⟨freshKey l.states.keys text, .unusable text⟩]
        (summaryOf (freshKey l.states.keys text) (.error e))
        (noted (freshKey l.states.keys text) l (.error e))
  | settle {l : Loader A} {before after left : List (Fetch A)} {f : Fetch A} {result : Result}
      (requests lines : List String) :
      l.pending = before ++ f :: after →
      left.map Fetch.key = (before ++ after).map Fetch.key →
      Admissible l.registry result →
      Step l [] (summaryOf f.key result)
        (noted f.key { l with pending := left, requests, lines } result)
  | wait {l : Loader A} {left : List (Fetch A)} (requests : List String) :
      left.map Fetch.key = l.pending.map Fetch.key →
      Step l [] .empty { l with pending := left, requests }

inductive Steps : Loader A → List Finding → Summary → Loader A → Prop where
  | none (l : Loader A) : Steps l [] .empty l
  | cons {l l' l'' : Loader A} {found found' : List Finding} {made made' : Summary} :
      Step l found made l' → Steps l' found' made' l'' →
      Steps l (found ++ found') (made ++ made') l''

namespace Steps

variable {l l' l'' : Loader A} {found found' : List Finding} {made made' : Summary}

theorem single (h : Step l found made l') : Steps l found made l' := by
  have hs := cons h (none l')
  rwa [List.append_nil, Summary.append_empty] at hs

theorem trans (h : Steps l found made l') (h' : Steps l' found' made' l'') :
    Steps l (found ++ found') (made ++ made') l'' := by
  induction h with
  | none l => exact h'
  | cons hstep _ ih =>
      rw [List.append_assoc, Summary.append_assoc]
      exact cons hstep (ih h')

end Steps

theorem Step.engine_eq {l l' : Loader A} {found : List Finding} {made : Summary}
    (h : Step l found made l') :
    l'.engine = l.engine := by
  cases h with
  | inline | unusable | settle => exact engine_noted _ _ _
  | external | wait => rfl

theorem Steps.engine_eq {l l' : Loader A} {found : List Finding} {made : Summary}
    (h : Steps l found made l') :
    l'.engine = l.engine := by
  induction h with
  | none l => rfl
  | cons hstep _ ih => exact ih.trans hstep.engine_eq

theorem Step.config_eq {l l' : Loader A} {found : List Finding} {made : Summary}
    (h : Step l found made l') : l'.config = l.config := by
  cases h with
  | inline | unusable | settle => exact config_noted _ _ _
  | external | wait => rfl

theorem Steps.config_eq {l l' : Loader A} {found : List Finding} {made : Summary}
    (h : Steps l found made l') : l'.config = l.config := by
  induction h with
  | none l => rfl
  | cons hstep _ ih => exact ih.trans hstep.config_eq

variable [Addressing A]

def finding (l : Loader A) (component : Element) : Finding where
  key := l.keyFor component
  origin :=
    match sourceOf component l.config.base with
    | .ok .inline => .inline l.inlineCount
    | .ok (.external _) => .external
    | .error e => .unusable (failureKey component e)

def findings : List Element → Loader A → List Finding
  | [], _ => []
  | c :: cs, l => l.finding c :: findings cs (discoverOne c l).2

theorem discoverOne_step (component : Element) (l : Loader A) :
    Step l [l.finding component] (discoverOne component l).1 (discoverOne component l).2 := by
  cases hsource : sourceOf component l.config.base with
  | error e =>
      have hfound : l.finding component =
          ⟨freshKey l.states.keys (failureKey component e),
            .unusable (failureKey component e)⟩ := by
        simp only [finding, keyFor, hsource]
      rw [hfound, discoverOne_unusable hsource]
      exact Step.unusable (failureKey component e) e
  | ok source =>
      cases source with
      | inline =>
          have hfound : l.finding component =
              ⟨inlineKey l.inlineCount, .inline l.inlineCount⟩ := by
            simp only [finding, keyFor, hsource]
          rw [hfound, discoverOne_inline hsource, load_eq]
          simp only [KeyedList.insert_insert]
          have hnoted := noted_insert (inlineKey l.inlineCount) .loading
            { l with
              inlineCount := l.inlineCount + 1
              lines := (outcome l.engine l.registry component.children l.lines).2 }
            (outcome l.engine l.registry component.children l.lines).1
          rw [hnoted]
          exact Step.inline _ (outcome_admissible l.engine l.registry component.children l.lines)
      | external address =>
          have hfound : l.finding component =
              ⟨freshKey l.states.keys (Addressing.text address), .external⟩ := by
            simp only [finding, keyFor, hsource]
          rw [hfound, discoverOne_external hsource]
          exact Step.external ⟨_, address, false⟩
            (freshKey_not_mem l.states.keys (Addressing.text address))
            (mem_freshKey l.states.keys (Addressing.colon_mem_text address))

theorem discover_steps (components : List Element) (l : Loader A) :
    Steps l (findings components l) (discover components l).1 (discover components l).2 := by
  induction components generalizing l with
  | nil => exact Steps.none l
  | cons c cs ih => exact Steps.cons (discoverOne_step c l) (ih (discoverOne c l).2)

/-- Components are found one after the other. -/
theorem discover_append_apply (components components' : List Element) (l : Loader A) :
    discover (components ++ components') l =
      ((discover components l).1 ++ (discover components' (discover components l).2).1,
        (discover components' (discover components l).2).2) := by
  induction components generalizing l with
  | nil => rfl
  | cons c cs ih =>
      have hcons : ∀ cs (l : Loader A), discover (c :: cs) l =
          ((discoverOne c l).1 ++ (discover cs (discoverOne c l).2).1,
            (discover cs (discoverOne c l).2).2) := fun _ _ => rfl
      rw [List.cons_append, hcons, hcons, ih, Summary.append_assoc]

end Loader

variable [Addressing A]

/-- Where no fetch is answered, all are left; where one is, only that one is taken out. -/
theorem Wait.on_cases (answers : Answers A) (fs : List (Fetch A)) :
    ((Wait.on answers fs).answered = none ∧
      (Wait.on answers fs).left.map Fetch.key = fs.map Fetch.key) ∨
    ∃ before f after result, (Wait.on answers fs).answered = some (f, result) ∧
      fs = before ++ f :: after ∧
      (Wait.on answers fs).left.map Fetch.key = (before ++ after).map Fetch.key := by
  induction fs with
  | nil => exact Or.inl ⟨rfl, rfl⟩
  | cons f fs ih =>
      cases h : (answers f).result? with
      | some result =>
          rw [Wait.on_cons_of_answered h]
          exact Or.inr ⟨[], f, fs, result, rfl, rfl, rfl⟩
      | none =>
          rw [Wait.on_cons_of_stalled h]
          rcases ih with ⟨hnone, hleft⟩ | ⟨before, g, after, result, hsome, rfl, hleft⟩
          · exact Or.inl ⟨hnone, congrArg (f.key :: ·) hleft⟩
          · exact Or.inr ⟨f :: before, g, after, result, hsome, rfl, congrArg (f.key :: ·) hleft⟩

namespace Loader

def Progress.summary : Progress → Summary
  | .done summary => summary
  | _ => .empty

/-- A look at the queue loads the definition that came first. -/
theorem completeNext_of_answered {answers : Answers A} {l : Loader A} {f : Fetch A}
    {answer : Except LoadError String}
    (h : (Wait.on answers l.pending).answered = some (f, answer)) :
    completeNext answers l = (settle f.key answer { l with
      pending := (Wait.on answers l.pending).left
      requests := l.requests ++ (Wait.on answers l.pending).asked }).map .done id := by
  have hp : l.pending.isEmpty = false := by
    rw [List.isEmpty_eq_false_iff]
    rintro hnil
    rw [hnil] at h
    exact nomatch h
  unfold completeNext
  rw [bind_apply, get_apply]
  simp only [hp, Bool.false_eq_true, if_false, bind_apply, set_apply, h, pure_apply]
  rfl

/-- Where nothing is answered, it asks for what has not been asked for. -/
theorem completeNext_of_stalled {answers : Answers A} {l : Loader A}
    (h : (Wait.on answers l.pending).answered = none) :
    (completeNext answers l).1.summary = .empty ∧
      (completeNext answers l).2 =
        { l with
          pending := (Wait.on answers l.pending).left
          requests := l.requests ++ (Wait.on answers l.pending).asked } := by
  obtain ⟨config, engine, registry, states, inlineCount, pending, requests, reports, lines⟩ := l
  cases pending with
  | nil => simp [completeNext, bind_apply, get_apply, pure_apply, Progress.summary]
  | cons f fs =>
      unfold completeNext
      simp only [bind_apply, get_apply, List.isEmpty_cons, Bool.false_eq_true, h]
      exact ⟨rfl, rfl⟩

theorem completeNext_steps (answers : Answers A) (l : Loader A) :
    Steps l [] (completeNext answers l).1.summary (completeNext answers l).2 := by
  rcases Wait.on_cases answers l.pending with
    ⟨hnone, hleft⟩ | ⟨before, f, after, result, hsome, hpending, hleft⟩
  · obtain ⟨hmade, hl⟩ := completeNext_of_stalled hnone
    rw [hmade, hl]
    exact Steps.single (Step.wait _ hleft)
  · rw [completeNext_of_answered hsome, settle_eq]
    exact Steps.single (Step.settle _ _ hpending hleft
      (received_admissible l.engine l.registry l.lines result))

theorem completeAll_steps (n : Nat) (schedule : Schedule A) (l : Loader A) :
    Steps l [] (completeAll schedule n l).1.1 (completeAll schedule n l).2 := by
  induction n generalizing schedule l with
  | zero => exact Steps.none l
  | succ n ih =>
      have hnext := completeNext_steps (schedule 0) l
      unfold completeAll
      rw [bind_apply]
      rcases hc : completeNext (schedule 0) l with ⟨progress, l'⟩
      rw [hc] at hnext
      cases progress with
      | idle => exact hnext
      | waiting => exact hnext
      | done first =>
          have hrest := ih (fun k => schedule (k + 1)) l'
          exact Steps.trans hnext hrest

end Loader

end Componentry
