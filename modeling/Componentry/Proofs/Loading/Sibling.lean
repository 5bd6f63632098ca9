import Componentry.Proofs.Loading.Act
import Componentry.Proofs.Loading.Independence

/-!
# A failure leaves the others alone

What comes of a component is read off the configuration, the engine and the types registered.
Loaders that have these in common are `Akin`, however their keys are numbered: a component comes to
the same in both, and leaves them akin (`Akin.discoverOne`). One that fails leaves a loader akin to
what it was before (`akin_of_verdict`), so the components after it cannot tell whether it was there.
-/

namespace Componentry

open Markup

variable {A : Type}

namespace Loader

def errors (l : Loader A) : List LoadError := l.reports.map Prod.snd

def registration? : Option Result → Option String
  | some (.ok (t, _)) => some t.tag
  | _ => none

def error? : Option Result → Option LoadError
  | some (.error e) => some e
  | _ => none

/-- The loaders have the same configuration and types, and the same addresses in their queues. -/
structure Akin (l l' : Loader A) : Prop where
  config : l'.config = l.config
  engine : l'.engine = l.engine
  defined : l'.registry.defined = l.registry.defined
  imported : l'.registry.imported = l.registry.imported
  queued : l'.pending.map Fetch.address = l.pending.map Fetch.address

variable {l l' : Loader A}

theorem Akin.noted (h : Akin l l') (key key' : String) (result : Result) :
    Akin (noted key l result) (noted key' l' result) := by
  obtain ⟨hconfig, hengine, hdefined, himported, hqueued⟩ := h
  cases result with
  | error e => exact ⟨hconfig, hengine, hdefined, himported, hqueued⟩
  | ok made =>
      refine ⟨hconfig, hengine, ?_, ?_, hqueued⟩
      · exact congrArg (·.insert (Text.lower made.1.tag) made.1) hdefined
      · exact congrArg (·.insert (Text.lower made.1.tag) made.2) himported

variable [Addressing A]

def verdicts : Loader A → List Element → List (Option Result)
  | _, [] => []
  | l, c :: cs => l.verdict c :: verdicts (discoverOne c l).2 cs

/-- The summary and the reports of a component found are read off what comes of it. -/
theorem discoverOne_verdict (component : Element) (l : Loader A) :
    (discoverOne component l).1.registered = (registration? (l.verdict component)).toList ∧
      (discoverOne component l).2.errors = l.errors ++ (error? (l.verdict component)).toList ∧
      ((discoverOne component l).1.failed ≠ [] → ∃ e, l.verdict component = some (.error e)) := by
  rcases discoverOne_cases component l with
    ⟨hverdict, _, _, -, heq⟩ | ⟨result, hverdict, -, _, _, heq⟩
  · rw [hverdict, heq]
    exact ⟨rfl, (List.append_nil _).symm, fun h => absurd rfl h⟩
  · rw [hverdict, heq]
    cases result with
    | error e => exact ⟨rfl, List.map_append, fun _ => ⟨e, rfl⟩⟩
    | ok made => exact ⟨rfl, (List.append_nil _).symm, fun h => absurd rfl h⟩

theorem discover_verdicts (components : List Element) (l : Loader A) :
    (discover components l).1.registered = (l.verdicts components).filterMap registration? ∧
      (discover components l).2.errors =
        l.errors ++ (l.verdicts components).filterMap error? := by
  induction components generalizing l with
  | nil => exact ⟨rfl, (List.append_nil _).symm⟩
  | cons c cs ih =>
      obtain ⟨hregistered, herrors, -⟩ := discoverOne_verdict c l
      obtain ⟨hregistered', herrors'⟩ := ih (discoverOne c l).2
      have hsummary : (discover (c :: cs) l).1.registered =
          (discoverOne c l).1.registered ++ (discover cs (discoverOne c l).2).1.registered := rfl
      have hloader : (discover (c :: cs) l).2 = (discover cs (discoverOne c l).2).2 := rfl
      rw [hsummary, hloader, hregistered, hregistered', herrors', herrors, verdicts,
        List.append_assoc]
      constructor
      · cases h : registration? (l.verdict c) <;> simp [h]
      · cases h : error? (l.verdict c) <;> simp [h]

theorem discover_append (components components' : List Element) (l : Loader A) :
    (discover (components ++ components') l).2 =
      (discover components' (discover components l).2).2 := by
  rw [discover_append_apply]

theorem length_verdicts (components : List Element) (l : Loader A) :
    (l.verdicts components).length = components.length := by
  induction components generalizing l with
  | nil => rfl
  | cons c cs ih => exact congrArg (· + 1) (ih (discoverOne c l).2)

theorem verdicts_append (components components' : List Element) (l : Loader A) :
    l.verdicts (components ++ components') =
      l.verdicts components ++ (discover components l).2.verdicts components' := by
  induction components generalizing l with
  | nil => rfl
  | cons c cs ih => exact congrArg (l.verdict c :: ·) (ih (discoverOne c l).2)

/-- A component that fails leaves nothing that another could see. -/
theorem akin_of_verdict {component : Element} {e : LoadError}
    (h : l.verdict component = some (.error e)) : Akin l (discoverOne component l).2 := by
  rcases discoverOne_cases component l with ⟨hnone, -⟩ | ⟨result, hresult, -, _, _, heq⟩
  · exact nomatch hnone.symm.trans h
  · cases hresult.symm.trans h
    rw [heq]
    exact ⟨rfl, rfl, rfl, rfl, rfl⟩

namespace Akin

/-- What comes of a component is the same, since no line that was logged matters to it. -/
theorem verdict_eq (hsteady : Evaluator.Steady l.engine.evaluate) (h : Akin l l')
    (component : Element) : l'.verdict component = l.verdict component := by
  have hcontains : ∀ tag, l'.registry.contains tag = l.registry.contains tag :=
    fun tag => congrArg (·.contains (Text.lower tag)) h.defined
  have houtcome : (outcome l.engine l'.registry component.children l'.lines).1 =
      (outcome l.engine l.registry component.children l.lines).1 :=
    outcome_congr hsteady
      (fun root _ => ⟨hcontains root.tag, fun child _ => hcontains child.tag⟩) l'.lines l.lines
  unfold verdict
  rw [h.config, h.engine]
  rcases sourceOf component l.config.base with e | _ | address
  · rfl
  · exact congrArg some houtcome
  · rfl

/-- A component leaves loaders akin. -/
theorem discoverOne (hsteady : Evaluator.Steady l.engine.evaluate) (h : Akin l l')
    (component : Element) :
    Akin (discoverOne component l).2 (Loader.discoverOne component l').2 := by
  have hverdict := h.verdict_eq hsteady component
  rcases discoverOne_cases component l with
    ⟨hnone, f, states, hsource, heq⟩ | ⟨result, hresult, -, inlineCount, lines, heq⟩
  all_goals rcases discoverOne_cases component l' with
    ⟨hnone', f', states', hsource', heq'⟩ |
      ⟨result', hresult', -, inlineCount', lines', heq'⟩
  · have haddress : f'.address = f.address := by
      have heq := hsource'.symm.trans (h.config ▸ hsource)
      exact Source.external.inj (Except.ok.inj heq)
    rw [heq, heq']
    refine ⟨h.config, h.engine, h.defined, h.imported, ?_⟩
    simp only [List.map_append, List.map_cons, List.map_nil, h.queued, haddress]
  · exact nomatch (hresult'.symm.trans hverdict).trans hnone
  · exact nomatch (hnone'.symm.trans hverdict).trans hresult
  · cases (hresult'.symm.trans hverdict).trans hresult
    have hakin : Akin { l with inlineCount, lines }
        { l' with inlineCount := inlineCount', lines := lines' } :=
      ⟨h.config, h.engine, h.defined, h.imported, h.queued⟩
    rw [heq, heq']
    exact hakin.noted _ _ _

theorem discover (hsteady : Evaluator.Steady l.engine.evaluate) (h : Akin l l')
    (components : List Element) :
    l'.verdicts components = l.verdicts components ∧
      Akin (discover components l).2 (Loader.discover components l').2 := by
  induction components generalizing l l' with
  | nil => exact ⟨rfl, h⟩
  | cons c cs ih =>
      have hengine : (Loader.discoverOne c l).2.engine = l.engine := engine_perform l (.find c)
      obtain ⟨hrest, hakin⟩ := ih (hengine ▸ hsteady) (h.discoverOne hsteady c)
      exact ⟨congrArg₂ List.cons (h.verdict_eq hsteady c) hrest, hakin⟩

end Akin

/-- A failure leaves the other components alone. Whether or not a component that fails stands among
others, these come to the same, one by one: the same tags are registered, with the same types and
definitions, the same addresses are queued, and the same errors are reported, all in the same order.
Only the keys may have other numbers. -/
theorem discover_without_failed (l : Loader A) (hengine : l.engine = .standard)
    (before after : List Element) (component : Element)
    (hfails : (discoverOne component (discover before l).2).1.failed ≠ []) :
    let whole := discover (before ++ component :: after) l
    let others := discover (before ++ after) l
    whole.1.registered = others.1.registered ∧
      whole.2.registry.defined = others.2.registry.defined ∧
      whole.2.registry.imported = others.2.registry.imported ∧
      whole.2.pending.map Fetch.address = others.2.pending.map Fetch.address ∧
      ∃ verdicts e verdicts', verdicts.length = before.length ∧
        l.verdicts (before ++ component :: after) = verdicts ++ some (.error e) :: verdicts' ∧
        l.verdicts (before ++ after) = verdicts ++ verdicts' ∧
        whole.2.errors =
          l.errors ++ verdicts.filterMap error? ++ e :: verdicts'.filterMap error? ∧
        others.2.errors = l.errors ++ verdicts.filterMap error? ++ verdicts'.filterMap error? := by
  intro whole others
  have hsteady : Evaluator.Steady (discover before l).2.engine.evaluate := by
    rw [discover_eq_finds, engine_performAll, hengine]
    exact fun _ _ _ => rfl
  obtain ⟨e, he⟩ := (discoverOne_verdict component (discover before l).2).2.2 hfails
  -- With the component that failed and without it, the rest begins in loaders that are akin.
  obtain ⟨hverdicts, hakin⟩ := (akin_of_verdict he).discover hsteady after
  have hwhole : whole.2 = (discover after (discoverOne component (discover before l).2).2).2 :=
    discover_append before (component :: after) l
  have hothers : others.2 = (discover after (discover before l).2).2 :=
    discover_append before after l
  have hall : l.verdicts (before ++ component :: after) =
      l.verdicts before ++ some (.error e) :: (discover before l).2.verdicts after := by
    rw [verdicts_append, verdicts, he, hverdicts]
  have hfew : l.verdicts (before ++ after) =
      l.verdicts before ++ (discover before l).2.verdicts after := verdicts_append before after l
  obtain ⟨hregistered, herrors⟩ := discover_verdicts (before ++ component :: after) l
  obtain ⟨hregistered', herrors'⟩ := discover_verdicts (before ++ after) l
  rw [hall, List.filterMap_append] at hregistered herrors
  rw [hfew, List.filterMap_append] at hregistered' herrors'
  rw [← hwhole, ← hothers] at hakin
  refine ⟨hregistered.trans hregistered'.symm, hakin.defined, hakin.imported, hakin.queued,
    _, e, _, length_verdicts before l, hall, hfew, ?_, ?_⟩
  · exact herrors.trans (List.append_assoc _ _ _).symm
  · exact herrors'.trans (List.append_assoc _ _ _).symm

/-- Four definitions, the second of a tag that has a type by then and the third without an element.
Without the second, the third still fails and the fourth, which holds an element of the first, still
gets its type. -/
theorem discover_without_failed_again :
    let l := start (.default : Config Url.Address)
    let component := fun text => Element.mk "component" [] (forest text)
    let first := component "<x-a><n>1</n></x-a>"
    let again := component "<X-A></X-A>"
    let empty := component "text"
    let last := component "<x-b><x-a>2</x-a></x-b>"
    l.engine = .standard ∧
      (discoverOne again (discover [first] l).2).1.failed ≠ [] ∧
      (discover [first, again, empty, last] l).1.registered =
        (discover [first, empty, last] l).1.registered ∧
      (discover [first, again, empty, last] l).2.registry.defined =
        (discover [first, empty, last] l).2.registry.defined ∧
      (discover [first, empty, last] l).1.registered = ["x-a", "x-b"] := by
  intro l component first again empty last
  have hfails : (discoverOne again (discover [first] l).2).1.failed ≠ [] := by decide +kernel
  obtain ⟨hregistered, hdefined, -⟩ :=
    discover_without_failed l rfl [first] [empty, last] again hfails
  exact ⟨rfl, hfails, hregistered, hdefined, by decide +kernel⟩

end Loader

end Componentry
