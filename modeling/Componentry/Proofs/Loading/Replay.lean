import Componentry.Proofs.Loading.Act
import Componentry.Proofs.Loading.Independence

/-!
# Registrations stay and can be replayed

The first type under a tag stays. Each type can be made again from the definition that was kept for
its tag, with no more than the tags that were registered before it: `Registry.Replayable` says so,
and `Registry.Kept` that a registry has all that another has. An act keeps both, since a result
enters the registry as a whole or not at all. A definition of a tag that has a type fails, and its
component ends as failed: no later component gets its key (`Lost`).
-/

namespace Componentry

open Markup Loader

variable {A : Type}

/-- The definition makes the type where some tags, and no others, have types. -/
def Makes (engine : Script.Engine) (tags : List String) (root : Element) (t : ElementType) :
    Prop :=
  ∀ lines, ∃ definition lines',
    extract engine.evaluate (fun tag => tags.contains (Text.lower tag)) root lines =
      (.ok definition, lines') ∧
    synthesize engine definition = .ok t

namespace Registry

variable {r r' r'' : Registry} {engine : Script.Engine}

/-- What is kept under a tag with a type is kept in the other registry too. -/
def Kept (r r' : Registry) : Prop :=
  ∀ tag, r.contains tag = true → r'.get? tag = r.get? tag ∧ r'.imported? tag = r.imported? tag

/-- Each type can be made from the definition that is kept for its tag, where the tags before it
have types. -/
structure Replayable (engine : Script.Engine) (r : Registry) : Prop where
  imported_keys : r.imported.keys = r.names
  makes : ∀ before tag after, r.names = before ++ tag :: after → ∃ t root,
    r.get? tag = some t ∧ r.imported? tag = some root ∧ Makes engine before root t

theorem isSome_get? (r : Registry) (tag : String) : (r.get? tag).isSome = r.contains tag :=
  KeyedList.isSome_find?

theorem Kept.refl (r : Registry) : r.Kept r := fun _ _ => ⟨rfl, rfl⟩

theorem Kept.contains (h : r.Kept r') {tag : String} (htag : r.contains tag = true) :
    r'.contains tag = true := by
  rw [← isSome_get?, (h tag htag).1, isSome_get?, htag]

theorem Kept.trans (h : r.Kept r') (h' : r'.Kept r'') : r.Kept r'' := by
  intro tag htag
  obtain ⟨hget, himported⟩ := h' tag (h.contains htag)
  exact ⟨hget.trans (h tag htag).1, himported.trans (h tag htag).2⟩

theorem contains_of_mem_names (hr : r.Replayable engine) {tag : String} (htag : tag ∈ r.names) :
    r.contains tag = true := by
  obtain ⟨before, after, heq⟩ := List.append_of_mem htag
  obtain ⟨t, -, hget, -, -⟩ := hr.makes before tag after heq
  rw [← isSome_get?, hget]
  rfl

theorem replayable_empty (engine : Script.Engine) : Replayable engine empty where
  imported_keys := rfl
  makes before _ _ h := by
    have hnil := congrArg List.length h
    simp [names, empty] at hnil

end Registry

namespace Loader

variable {l : Loader A} {engine : Script.Engine} {registry : Registry} {result : Result}

theorem kept_noted (hadm : Admissible l.registry result) (key : String) :
    l.registry.Kept (noted key l result).registry := by
  intro tag htag
  cases result with
  | error e => exact ⟨rfl, rfl⟩
  | ok made =>
      have hne : Text.lower tag ≠ Text.lower made.1.tag := by
        intro heq
        have hnew := hadm.1
        rw [Registry.contains, ← heq] at hnew
        exact Bool.noConfusion (htag.symm.trans hnew)
      exact ⟨KeyedList.find?_insert_of_ne _ hne, KeyedList.find?_insert_of_ne _ hne⟩

/-- A result enters the registry behind all others. -/
theorem replayable_noted (hr : l.registry.Replayable engine) (hadm : Admissible l.registry result)
    (hmakes : ∀ made, result = .ok made → Makes engine l.registry.names made.2 made.1)
    (key : String) : (noted key l result).registry.Replayable engine where
  imported_keys := imported_noted hr.imported_keys
  makes := by
    intro before tag after hnames
    rw [names_noted hadm] at hnames
    cases result with
    | error e => exact hr.makes before tag after ((List.append_nil _).symm.trans hnames)
    | ok made =>
        rcases List.eq_nil_or_concat after with rfl | ⟨after, last, rfl⟩
        · obtain ⟨hbefore, htag⟩ := List.append_inj' hnames rfl
          cases List.singleton_inj.1 htag
          refine ⟨made.1, made.2, ?_, ?_, hbefore ▸ hmakes made rfl⟩
          · exact KeyedList.find?_insert_self l.registry.defined _ _
          · exact KeyedList.find?_insert_self l.registry.imported _ _
        · rw [List.concat_eq_append, ← List.cons_append, ← List.append_assoc] at hnames
          obtain ⟨hold, -⟩ := List.append_inj' hnames rfl
          obtain ⟨t, root, hget, himported, hmade⟩ := hr.makes before tag after hold
          have htag : tag ∈ l.registry.names := hold ▸ by simp
          obtain ⟨hget', himported'⟩ :=
            kept_noted hadm key tag (Registry.contains_of_mem_names hr htag)
          exact ⟨t, root, hget'.trans hget, himported'.trans himported, hmade⟩

theorem makes_of_outcome (hsteady : Evaluator.Steady engine.evaluate) {nodes : List Node}
    {lines : List String} {made : ElementType × Element}
    (h : (outcome engine registry nodes lines).1 = .ok made) :
    Makes engine registry.names made.2 made.1 := by
  obtain ⟨-, -, definition, lines₁, hx, hs⟩ := of_outcome_eq_ok h
  intro lines'
  have hsame : (extract engine.evaluate registry.contains made.2 lines).1 =
      (extract engine.evaluate registry.contains made.2 lines').1 :=
    extract_congr hsteady (fun _ _ => rfl) lines lines'
  rw [hx] at hsame
  exact ⟨definition, (extract engine.evaluate registry.contains made.2 lines').2,
    Prod.ext hsame.symm rfl, hs⟩

theorem makes_of_received (hsteady : Evaluator.Steady engine.evaluate)
    {answer : Except LoadError String} {lines : List String} {made : ElementType × Element}
    (h : (received engine registry lines answer).1 = .ok made) :
    Makes engine registry.names made.2 made.1 := by
  cases answer with
  | error e => exact nomatch h
  | ok text => exact makes_of_outcome hsteady h

/-- A key under which a failure stands for good: no inline definition to come has it. -/
structure Lost (l : Loader A) (key : String) : Prop where
  state : l.state? key = some .failed
  closed : ∀ n, l.inlineCount ≤ n → key ≠ inlineKey n

theorem Lost.step {l' : Loader A} {key : String} {h : History} {found : List Finding}
    {made : Summary} (hl : Lost l key) (hc : Coherent l h) (hstep : Step l found made l') :
    Lost l' key := by
  have hmem : key ∈ l.states.keys := by
    by_contra hkey
    exact nomatch (KeyedList.find?_eq_none_iff.2 hkey).symm.trans hl.state
  cases hstep with
  | inline lines hadm =>
      refine ⟨?_, fun n hn => hl.closed n ?_⟩
      · rw [state?_noted, if_neg (hl.closed _ (Nat.le_refl _))]
        exact hl.state
      · rw [inlineCount_noted] at hn
        exact Nat.le_of_succ_le hn
  | external f hfree hcolon =>
      refine ⟨?_, hl.closed⟩
      have hne : key ≠ f.key := fun heq => hfree (heq ▸ hmem)
      exact (KeyedList.find?_insert_of_ne _ hne).trans hl.state
  | unusable text e =>
      refine ⟨?_, fun n hn => hl.closed n (by rwa [inlineCount_noted] at hn)⟩
      have hne : key ≠ freshKey l.states.keys text :=
        fun heq => freshKey_not_mem l.states.keys text (heq ▸ hmem)
      rw [state?_noted, if_neg hne]
      exact hl.state
  | @settle before after left f result requests lines hpending hleft hadm =>
      refine ⟨?_, fun n hn => hl.closed n (by rwa [inlineCount_noted] at hn)⟩
      have hloading := (hc.loading_iff f.key).2 (hpending ▸ by simp)
      have hne : key ≠ f.key := by
        rintro rfl
        exact nomatch hloading.symm.trans hl.state
      rw [state?_noted, if_neg hne]
      exact hl.state
  | wait requests hleft => exact ⟨hl.state, hl.closed⟩

theorem Lost.steps {l' : Loader A} {key : String} {h : History} {found : List Finding}
    {made : Summary} (hl : Lost l key) (hc : Coherent l h) (hsteps : Steps l found made l') :
    Lost l' key := by
  induction hsteps generalizing h with
  | none l => exact hl
  | cons hstep _ ih => exact ih (hl.step hc hstep) (hc.step hstep)

variable [Addressing A]

/-- What an act registers was made from the definition that is kept. -/
theorem makes_of_conclusion? (hsteady : Evaluator.Steady l.engine.evaluate) {a : Act A}
    {key : String} {made : ElementType × Element} (h : l.conclusion? a = some (key, .ok made)) :
    Makes l.engine l.registry.names made.2 made.1 := by
  cases a with
  | find component =>
      obtain ⟨result, hresult, heq⟩ := Option.map_eq_some_iff.1 h
      cases congrArg Prod.snd heq
      unfold verdict at hresult
      split at hresult
      · exact makes_of_outcome hsteady (Option.some_inj.1 hresult)
      · exact nomatch hresult
      · exact nomatch Option.some_inj.1 hresult
  | look answers =>
      obtain ⟨⟨f, answer⟩, -, heq⟩ := Option.map_eq_some_iff.1 h
      exact makes_of_received hsteady (congrArg Prod.snd heq)

theorem replayable_perform (hsteady : Evaluator.Steady l.engine.evaluate)
    (hr : l.registry.Replayable l.engine) (a : Act A) :
    (l.perform a).registry.Replayable l.engine ∧ l.registry.Kept (l.perform a).registry := by
  rcases perform_cases l a with
    ⟨-, -, _, _, _, heq⟩ |
      ⟨key, result, hresult, -, hadm, inlineCount, pending, requests, lines, heq⟩
  · rw [heq]
    exact ⟨hr, .refl _⟩
  · let l' : Loader A := { l with inlineCount, pending, requests, lines }
    have hmakes : ∀ made, result = .ok made → Makes l.engine l.registry.names made.2 made.1 :=
      fun made hmade => makes_of_conclusion? hsteady (hmade ▸ hresult)
    rw [heq]
    exact ⟨replayable_noted (l := l') hr hadm hmakes key, kept_noted (l := l') hadm key⟩

theorem replayable_performAll (hsteady : Evaluator.Steady l.engine.evaluate)
    (hr : l.registry.Replayable l.engine) (acts : List (Act A)) :
    (l.performAll acts).registry.Replayable l.engine ∧
      l.registry.Kept (l.performAll acts).registry := by
  induction acts generalizing l with
  | nil => exact ⟨hr, .refl _⟩
  | cons a acts ih =>
      have hfirst := replayable_perform hsteady hr a
      have hrest := @ih (l.perform a) (by rwa [engine_perform])
        (by rw [engine_perform]; exact hfirst.1)
      rw [engine_perform] at hrest
      exact ⟨hrest.1, hfirst.2.trans hrest.2⟩

def resolved? (l : Loader A) : Act A → Option (String × Element)
  | .find component =>
    match sourceOf component l.config.base with
    | .ok .inline => (definitionRoot component.children).toOption.map (inlineKey l.inlineCount, ·)
    | _ => none
  | .look answers =>
    (Wait.on answers l.pending).answered.bind fun (f, answer) =>
      (definition? answer).map (f.key, ·)

def resolved : Loader A → List (Act A) → List (String × Element)
  | _, [] => []
  | l, a :: acts => (l.resolved? a).toList ++ resolved (l.perform a) acts

theorem outcome_eq_error {nodes : List Node} {root : Element}
    (hroot : definitionRoot nodes = .ok root) (htag : registry.contains root.tag = true)
    (engine : Script.Engine) (lines : List String) :
    ∃ e, (outcome engine registry nodes lines).1 = .error e := by
  have hadm := outcome_admissible engine registry nodes lines
  cases hresult : (outcome engine registry nodes lines).1 with
  | error e => exact ⟨e, rfl⟩
  | ok made =>
      obtain ⟨hroot', hmade⟩ := outcome_eq_ok hresult
      cases hroot.symm.trans hroot'
      rw [hresult, Admissible, hmade, Registry.contains_lower, htag] at hadm
      exact nomatch hadm.1

theorem resolved?_find_eq_some {component : Element} {key : String} {root : Element}
    (h : l.resolved? (.find component) = some (key, root)) :
    sourceOf component l.config.base = .ok .inline ∧ key = inlineKey l.inlineCount ∧
      definitionRoot component.children = .ok root := by
  simp only [resolved?] at h
  split at h
  · next hsource =>
    obtain ⟨root', hroot, heq⟩ := Option.map_eq_some_iff.1 h
    cases heq
    exact ⟨hsource, rfl, eq_ok_of_toOption hroot⟩
  · cases h

theorem resolved?_look_eq_some {answers : Answers A} {key : String} {root : Element}
    (h : l.resolved? (.look answers) = some (key, root)) :
    ∃ f text, (Wait.on answers l.pending).answered = some (f, .ok text) ∧ key = f.key ∧
      definitionRoot (forest text) = .ok root := by
  obtain ⟨⟨f, answer⟩, hanswered, hmap⟩ := Option.bind_eq_some_iff.1 h
  obtain ⟨root', hroot, heq⟩ := Option.map_eq_some_iff.1 hmap
  cases heq
  cases answer with
  | error e => cases hroot
  | ok text => exact ⟨f, text, hanswered, rfl, eq_ok_of_toOption hroot⟩

/-- A definition of a tag that has a type comes to nothing. -/
theorem conclusion?_of_resolved? {a : Act A} {key : String} {root : Element}
    (h : l.resolved? a = some (key, root)) (htag : l.registry.contains root.tag = true) :
    ∃ e, l.conclusion? a = some (key, .error e) := by
  cases a with
  | find component =>
      obtain ⟨hsource, rfl, hroot⟩ := resolved?_find_eq_some h
      obtain ⟨e, he⟩ := outcome_eq_error hroot htag l.engine l.lines
      exact ⟨e, by simp only [conclusion?, verdict, keyFor, hsource, he, Option.map_some]⟩
  | look answers =>
      obtain ⟨f, text, hanswered, rfl, hroot⟩ := resolved?_look_eq_some h
      obtain ⟨e, he⟩ := outcome_eq_error hroot htag l.engine l.lines
      exact ⟨e, by simp only [conclusion?, hanswered, received, he, Option.map_some]⟩

/-- The key that a definition comes to is that of no inline definition to come. -/
theorem ne_inlineKey_of_resolved? {h : History} (hc : Coherent l h) {a : Act A} {key : String}
    {root : Element} (hroot : l.resolved? a = some (key, root)) {n : Nat}
    (hn : (l.perform a).inlineCount ≤ n) : key ≠ inlineKey n := by
  cases a with
  | find component =>
      obtain ⟨hsource, rfl, -⟩ := resolved?_find_eq_some hroot
      rw [perform, discoverOne_inline hsource, load_eq, inlineCount_noted] at hn
      intro heq
      exact absurd (inlineKey_injective heq) (Nat.ne_of_lt hn)
  | look answers =>
      obtain ⟨f, text, hanswered, rfl, -⟩ := resolved?_look_eq_some hroot
      have hpending : f.key ∈ l.pending.map Fetch.key := by
        rcases Wait.on_cases answers l.pending with
          ⟨hnone, -⟩ | ⟨before, g, after, result, hsome, hpending, -⟩
        · cases hnone.symm.trans hanswered
        · cases hsome.symm.trans hanswered
          simp [hpending]
      intro heq
      exact colon_not_mem_inlineKey n (heq ▸ hc.colon_mem _ hpending)

/-- So its component is lost. -/
theorem lost_of_resolved? {h : History} (hc : Coherent l h) {a : Act A} {key : String}
    {root : Element} (hroot : l.resolved? a = some (key, root))
    (htag : l.registry.contains root.tag = true) : Lost (l.perform a) key := by
  refine ⟨?_, fun n hn => ne_inlineKey_of_resolved? hc hroot hn⟩
  obtain ⟨e, he⟩ := conclusion?_of_resolved? hroot htag
  rcases perform_cases l a with
    ⟨hnone, -⟩ | ⟨key', result, hresult, -, -, _, _, _, _, heq⟩
  · cases hnone.symm.trans he
  · cases hresult.symm.trans he
    rw [heq, state?_noted, if_pos rfl]
    rfl

/-- So is every later one. -/
theorem lost_of_mem_resolved {h : History} (hc : Coherent l h)
    (hsteady : Evaluator.Steady l.engine.evaluate) (hr : l.registry.Replayable l.engine)
    {acts : List (Act A)} {key : String} {root : Element} (hroot : (key, root) ∈ l.resolved acts)
    (htag : l.registry.contains root.tag = true) : Lost (l.performAll acts) key := by
  induction acts generalizing l h with
  | nil => exact nomatch hroot
  | cons a acts ih =>
      obtain ⟨found, hfirst⟩ := perform_steps l a
      have hnext := replayable_perform hsteady hr a
      rcases List.mem_append.1 hroot with hroot | hroot
      · obtain ⟨_, _, hrest⟩ := performAll_steps (l.perform a) acts
        exact (lost_of_resolved? hc (Option.mem_toList.1 hroot) htag).steps (hc.steps hfirst) hrest
      · exact ih (hc.steps hfirst) (by rwa [engine_perform]) (by rw [engine_perform]; exact hnext.1)
          hroot (hnext.2.contains htag)

end Loader

namespace Session

variable [Addressing A]

theorem replayable_call {s : Session A} (hsteady : Evaluator.Steady s.loader.engine.evaluate)
    (hr : s.loader.registry.Replayable s.loader.engine) (c : Call A) :
    (s.call c).loader.registry.Replayable s.loader.engine := by
  by_cases hc : c = .reset
  · subst hc
    exact Registry.replayable_empty _
  · rw [s.loader_call hc]
    exact (replayable_performAll hsteady hr _).1

theorem replayable_run {s : Session A} (hsteady : Evaluator.Steady s.loader.engine.evaluate)
    (hr : s.loader.registry.Replayable s.loader.engine) (calls : List (Call A)) :
    (s.run calls).loader.registry.Replayable s.loader.engine := by
  induction calls generalizing s with
  | nil => exact hr
  | cons c cs ih =>
      have hcall := replayable_call hsteady hr c
      rw [← s.engine_call c] at hcall hsteady ⊢
      exact ih hsteady hcall

/-- The first type under a tag stays, and the registry can be made again from the definitions that
were kept. Whatever a loader has been asked to do, a definition is kept for each tag, in the order
of the tags, and makes the type of the tag where the tags before it have types. Whatever it is asked
to do from then on, short of a reset, what is kept under a tag stays, however the tag is spelt, and
each definition of that tag ends as failed. -/
theorem run_registered (config : Config A) (calls more : List (Call A))
    (hmore : ∀ c ∈ more, c ≠ .reset) :
    let s := (start config .standard).run calls
    let later := s.run more
    s.loader.registry.imported.keys = s.loader.registry.names ∧
    (∀ before tag after, s.loader.registry.names = before ++ tag :: after → ∃ t root,
      s.loader.registry.get? tag = some t ∧ s.loader.registry.imported? tag = some root ∧
        Makes .standard before root t) ∧
    ∀ tag ∈ s.loader.registry.names,
      (∀ spelling, Text.sameName spelling tag = true →
        later.loader.registry.get? spelling = s.loader.registry.get? tag ∧
          later.loader.registry.imported? spelling = s.loader.registry.imported? tag) ∧
      ∀ key root, (key, root) ∈ s.loader.resolved (s.acts more) →
        Text.sameName root.tag tag = true → later.loader.state? key = some .failed := by
  intro s later
  have hengine : s.loader.engine = .standard := engine_run _ calls
  have hsteady : Evaluator.Steady s.loader.engine.evaluate := hengine ▸ fun _ _ _ => rfl
  have hreplay : s.loader.registry.Replayable .standard :=
    replayable_run (s := start config .standard) (fun _ _ _ => rfl)
      (Registry.replayable_empty .standard) calls
  have hr : s.loader.registry.Replayable s.loader.engine := hengine ▸ hreplay
  obtain ⟨made, hc, -⟩ := run_accounted (start_accounted config .standard) calls
  have hlater : later.loader = s.loader.performAll (s.acts more) := s.loader_run hmore
  refine ⟨hr.imported_keys, ?_, fun tag htag => ⟨fun spelling hspelling => ?_, ?_⟩⟩
  · exact hreplay.makes
  · have hkept := (replayable_performAll hsteady hr (s.acts more)).2 tag
      (Registry.contains_of_mem_names hr htag)
    rw [Registry.get?, Registry.imported?, Text.sameName_iff.1 hspelling, hlater]
    exact hkept
  · intro key root hroot hname
    rw [hlater]
    refine (lost_of_mem_resolved hc hsteady hr hroot ?_).state
    rw [Registry.contains, Text.sameName_iff.1 hname]
    exact Registry.contains_of_mem_names hr htag

def holding (nodes : List Markup.Node) : Element := ⟨"component", [], nodes⟩

/-- A type is registered, and another whose definition has an element of the first, which so
declares nothing. Then a definition of the first tag in upper case fails and leaves it alone. -/
theorem run_registered_again :
    let first := holding (forest "<x-a><n>1</n></x-a>")
    let second := holding (forest "<x-b><x-a>2</x-a></x-b>")
    let again := holding [.element "X-A" [] []]
    let s := (start (.default : Config Url.Address) .standard).run [.discover [first, second]]
    let later := s.run [.discover [again]]
    (∀ c ∈ [Call.discover (A := Url.Address) [again]], c ≠ .reset) ∧
      s.loader.registry.names = ["x-a", "x-b"] ∧
      (∃ t root, s.loader.registry.get? "x-b" = some t ∧
        s.loader.registry.imported? "x-b" = some root ∧ Makes .standard ["x-a"] root t) ∧
      later.loader.registry.get? "X-A" = s.loader.registry.get? "x-a" ∧
      later.loader.state? "inline#2" = some .failed := by
  intro first second again s later
  have hmore : ∀ c ∈ [Call.discover (A := Url.Address) [again]], c ≠ .reset := by simp
  have hnames : s.loader.registry.names = ["x-a", "x-b"] := by decide +kernel
  obtain ⟨-, hmakes, hstays⟩ :=
    run_registered .default [.discover [first, second]] [.discover [again]] hmore
  have hsecond := hmakes ["x-a"] "x-b" [] hnames
  have hdefined : "x-a" ∈ s.loader.registry.names := by rw [hnames]; simp
  obtain ⟨hspelt, hfails⟩ := hstays "x-a" hdefined
  have hroot : ("inline#2", "X-A") ∈ (s.loader.resolved (s.acts [.discover [again]])).map
      fun found => (found.1, found.2.tag) := by decide +kernel
  obtain ⟨⟨key, root⟩, hmem, heq⟩ := List.mem_map.1 hroot
  obtain ⟨hkey, htag⟩ := Prod.mk.inj heq
  have hfailed := hfails key root hmem (by rw [htag]; decide +kernel)
  exact ⟨hmore, hnames, hsecond, (hspelt "X-A" (by decide +kernel)).1, hkey ▸ hfailed⟩

end Session

end Componentry
