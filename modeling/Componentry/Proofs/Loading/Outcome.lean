import Componentry.Loading.Loader
import Componentry.Proofs.Markup.LowerCase

/-!
# What the steps of a loader do

The steps of a loader are written one after the other; here each is one equation on the loader
before and after. `Loader.outcome` says what comes of the definition in some markup, and reads
nothing but the registry, the engine and the lines logged; `Loader.noted` is the loader that has
taken note of it. So `load_eq` puts a whole load together, `discoverOne_inline`,
`discoverOne_external` and `discoverOne_unusable` what is done for a component found, and
`settle_eq` what is done for an answer.
-/

namespace Componentry

open Markup

variable {A : Type}

namespace Loader

/-- What came of a definition: the type to register and the definition it was made from. -/
abbrev Result := Except LoadError (ElementType × Element)

/-- What comes of the definition in some markup, and the lines logged by then. -/
def outcome (engine : Script.Engine) (registry : Registry) (nodes : List Node)
    (lines : List String) : Result × List String :=
  match definitionRoot nodes with
  | .error e => (.error e, lines)
  | .ok root =>
    match extract engine.evaluate registry.contains root lines with
    | (.error e, lines) => (.error (.declaration e), lines)
    | (.ok definition, lines) =>
      match synthesize engine definition with
      | .error e => (.error (.synthesis e), lines)
      | .ok t =>
        match registry.define t with
        | .error e => (.error (.registry e), lines)
        | .ok _ => (.ok (t, root), lines)

def summaryOf (key : String) : Result → Summary
  | .ok (t, _) => ⟨[t.tag], []⟩
  | .error _ => ⟨[], [key]⟩

/-- The loader that has taken note of what came of the definition with a key. -/
def noted (key : String) (l : Loader A) : Result → Loader A
  | .ok (t, root) =>
    { l with
      states := l.states.insert key .registered
      registry := { l.registry with
        defined := l.registry.defined.insert (Text.lower t.tag) t
        imported := l.registry.imported.insert (Text.lower t.tag) root } }
  | .error e =>
    { l with
      states := l.states.insert key .failed
      reports := l.reports ++ [(key, e)]
      registry := l.registry.recordFailure key e }

def concluded : Result → LoadState
  | .ok _ => .registered
  | .error _ => .failed

@[simp] theorem states_noted (key : String) (l : Loader A) (r : Result) :
    (noted key l r).states = l.states.insert key (concluded r) := by
  cases r <;> rfl

@[simp] theorem pending_noted (key : String) (l : Loader A) (r : Result) :
    (noted key l r).pending = l.pending := by
  cases r <;> rfl

@[simp] theorem inlineCount_noted (key : String) (l : Loader A) (r : Result) :
    (noted key l r).inlineCount = l.inlineCount := by
  cases r <;> rfl

@[simp] theorem engine_noted (key : String) (l : Loader A) (r : Result) :
    (noted key l r).engine = l.engine := by
  cases r <;> rfl

@[simp] theorem config_noted (key : String) (l : Loader A) (r : Result) :
    (noted key l r).config = l.config := by
  cases r <;> rfl

theorem concluded_ne_loading (r : Result) : concluded r ≠ .loading := by
  cases r <;> exact LoadState.noConfusion

variable {α β : Type}

theorem bind_apply (m : Loading A α) (f : α → Loading A β) (l : Loader A) :
    (m >>= f) l = f (m l).1 (m l).2 := rfl

theorem pure_apply (a : α) (l : Loader A) : (pure a : Loading A α) l = (a, l) := rfl

theorem get_apply (l : Loader A) : (get : Loading A (Loader A)) l = (l, l) := rfl

theorem set_apply (l l' : Loader A) : (set l' : Loading A PUnit) l = (⟨⟩, l') := rfl

theorem modify_apply (f : Loader A → Loader A) (l : Loader A) :
    (modify f : Loading A PUnit) l = (⟨⟩, f l) := rfl

theorem transition_apply (key : String) (s : LoadState) (l : Loader A) :
    transition key s l = ((), { l with states := l.states.insert key s }) := rfl

theorem conclude_ok (key : String) (t : ElementType) (l : Loader A) :
    conclude key (.ok t) l =
      (⟨[t.tag], []⟩, { l with states := l.states.insert key .registered }) := rfl

theorem conclude_error (key : String) (e : LoadError) (l : Loader A) :
    conclude key (.error e) l = (summaryOf key (.error e), noted key l (.error e)) := rfl

theorem registry_define (r : Registry) (t : ElementType) :
    r.define t = if r.contains t.tag then .error (.alreadyDefined (Text.lower t.tag))
      else .ok { r with defined := r.defined.insert (Text.lower t.tag) t } := rfl

/-- What the definition came to passes through the state `parsed` unless reading it failed. -/
theorem noted_insert (key : String) (s : LoadState) (l : Loader A) (r : Result) :
    noted key { l with states := l.states.insert key s } r = noted key l r := by
  cases r with
  | error e => simp [noted]
  | ok made => simp [noted]

/-- A load ends with its outcome noted. -/
theorem load_eq (key : String) (nodes : List Node) (l : Loader A) :
    load key nodes l =
      (summaryOf key (outcome l.engine l.registry nodes l.lines).1,
        noted key { l with lines := (outcome l.engine l.registry nodes l.lines).2 }
          (outcome l.engine l.registry nodes l.lines).1) := by
  unfold load outcome
  cases hroot : definitionRoot nodes with
  | error e => rfl
  | ok root =>
      simp only [bind_apply, define, get_apply]
      cases hx : extract l.engine.evaluate l.registry.contains root l.lines with
      | mk extracted lines =>
          cases extracted with
          | error e => rfl
          | ok definition =>
              simp only [bind_apply, set_apply, transition_apply]
              cases hs : synthesize l.engine definition with
              | error e =>
                  simp only [pure_apply, conclude_error]
                  rw [noted_insert key .parsed { l with lines }]
              | ok t =>
                  simp only [registry_define]
                  by_cases hc : l.registry.contains t.tag = true
                  · simp only [hc, if_true, pure_apply, conclude_error]
                    rw [noted_insert key .parsed { l with lines }]
                  · simp only [hc, Bool.false_eq_true, if_false, bind_apply, modify_apply,
                      pure_apply, conclude_ok, summaryOf, noted, Registry.recordImport,
                      KeyedList.insert_insert]

/-- What the registry asks of a type: that its tag is in lower case and not taken. -/
def Admissible (registry : Registry) : Result → Prop
  | .ok (t, _) => registry.contains t.tag = false ∧ Text.lower t.tag = t.tag
  | .error _ => True

theorem names_noted {key : String} {l : Loader A} {r : Result} (h : Admissible l.registry r) :
    (noted key l r).registry.names = l.registry.names ++ (summaryOf key r).registered := by
  cases r with
  | error e => exact (List.append_nil _).symm
  | ok made =>
      have hnew : Text.lower made.1.tag ∉ l.registry.defined.keys :=
        fun hm => Bool.eq_false_iff.1 h.1 (KeyedList.contains_iff.2 hm)
      calc (l.registry.defined.insert (Text.lower made.1.tag) made.1).keys
          = l.registry.defined.keys ++ [Text.lower made.1.tag] := by
            rw [KeyedList.keys_insert, if_neg hnew]
        _ = l.registry.defined.keys ++ [made.1.tag] := by rw [h.2]

theorem imported_noted {key : String} {l : Loader A} {r : Result}
    (h : l.registry.imported.keys = l.registry.names) :
    (noted key l r).registry.imported.keys = (noted key l r).registry.names := by
  cases r with
  | error e => exact h
  | ok made =>
      change (l.registry.imported.insert _ _).keys = (l.registry.defined.insert _ _).keys
      rw [KeyedList.keys_insert, KeyedList.keys_insert, h]
      rfl

theorem reports_noted (key : String) (l : Loader A) (r : Result) :
    (noted key l r).reports.map Prod.fst = l.reports.map Prod.fst ++ (summaryOf key r).failed := by
  cases r with
  | error e => exact List.map_append
  | ok made => exact (List.append_nil _).symm

theorem length_summaryOf (key : String) (r : Result) :
    (summaryOf key r).registered.length + (summaryOf key r).failed.length = 1 := by
  cases r <;> rfl

theorem failure?_noted_of_ne {key k : String} (h : k ≠ key) (l : Loader A) (r : Result) :
    (noted key l r).registry.failure? k = l.registry.failure? k := by
  cases r with
  | error e => exact KeyedList.find?_insert_of_ne e h
  | ok made => rfl

theorem failure?_noted_error (key : String) (l : Loader A) (e : LoadError) :
    (noted key l (.error e)).registry.failure? key = some e :=
  KeyedList.find?_insert_self l.registry.failed key e

theorem state?_noted (key : String) (l : Loader A) (r : Result) (k : String) :
    (noted key l r).state? k = if k = key then some (concluded r) else l.state? k := by
  rw [state?, states_noted]
  exact KeyedList.find?_insert l.states key (concluded r) k

theorem tag_of_synthesize {engine : Script.Engine} {definition : Definition} {t : ElementType}
    (h : synthesize engine definition = .ok t) : t.tag = Text.lower definition.element.tag := by
  unfold synthesize at h
  simp only [bind, Except.bind, pure, Except.pure] at h
  repeat' split at h
  all_goals first | contradiction | (cases h; rfl)

/-- A type comes of a definition that can be read, and of which a type can be made, under a tag that
is not taken. -/
theorem of_outcome_eq_ok {engine : Script.Engine} {registry : Registry} {nodes : List Node}
    {lines : List String} {made : ElementType × Element}
    (h : (outcome engine registry nodes lines).1 = .ok made) :
    definitionRoot nodes = .ok made.2 ∧ registry.contains made.1.tag = false ∧
      ∃ definition lines',
        extract engine.evaluate registry.contains made.2 lines = (.ok definition, lines') ∧
        synthesize engine definition = .ok made.1 := by
  unfold outcome at h
  split at h
  · cases h
  · next root hroot =>
    split at h
    · cases h
    · next definition lines' hx =>
      split at h
      · cases h
      · next t hs =>
        rw [registry_define] at h
        cases hc : registry.contains t.tag with
        | true =>
            rw [hc] at h
            cases h
        | false =>
            rw [hc] at h
            cases h
            exact ⟨hroot, hc, definition, lines', hx, hs⟩

theorem outcome_admissible (engine : Script.Engine) (registry : Registry) (nodes : List Node)
    (lines : List String) : Admissible registry (outcome engine registry nodes lines).1 := by
  cases h : (outcome engine registry nodes lines).1 with
  | error e => trivial
  | ok made =>
      obtain ⟨-, hnew, _, _, -, hs⟩ := of_outcome_eq_ok h
      exact ⟨hnew, by rw [tag_of_synthesize hs, Text.lower_lower]⟩

def received (engine : Script.Engine) (registry : Registry) (lines : List String) :
    Except LoadError String → Result × List String
  | .ok text => outcome engine registry (forest text) lines
  | .error e => (.error e, lines)

theorem received_admissible (engine : Script.Engine) (registry : Registry) (lines : List String)
    (answer : Except LoadError String) :
    Admissible registry (received engine registry lines answer).1 := by
  cases answer with
  | error e => trivial
  | ok text => exact outcome_admissible engine registry (forest text) lines

/-- An answer ends with what comes of it noted. -/
theorem settle_eq (key : String) (answer : Except LoadError String) (l : Loader A) :
    settle key answer l =
      (summaryOf key (received l.engine l.registry l.lines answer).1,
        noted key { l with lines := (received l.engine l.registry l.lines answer).2 }
          (received l.engine l.registry l.lines answer).1) := by
  cases answer with
  | error e => rfl
  | ok text => exact load_eq key (forest text) l

variable [Addressing A]

theorem discoverOne_inline {component : Element} {l : Loader A}
    (h : sourceOf component l.config.base = .ok .inline) :
    discoverOne component l =
      load (inlineKey l.inlineCount) component.children
        { l with
          inlineCount := l.inlineCount + 1
          states := (l.states.insert (inlineKey l.inlineCount) .discovered).insert
            (inlineKey l.inlineCount) .loading } := by
  have hkey : l.keyFor component = inlineKey l.inlineCount := by
    unfold keyFor
    rw [h]
  simp only [discoverOne, bind_apply, get_apply, hkey, h, modify_apply, transition_apply]

theorem discoverOne_external {component : Element} {l : Loader A} {address : A}
    (h : sourceOf component l.config.base = .ok (.external address)) :
    discoverOne component l =
      (.empty,
        { l with
          states := l.states.insert (freshKey l.states.keys (Addressing.text address)) .loading
          pending := l.pending ++
            [⟨freshKey l.states.keys (Addressing.text address), address, false⟩] }) := by
  have hkey : l.keyFor component = freshKey l.states.keys (Addressing.text address) := by
    unfold keyFor
    rw [h]
  simp only [discoverOne, bind_apply, get_apply, hkey, h, modify_apply, transition_apply,
    pure_apply, KeyedList.insert_insert]

theorem discoverOne_unusable {component : Element} {l : Loader A} {e : LoadError}
    (h : sourceOf component l.config.base = .error e) :
    discoverOne component l =
      (summaryOf (freshKey l.states.keys (failureKey component e)) (.error e),
        noted (freshKey l.states.keys (failureKey component e)) l (.error e)) := by
  have hkey : l.keyFor component = freshKey l.states.keys (failureKey component e) := by
    unfold keyFor
    rw [h]
  simp only [discoverOne, bind_apply, get_apply, hkey, h, transition_apply, conclude_error]
  rw [noted_insert]

end Loader

end Componentry
