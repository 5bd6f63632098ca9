import Componentry.Proofs.Declaration.Steady
import Componentry.Proofs.Loading.Completion

/-!
# The order of answers

Definitions are independent if their tags differ and none has a child element with the tag of
another. What comes of one is then the same whether or not others have been registered before:
`received_congr` says what it depends on, and `Settled.resultOf_eq` that the others leave it alone.
So a loader in which some fetches have completed is the loader before with what comes of each of
them noted (`Settled`), and no order is left in that. `run_alike` draws the conclusion for the calls
of a session.
-/

namespace Componentry

open Markup Loader

variable {A : Type}

def definition? : Except LoadError String → Option Element
  | .ok text => (definitionRoot (forest text)).toOption
  | .error _ => none

/-- The definitions that the fetches with some keys are answered with have different tags, and none
has a child element with the tag of another. -/
def Independent (results : Results) (keys : List String) : Prop :=
  ∀ key ∈ keys, ∀ key' ∈ keys, key ≠ key' →
    ∀ root ∈ definition? (results key), ∀ root' ∈ definition? (results key'),
      Text.sameName root.tag root'.tag = false ∧
        ∀ child ∈ root.childElements, child.tag ≠ root'.tag

instance (results : Results) (keys : List String) : Decidable (Independent results keys) :=
  inferInstanceAs (Decidable (∀ key ∈ keys, ∀ key' ∈ keys, key ≠ key' →
    ∀ root ∈ definition? (results key), ∀ root' ∈ definition? (results key'),
      Text.sameName root.tag root'.tag = false ∧
        ∀ child ∈ root.childElements, child.tag ≠ root'.tag))

theorem Independent.mono {results : Results} {keys keys' : List String}
    (h : Independent results keys) (hkeys : ∀ key ∈ keys', key ∈ keys) :
    Independent results keys' :=
  fun key hkey key' hkey' => h key (hkeys key hkey) key' (hkeys key' hkey')

theorem lowered_of_definitionRoot {nodes : List Node} {root : Element}
    (h : definitionRoot nodes = .ok root) (hnodes : ∀ n ∈ nodes, n.Lowered) :
    root.node.Lowered := by
  unfold definitionRoot firstElement? at h
  cases hfirst : nodes.findSome? Node.element? with
  | none =>
      rw [hfirst] at h
      exact nomatch h
  | some e =>
      obtain ⟨n, hn, helement⟩ := List.exists_of_findSome?_eq_some hfirst
      cases hnodes n hn with
      | text | comment => exact nomatch helement
      | element htag hchildren =>
          cases helement
          rw [hfirst] at h
          simp only at h
          split at h
          · split at h
            · cases h
              exact .element (Text.lower_lower _) hchildren
            · exact nomatch h
          · split at h
            · cases h
              exact .element htag hchildren
            · exact nomatch h

theorem eq_ok_of_toOption {ε α : Type} {r : Except ε α} {a : α} (h : r.toOption = some a) :
    r = .ok a := by
  cases r with
  | error e => exact nomatch h
  | ok b => exact congrArg Except.ok (Option.some_inj.1 h)

theorem lowered_definition {answer : Except LoadError String} {root : Element}
    (h : definition? answer = some root) : root.node.Lowered := by
  cases answer with
  | error e => exact nomatch h
  | ok text => exact lowered_of_definitionRoot (eq_ok_of_toOption h) (lowered_forest text)

theorem Registry.contains_lower (r : Registry) (tag : String) :
    r.contains (Text.lower tag) = r.contains tag := by
  rw [contains, contains, Text.lower_lower]

namespace Loader

variable {engine : Script.Engine} {registry registry' : Registry}

/-- A type has the tag of the definition that it was made from. -/
theorem tag_of_extract_synthesize {isDefined : String → Bool} {root : Element}
    {lines lines' : List String} {definition : Definition} {t : ElementType}
    (hx : extract engine.evaluate isDefined root lines = (.ok definition, lines'))
    (hs : synthesize engine definition = .ok t) : t.tag = Text.lower root.tag := by
  rw [tag_of_synthesize hs, tag_of_extract hx]

theorem outcome_eq_ok {nodes : List Node} {lines : List String} {t : ElementType} {root : Element}
    (h : (outcome engine registry nodes lines).1 = .ok (t, root)) :
    definitionRoot nodes = .ok root ∧ t.tag = Text.lower root.tag := by
  obtain ⟨hroot, -, definition, lines', hx, hs⟩ := of_outcome_eq_ok h
  exact ⟨hroot, tag_of_extract_synthesize hx hs⟩

/-- What comes of a definition depends on whether its own tag and those of its child elements have
types; on no other tag, and on no line that was logged. -/
theorem outcome_congr (hsteady : Evaluator.Steady engine.evaluate) {nodes : List Node}
    (h : ∀ root, definitionRoot nodes = .ok root →
      registry.contains root.tag = registry'.contains root.tag ∧
        ∀ child ∈ root.childElements,
          registry.contains child.tag = registry'.contains child.tag)
    (lines lines' : List String) :
    (outcome engine registry nodes lines).1 = (outcome engine registry' nodes lines').1 := by
  unfold outcome
  cases hroot : definitionRoot nodes with
  | error e => rfl
  | ok root =>
      obtain ⟨htag, hchildren⟩ := h root hroot
      have hextract := extract_congr hsteady hchildren lines lines'
      rcases hx : extract engine.evaluate registry.contains root lines with ⟨r, lines₁⟩
      rcases hx' : extract engine.evaluate registry'.contains root lines' with ⟨r', lines₁'⟩
      rw [hx, hx'] at hextract
      cases hextract
      cases r with
      | error e => simp only [hx, hx']
      | ok definition =>
          simp only [hx, hx']
          cases hs : synthesize engine definition with
          | error e => rfl
          | ok t =>
              have hcontains : registry.contains t.tag = registry'.contains t.tag := by
                rw [tag_of_extract_synthesize hx hs, Registry.contains_lower,
                  Registry.contains_lower, htag]
              simp only [registry_define, hcontains]
              cases registry'.contains t.tag with
              | true => rfl
              | false => rfl

theorem received_eq_ok {lines : List String} {answer : Except LoadError String} {t : ElementType}
    {root : Element} (h : (received engine registry lines answer).1 = .ok (t, root)) :
    definition? answer = some root ∧ t.tag = Text.lower root.tag := by
  cases answer with
  | error e => exact nomatch h
  | ok text =>
      obtain ⟨hroot, htag⟩ := outcome_eq_ok h
      rw [definition?, hroot]
      exact ⟨rfl, htag⟩

theorem received_congr (hsteady : Evaluator.Steady engine.evaluate)
    {answer : Except LoadError String}
    (h : ∀ root ∈ definition? answer,
      registry.contains root.tag = registry'.contains root.tag ∧
        ∀ child ∈ root.childElements,
          registry.contains child.tag = registry'.contains child.tag)
    (lines lines' : List String) :
    (received engine registry lines answer).1 = (received engine registry' lines' answer).1 := by
  cases answer with
  | error e => rfl
  | ok text =>
      refine outcome_congr hsteady (fun root hroot => h root ?_) lines lines'
      rw [definition?, hroot]
      rfl

variable {results : Results} {keys : List String} {l l' l₀ : Loader A} {key : String}

def entered {α : Type} (m : KeyedList α) (value : ElementType × Element → α) :
    Result → KeyedList α
  | .ok made => m.insert (Text.lower made.1.tag) (value made)
  | .error _ => m

theorem defined_noted (key : String) (l : Loader A) (r : Result) :
    (noted key l r).registry.defined = entered l.registry.defined Prod.fst r := by
  cases r <;> rfl

theorem imported_noted_eq (key : String) (l : Loader A) (r : Result) :
    (noted key l r).registry.imported = entered l.registry.imported Prod.snd r := by
  cases r <;> rfl

/-- The registry has what it had and what the result brings. -/
theorem find?_entered {α : Type} {m : KeyedList α} {value : ElementType × Element → α} {r : Result}
    (hadm : Admissible registry r) (hkeys : m.keys = registry.names) (tag : String) (v : α) :
    (entered m value r).find? tag = some v ↔
      m.find? tag = some v ∨
        ∃ made, r = .ok made ∧ Text.lower made.1.tag = tag ∧ value made = v := by
  cases r with
  | error e => simp [entered]
  | ok made =>
      have hnew : Text.lower made.1.tag ∉ m.keys := by
        rw [hkeys]
        exact fun hm => Bool.eq_false_iff.1 hadm.1 (KeyedList.contains_iff.2 hm)
      refine (KeyedList.find?_insert_eq_some_iff hnew _ v tag).trans (or_congr_right ?_)
      constructor
      · exact fun h => ⟨made, rfl, h⟩
      · rintro ⟨made', heq, h⟩
        cases heq
        exact h

/-- What comes of the fetch with a key if it is the first to be answered. -/
def resultOf (l : Loader A) (results : Results) (key : String) : Result :=
  (received l.engine l.registry l.lines (results key)).1

def failureOf? : Result → Option LoadError
  | .ok _ => none
  | .error e => some e

theorem failure?_noted (key : String) (l : Loader A) (r : Result) (k : String) :
    (noted key l r).registry.failure? k =
      if k = key then (failureOf? r).or (l.registry.failure? k) else l.registry.failure? k := by
  split
  · next hk =>
    subst hk
    cases r with
    | error e => exact failure?_noted_error k l e
    | ok made => rfl
  · next hk => exact failure?_noted_of_ne hk l r

/-- The loader `l` is the loader `l₀` with what comes of the fetches with some keys. -/
structure Settled (results : Results) (l₀ : Loader A) (keys : List String) (l : Loader A) :
    Prop where
  engine_eq : l.engine = l₀.engine
  imported_keys : l.registry.imported.keys = l.registry.names
  state?_eq : ∀ key, l.state? key =
    if key ∈ keys then some (concluded (l₀.resultOf results key)) else l₀.state? key
  failure?_eq : ∀ key, l.registry.failure? key =
    if key ∈ keys then (failureOf? (l₀.resultOf results key)).or (l₀.registry.failure? key)
    else l₀.registry.failure? key
  defined_iff : ∀ tag t, l.registry.defined.find? tag = some t ↔
    l₀.registry.defined.find? tag = some t ∨ ∃ key ∈ keys, ∃ made,
      l₀.resultOf results key = .ok made ∧ Text.lower made.1.tag = tag ∧ made.1 = t
  imported_iff : ∀ tag root, l.registry.imported.find? tag = some root ↔
    l₀.registry.imported.find? tag = some root ∨ ∃ key ∈ keys, ∃ made,
      l₀.resultOf results key = .ok made ∧ Text.lower made.1.tag = tag ∧ made.2 = root

/-- Two loaders with the same states, and with registries that are the same up to the order of their
entries. -/
structure Alike (l l' : Loader A) : Prop where
  state?_eq : ∀ key, l.state? key = l'.state? key
  defined_eq : ∀ tag, l.registry.defined.find? tag = l'.registry.defined.find? tag
  imported_eq : ∀ tag, l.registry.imported.find? tag = l'.registry.imported.find? tag
  failed_eq : ∀ key, l.registry.failed.find? key = l'.registry.failed.find? key

namespace Settled

theorem start (h : l₀.registry.imported.keys = l₀.registry.names) (results : Results) :
    Settled results l₀ [] l₀ where
  engine_eq := rfl
  imported_keys := h
  state?_eq := fun _ => rfl
  failure?_eq := fun _ => rfl
  defined_iff := by simp
  imported_iff := by simp

/-- A tag that no completed definition has got keeps being defined or not. -/
theorem contains_eq (h : Settled results l₀ keys l) {tag : String}
    (hother : ∀ key ∈ keys, ∀ root ∈ definition? (results key),
      Text.lower root.tag ≠ Text.lower tag) :
    l.registry.contains tag = l₀.registry.contains tag := by
  have hfind : ∀ t, l.registry.defined.find? (Text.lower tag) = some t ↔
      l₀.registry.defined.find? (Text.lower tag) = some t := by
    intro t
    rw [h.defined_iff]
    refine or_iff_left ?_
    rintro ⟨key, hkey, made, hresult, htag, -⟩
    obtain ⟨hroot, heq⟩ := received_eq_ok hresult
    rw [heq, Text.lower_lower] at htag
    exact hother key hkey made.2 hroot htag
  rw [Registry.contains, Registry.contains, ← KeyedList.isSome_find?, ← KeyedList.isSome_find?,
    Option.ext hfind]

/-- What comes of a definition is the same before and after others of which it is independent. -/
theorem resultOf_eq (h : Settled results l₀ keys l)
    (hsteady : Evaluator.Steady l₀.engine.evaluate) (hkey : key ∉ keys)
    (hind : Independent results (key :: keys)) :
    l.resultOf results key = l₀.resultOf results key := by
  unfold resultOf
  rw [h.engine_eq]
  refine received_congr hsteady (fun root hroot => ?_) l.lines l₀.lines
  have hlowered := lowered_definition hroot
  have hdiffer : ∀ k ∈ keys, ∀ root' ∈ definition? (results k),
      Text.sameName root.tag root'.tag = false ∧
        ∀ child ∈ root.childElements, child.tag ≠ root'.tag := fun k hk =>
    hind key List.mem_cons_self k (List.mem_cons_of_mem key hk) (fun heq => hkey (heq ▸ hk)) root
      hroot
  constructor
  · refine h.contains_eq fun k hk root' hroot' hlower => ?_
    have hsame := Text.sameName_iff.2 hlower.symm
    rw [(hdiffer k hk root' hroot').1] at hsame
    exact Bool.noConfusion hsame
  · intro child hchild
    refine h.contains_eq fun k hk root' hroot' hlower => ?_
    have hroot'' : Text.lower root'.tag = root'.tag := by
      cases lowered_definition hroot' with
      | element htag _ => exact htag
    rw [hroot'', lower_tag_of_mem_childElements hlowered hchild] at hlower
    exact (hdiffer k hk root' hroot').2 child hchild hlower.symm

theorem of_records (h : Settled results l₀ keys l) (left : List (Fetch A))
    (requests lines : List String) :
    Settled results l₀ keys { l with pending := left, requests, lines } := { h with }

/-- What comes of one more fetch is noted. -/
theorem noted (h : Settled results l₀ keys l) (hkey : key ∉ keys)
    (hadm : Admissible l.registry (l₀.resultOf results key)) :
    Settled results l₀ (key :: keys) (Loader.noted key l (l₀.resultOf results key)) where
  engine_eq := (engine_noted key l _).trans h.engine_eq
  imported_keys := imported_noted h.imported_keys
  state?_eq := by
    intro k
    rw [state?_noted]
    by_cases hk : k = key
    · subst hk
      rw [if_pos rfl, if_pos List.mem_cons_self]
    · simp only [hk, if_false, List.mem_cons, false_or]
      exact h.state?_eq k
  failure?_eq := by
    intro k
    have hbefore := h.failure?_eq k
    rw [failure?_noted]
    by_cases hk : k = key
    · subst hk
      rw [if_neg hkey] at hbefore
      rw [if_pos rfl, if_pos List.mem_cons_self, hbefore]
    · simp only [hk, if_false, List.mem_cons, false_or]
      exact hbefore
  defined_iff := by
    intro tag t
    rw [List.exists_mem_cons_iff, defined_noted, find?_entered hadm rfl, h.defined_iff]
    exact or_right_comm.trans or_assoc
  imported_iff := by
    intro tag root
    rw [List.exists_mem_cons_iff, imported_noted_eq, find?_entered hadm h.imported_keys,
      h.imported_iff]
    exact or_right_comm.trans or_assoc

/-- One more fetch is answered. -/
theorem settle (h : Settled results l₀ keys l) (hsteady : Evaluator.Steady l₀.engine.evaluate)
    (hkey : key ∉ keys) (hind : Independent results (key :: keys)) :
    Settled results l₀ (key :: keys) (Loader.settle key (results key) l).2 := by
  have hresult : (received l.engine l.registry l.lines (results key)).1 =
      l₀.resultOf results key := h.resultOf_eq hsteady hkey hind
  have hadm : Admissible l.registry (l₀.resultOf results key) :=
    hresult ▸ received_admissible l.engine l.registry l.lines (results key)
  rw [settle_eq, hresult]
  exact (h.of_records l.pending l.requests _).noted hkey hadm

/-- Any number of fetches are answered. -/
theorem completes {order : List String} (hcompletes : Completes results l order l')
    (h : Settled results l₀ keys l) (hsteady : Evaluator.Steady l₀.engine.evaluate)
    (hnodup : (order.reverse ++ keys).Nodup) (hind : Independent results (order.reverse ++ keys)) :
    Settled results l₀ (order.reverse ++ keys) l' := by
  -- The fetches that are answered move from those to come to those before.
  induction hcompletes generalizing keys with
  | none l => exact h
  | wait requests _ _ ih => exact ih (h.of_records _ requests _) hnodup hind
  | @settle l l' before after left f order requests _ _ _ ih =>
      rw [List.reverse_cons, List.append_assoc, List.singleton_append] at hnodup hind ⊢
      have hrest : ∀ key ∈ f.key :: keys, key ∈ order.reverse ++ f.key :: keys :=
        fun _ => List.mem_append_right order.reverse
      have hkey : f.key ∉ keys := (List.nodup_cons.1 (List.nodup_append.1 hnodup).2.1).1
      have hone := (h.of_records left requests l.lines).settle hsteady hkey (hind.mono hrest)
      exact ih hone hnodup hind

/-- Which fetches have completed decides all. -/
theorem alike {keys' : List String} (h : Settled results l₀ keys l)
    (h' : Settled results l₀ keys' l') (hkeys : ∀ key, key ∈ keys ↔ key ∈ keys') :
    Alike l l' where
  state?_eq := by
    intro key
    rw [h.state?_eq, h'.state?_eq]
    simp only [hkeys]
  defined_eq := by
    intro tag
    refine Option.ext fun t => ?_
    rw [h.defined_iff, h'.defined_iff]
    simp only [hkeys]
  imported_eq := by
    intro tag
    refine Option.ext fun root => ?_
    rw [h.imported_iff, h'.imported_iff]
    simp only [hkeys]
  failed_eq := by
    intro key
    refine (h.failure?_eq key).trans (Eq.trans ?_ (h'.failure?_eq key).symm)
    simp only [hkeys]

end Settled

end Loader

namespace Session

variable [Addressing A]

/-- Calls that wait for some fetches complete them. -/
theorem Awaits.settled {s : Session A} (hs : s.Accounted) {results : Results} {keys : List String}
    {calls : List (Call A)} (h : s.Awaits results keys calls)
    (hsteady : Evaluator.Steady s.loader.engine.evaluate) (hind : Independent results keys) :
    ∃ keys', (∀ key, key ∈ keys' ↔ key ∈ s.loader.pending.map Fetch.key ∧ key ∈ keys) ∧
      Settled results s.loader keys' (s.run calls).loader := by
  obtain ⟨made, hcoherent, -⟩ := hs
  obtain ⟨order, hcompletes⟩ := run_completes h.delivers s
  have hleft := hcompletes.left_iff hcoherent.nodup_pending
  have hmem : ∀ key, key ∈ order.reverse ++ [] ↔
      key ∈ s.loader.pending.map Fetch.key ∧ key ∈ keys := by
    intro key
    have hpending : key ∈ order → key ∈ s.loader.pending.map Fetch.key := fun hkey =>
      hcompletes.perm.mem_iff.1 (List.mem_append_left _ hkey)
    have hiff := (hleft key).symm.trans (h.left_iff key)
    rw [List.append_nil, List.mem_reverse]
    tauto
  refine ⟨order.reverse ++ [], hmem, ?_⟩
  refine Settled.completes hcompletes (Settled.start hcoherent.imported_eq results) hsteady ?_
    (hind.mono fun key hkey => ((hmem key).1 hkey).2)
  rw [List.append_nil, List.nodup_reverse]
  exact hcompletes.nodup_order hcoherent.nodup_pending

/-- In whatever order the fetches of independent definitions complete, the loader ends with the same
states and, up to the order of entries, the same registry. -/
theorem run_alike (config : Config A) (calls : List (Call A)) {results : Results}
    {keys : List String} {first second : List (Call A)} (hind : Independent results keys)
    (hfirst : ((start config .standard).run calls).Awaits results keys first)
    (hsecond : ((start config .standard).run calls).Awaits results keys second) :
    Alike (((start config .standard).run calls).run first).loader
      (((start config .standard).run calls).run second).loader := by
  have hs := run_accounted (start_accounted config .standard) calls
  have hsteady : Evaluator.Steady ((start config .standard).run calls).loader.engine.evaluate := by
    rw [engine_run]
    exact fun _ _ _ => rfl
  obtain ⟨keys₁, hkeys₁, hsettled₁⟩ := hfirst.settled hs hsteady hind
  obtain ⟨keys₂, hkeys₂, hsettled₂⟩ := hsecond.settled hs hsteady hind
  exact hsettled₁.alike hsettled₂ fun key => (hkeys₁ key).trans (hkeys₂ key).symm

def linked (address : String) : Element :=
  ⟨"component", [⟨"src", some address⟩, ⟨"cors", some "true"⟩], []⟩

def library : Results
  | "lib:a" => .ok "<x-a><y>1</y></x-a>"
  | "lib:b" => .ok "<x-b><x-c></x-c></x-b>"
  | key => .error (.fetchFailed key "not found")

/-- Three fetches complete in the order of their components or the other way round. The types are
registered in different orders, and that is all the difference. -/
theorem run_alike_library :
    let s := (start (.default : Config Url.Address) .standard).run
      [.discover (["lib:a", "lib:b", "lib:c"].map linked)]
    let forward := s.run (inOrder library ["lib:a", "lib:b", "lib:c"])
    let backward := s.run (inOrder library ["lib:c", "lib:b", "lib:a"])
    Alike forward.loader backward.loader ∧
      forward.loader.registry.names = ["x-a", "x-b"] ∧
      backward.loader.registry.names = ["x-b", "x-a"] := by
  intro s forward backward
  have hs : s.Accounted := run_accounted (start_accounted .default .standard) _
  have hpending : s.loader.pending.map Fetch.key = ["lib:a", "lib:b", "lib:c"] := by
    decide +kernel
  have hkeys : ∀ key ∈ ["lib:a", "lib:b", "lib:c"], key ∈ s.loader.pending.map Fetch.key := by
    rw [hpending]
    exact fun _ => id
  have hind : Independent library ["lib:a", "lib:b", "lib:c"] := by decide +kernel
  have hfirst : s.Awaits library ["lib:a", "lib:b", "lib:c"]
      (inOrder library ["lib:a", "lib:b", "lib:c"]) :=
    awaits_inOrder hs (List.Perm.refl _) (by decide) hkeys
  have hsecond : s.Awaits library ["lib:a", "lib:b", "lib:c"]
      (inOrder library ["lib:c", "lib:b", "lib:a"]) :=
    awaits_inOrder hs (List.reverse_perm ["lib:a", "lib:b", "lib:c"]) (by decide) hkeys
  exact ⟨run_alike .default _ hind hfirst hsecond, by decide +kernel, by decide +kernel⟩

end Session

end Componentry
