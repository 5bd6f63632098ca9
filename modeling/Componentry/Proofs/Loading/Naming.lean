import Componentry.Proofs.Loading.Session

/-!
# Whose key a key is

Each component should have a key of its own. Keys of addresses and of unusable sources are made
fresh, but the key of an inline definition is its number and nothing else. So two components share a
key in one case, and only in that: the text of an unusable source is the key of an inline definition
that is found later. Where that does not happen (`Finding.Apart`), nothing that is noted of a
component is overwritten.
-/

namespace Componentry

open Markup Loader

variable {A : Type}

namespace Finding

/-- The second component is not inline with a number that the first, found earlier, has taken the
key of. -/
def Apart (a b : Finding) : Prop :=
  ∀ n, a.origin = .unusable (inlineKey n) → b.origin ≠ .inline n

/-- What is known of the key of a component, by the number of inline definitions and the keys in
use. -/
def Shaped (count : Nat) (used : List String) (a : Finding) : Prop :=
  match a.origin with
  | .inline n => n < count ∧ a.key = inlineKey n
  | .external => ':' ∈ a.key.toList
  | .unusable text => text ∈ used ∧ (a.key = text ∨ ∃ n, a.key = numberedKey text n)

theorem Shaped.mono {count count' : Nat} {used used' : List String} {a : Finding}
    (h : Shaped count used a) (hcount : count ≤ count') (hused : used ⊆ used') :
    Shaped count' used' a := by
  unfold Shaped at h ⊢
  cases ha : a.origin with
  | inline n =>
      rw [ha] at h
      exact ⟨Nat.lt_of_lt_of_le h.1 hcount, h.2⟩
  | external =>
      rw [ha] at h
      exact h
  | unusable text =>
      rw [ha] at h
      exact ⟨hused h.1, h.2⟩

/-- The key of the next inline definition is in use only by an unusable source. -/
theorem Shaped.origin_of_key_eq {count : Nat} {used : List String} {a : Finding}
    (h : Shaped count used a) (hkey : a.key = inlineKey count) :
    a.origin = .unusable (inlineKey count) := by
  unfold Shaped at h
  cases ha : a.origin with
  | inline n =>
      rw [ha] at h
      have hn := inlineKey_injective (h.2.symm.trans hkey)
      exact absurd h.1 (hn ▸ Nat.lt_irrefl count)
  | external =>
      rw [ha, hkey] at h
      exact absurd h (colon_not_mem_inlineKey count)
  | unusable text =>
      rw [ha, hkey] at h
      rcases h.2 with htext | ⟨n, hn⟩
      · rw [htext]
      · exact absurd hn.symm (numberedKey_ne_inlineKey text n count)

end Finding

namespace Loader

structure Keyed (l : Loader A) (found : List Finding) : Prop where
  mem_keys : ∀ key, key ∈ l.states.keys ↔ key ∈ found.map Finding.key
  shaped : ∀ a ∈ found, a.Shaped l.inlineCount l.states.keys
  nodup_iff : (found.map Finding.key).Nodup ↔ found.Pairwise Finding.Apart
  keys_eq : (found.map Finding.key).Nodup → l.states.keys = found.map Finding.key
  failed_of_failure : (found.map Finding.key).Nodup → ∀ key,
    (l.registry.failure? key).isSome → l.state? key = some .failed

theorem keyed_of_empty {l : Loader A} (hstates : l.states = .empty)
    (hregistry : l.registry = .empty) :
    Keyed l [] where
  mem_keys := by simp [hstates]
  shaped := by simp
  nodup_iff := by simp
  keys_eq := by simp [hstates]
  failed_of_failure := by
    intro _ key h
    rw [hregistry] at h
    exact absurd h Bool.noConfusion

variable {l l' : Loader A} {h : History} {found found' : List Finding} {made : Summary}

/-- A result is noted under one key; nothing changes under the others. -/
theorem noted_key_cases {key k : String} {result : Result} (hstates : l'.states = l.states)
    (hregistry : l'.registry = l.registry)
    (hopen : l.state? key = none ∨ l.state? key = some .loading) :
    ((noted key l' result).state? k = l.state? k ∧
      (noted key l' result).registry.failure? k = l.registry.failure? k) ∨
    ((l.state? k = none ∨ l.state? k = some .loading) ∧
      ((noted key l' result).registry.failure? k = l.registry.failure? k ∨
        (noted key l' result).state? k = some .failed)) := by
  by_cases hk : k = key
  · refine Or.inr ⟨hk ▸ hopen, ?_⟩
    cases result with
    | ok made =>
        rw [← hregistry]
        exact Or.inl rfl
    | error e => exact Or.inr (by rw [state?_noted, if_pos hk]; rfl)
  · refine Or.inl ⟨?_, ?_⟩
    · rw [state?_noted, if_neg hk, state?, hstates]
      rfl
    · rw [failure?_noted_of_ne hk, hregistry]

/-- Where the keys of the components found are new, a step changes nothing under a key that has
been concluded, and records a failure only under a key that fails. -/
theorem Step.key_cases (hstep : Step l found made l') (hc : Coherent l h)
    (hnew : ∀ a ∈ found, a.key ∉ l.states.keys) (k : String) :
    (l'.state? k = l.state? k ∧ l'.registry.failure? k = l.registry.failure? k) ∨
    ((l.state? k = none ∨ l.state? k = some .loading) ∧
      (l'.registry.failure? k = l.registry.failure? k ∨ l'.state? k = some .failed)) := by
  have hnone : ∀ a ∈ found, l.state? a.key = none :=
    fun a ha => KeyedList.find?_eq_none_iff.2 (hnew a ha)
  cases hstep with
  | inline lines hadm =>
      exact noted_key_cases rfl rfl (Or.inl (hnone _ (List.mem_singleton_self _)))
  | external f hfree hcolon =>
      by_cases hk : k = f.key
      · refine Or.inr ⟨Or.inl ?_, Or.inl rfl⟩
        rw [hk]
        exact KeyedList.find?_eq_none_iff.2 hfree
      · have hother := KeyedList.find?_insert_of_ne (m := l.states) LoadState.loading hk
        exact Or.inl ⟨hother, rfl⟩
  | unusable text e =>
      exact noted_key_cases rfl rfl (Or.inl (hnone _ (List.mem_singleton_self _)))
  | settle requests lines hpending hleft hadm =>
      rename_i before after left f result
      have hmem : f.key ∈ l.pending.map Fetch.key := by
        rw [hpending]
        simp
      exact noted_key_cases rfl rfl (Or.inr ((hc.loading_iff f.key).2 hmem))
  | wait requests hleft => exact Or.inl ⟨rfl, rfl⟩

/-- So failures are recorded of what has failed alone. -/
theorem Step.failed_of_failure (hstep : Step l found made l') (hc : Coherent l h)
    (hnew : ∀ a ∈ found, a.key ∉ l.states.keys)
    (hfailed : ∀ key, (l.registry.failure? key).isSome → l.state? key = some .failed)
    (key : String) (hsome : (l'.registry.failure? key).isSome) :
    l'.state? key = some .failed := by
  rcases hstep.key_cases hc hnew key with ⟨hstate, hfailure⟩ | ⟨hopen, hfailure | hstate⟩
  · rw [hstate]
    exact hfailed key (hfailure ▸ hsome)
  · have hold := hfailed key (hfailure ▸ hsome)
    rcases hopen with hnone | hloading
    · exact nomatch hnone.symm.trans hold
    · exact nomatch hloading.symm.trans hold
  · exact hstate

namespace Keyed

theorem mem_append_singleton_iff {keys : List String} {key k : String} :
    k ∈ (if key ∈ keys then keys else keys ++ [key]) ↔ k ∈ keys ∨ k = key := by
  by_cases hkey : key ∈ keys
  · rw [if_pos hkey]
    exact ⟨Or.inl, fun hk => hk.elim id fun heq => heq ▸ hkey⟩
  · rw [if_neg hkey, List.mem_append, List.mem_singleton]

/-- One more component is found. -/
theorem find (hk : Keyed l found) {b : Finding}
    (hkeys : l'.states.keys =
      if b.key ∈ l.states.keys then l.states.keys else l.states.keys ++ [b.key])
    (hcount : l.inlineCount ≤ l'.inlineCount)
    (hshaped : b.Shaped l'.inlineCount l'.states.keys)
    (hmeet : b.key ∈ l.states.keys ↔ ∃ a ∈ found, ¬ a.Apart b)
    (hfailed : b.key ∉ l.states.keys →
      (∀ key, (l.registry.failure? key).isSome → l.state? key = some .failed) →
      ∀ key, (l'.registry.failure? key).isSome → l'.state? key = some .failed) :
    Keyed l' (found ++ [b]) := by
  have hmem : ∀ k, k ∈ l'.states.keys ↔ k ∈ l.states.keys ∨ k = b.key := by
    intro k
    rw [hkeys]
    exact mem_append_singleton_iff
  have hnodup : ((found ++ [b]).map Finding.key).Nodup ↔
      (found.map Finding.key).Nodup ∧ b.key ∉ l.states.keys := by
    rw [List.map_append, List.map_singleton, List.nodup_append_comm, List.singleton_append,
      List.nodup_cons, ← hk.mem_keys]
    exact and_comm
  constructor
  · intro k
    rw [hmem, hk.mem_keys, List.map_append, List.mem_append, List.map_singleton,
      List.mem_singleton]
  · intro a ha
    rcases List.mem_append.1 ha with ha | ha
    · exact (hk.shaped a ha).mono hcount fun k hin => (hmem k).2 (Or.inl hin)
    · rw [List.mem_singleton.1 ha]
      exact hshaped
  · rw [hnodup, hk.nodup_iff, hmeet, List.pairwise_append]
    simp [not_exists]
  · intro hall
    obtain ⟨hold, hnew⟩ := hnodup.1 hall
    rw [hkeys, if_neg hnew, hk.keys_eq hold, List.map_append, List.map_singleton]
  · intro hall
    obtain ⟨hold, hnew⟩ := hnodup.1 hall
    exact hfailed hnew (hk.failed_of_failure hold)

/-- No component is found. -/
theorem keep (hk : Keyed l found) (hkeys : l'.states.keys = l.states.keys)
    (hcount : l'.inlineCount = l.inlineCount)
    (hfailed : (∀ key, (l.registry.failure? key).isSome → l.state? key = some .failed) →
      ∀ key, (l'.registry.failure? key).isSome → l'.state? key = some .failed) :
    Keyed l' found where
  mem_keys := by rw [hkeys]; exact hk.mem_keys
  shaped := by rw [hkeys, hcount]; exact hk.shaped
  nodup_iff := hk.nodup_iff
  keys_eq := by rw [hkeys]; exact hk.keys_eq
  failed_of_failure := fun hnodup => hfailed (hk.failed_of_failure hnodup)

/-- Only an inline definition meets a key that is in use. -/
theorem meets_inline_iff (hk : Keyed l found) :
    inlineKey l.inlineCount ∈ l.states.keys ↔
      ∃ a ∈ found, ¬ a.Apart ⟨inlineKey l.inlineCount, .inline l.inlineCount⟩ := by
  constructor
  · intro hin
    obtain ⟨a, ha, hkey⟩ := List.mem_map.1 ((hk.mem_keys _).1 hin)
    exact ⟨a, ha, fun hap => hap _ ((hk.shaped a ha).origin_of_key_eq hkey) rfl⟩
  · rintro ⟨a, ha, hap⟩
    obtain ⟨n, hn⟩ := not_forall.1 hap
    obtain ⟨horigin, hmeets⟩ := Classical.not_imp.1 hn
    cases not_not.1 hmeets
    have hshaped := hk.shaped a ha
    unfold Finding.Shaped at hshaped
    rw [horigin] at hshaped
    exact hshaped.1

theorem step (hk : Keyed l found) (hc : Coherent l h) (hstep : Step l found' made l') :
    Keyed l' (found ++ found') := by
  -- Taken before the cases, since what a step does to failures is known for all kinds at once.
  have hfailed := hstep.failed_of_failure hc
  cases hstep with
  | inline lines hadm =>
      refine hk.find ?_ ?_ ?_ hk.meets_inline_iff ?_
      · rw [states_noted, KeyedList.keys_insert]
      · rw [inlineCount_noted]
        exact Nat.le_succ l.inlineCount
      · exact ⟨by rw [inlineCount_noted]; exact Nat.lt_succ_self _, rfl⟩
      · exact fun hnew => hfailed fun a ha => List.mem_singleton.1 ha ▸ hnew
  | external f hfree hcolon =>
      refine hk.find (KeyedList.keys_insert l.states f.key .loading) (Nat.le_refl _) hcolon ?_ ?_
      · exact iff_of_false hfree fun ⟨a, _, hap⟩ => hap fun n _ => Origin.noConfusion
      · exact fun hnew => hfailed fun a ha => List.mem_singleton.1 ha ▸ hnew
  | unusable text e =>
      have hfree := freshKey_not_mem l.states.keys text
      refine hk.find ?_ ?_ ⟨?_, freshKey_cases l.states.keys text⟩ ?_ ?_
      · rw [states_noted, KeyedList.keys_insert]
      · rw [inlineCount_noted]
      · rw [states_noted, KeyedList.keys_insert, Keyed.mem_append_singleton_iff]
        by_cases htext : text ∈ l.states.keys
        · exact Or.inl htext
        · exact Or.inr (freshKey_of_not_mem htext).symm
      · exact iff_of_false hfree fun ⟨a, _, hap⟩ => hap fun n _ => Origin.noConfusion
      · exact fun hnew => hfailed fun a ha => List.mem_singleton.1 ha ▸ hnew
  | settle requests lines hpending hleft hadm =>
      rename_i before after left f result
      have hmem : f.key ∈ l.states.keys := by
        by_contra hkey
        exact hc.not_mem_pending hkey (hpending ▸ by simp)
      rw [List.append_nil]
      refine hk.keep ?_ ?_ (hfailed nofun)
      · rw [states_noted, KeyedList.keys_insert, if_pos hmem]
      · rw [inlineCount_noted]
  | wait requests hleft =>
      rw [List.append_nil]
      exact hk.keep rfl rfl (hfailed nofun)

end Keyed

/-- What has been concluded stays as long as the keys are distinct. -/
theorem Steps.keeps (hsteps : Steps l found' made l') (hc : Coherent l h) (hk : Keyed l found)
    (hnodup : ((found ++ found').map Finding.key).Nodup) {key : String} {state : LoadState}
    (hstate : l.state? key = some state) (hloading : state ≠ .loading) :
    l'.state? key = some state ∧ l'.registry.failure? key = l.registry.failure? key := by
  induction hsteps generalizing h found with
  | none l => exact ⟨hstate, rfl⟩
  | cons hstep _ ih =>
      rename_i l l₁ l₂ first rest made₁ made₂ hrest
      rw [← List.append_assoc] at hnodup
      have hnew : ∀ a ∈ first, a.key ∉ l.states.keys := by
        intro a ha hin
        rw [List.map_append, List.nodup_append] at hnodup
        have hfirst := hnodup.1
        rw [List.map_append, List.nodup_append] at hfirst
        exact hfirst.2.2 a.key ((hk.mem_keys a.key).1 hin) a.key (List.mem_map_of_mem ha) rfl
      have hkept : l₁.state? key = l.state? key ∧
          l₁.registry.failure? key = l.registry.failure? key := by
        rcases hstep.key_cases hc hnew key with hkept | ⟨hopen, -⟩
        · exact hkept
        · rw [hstate, Option.some_inj] at hopen
          exact absurd (hopen.resolve_left nofun) hloading
      obtain ⟨hlast, hfailure⟩ := ih (hc.step hstep) (hk.step hc hstep) hnodup
        (hkept.1.trans hstate)
      exact ⟨hlast, hfailure.trans hkept.2⟩

theorem Steps.keyed (hsteps : Steps l found' made l') (hc : Coherent l h) (hk : Keyed l found) :
    Keyed l' (found ++ found') := by
  induction hsteps generalizing h found with
  | none l =>
      rw [List.append_nil]
      exact hk
  | cons hstep _ ih =>
      rw [← List.append_assoc]
      exact ih (hc.step hstep) (hk.step hc hstep)

end Loader

namespace Session

variable [Addressing A]

theorem call_keyed {s : Session A} (hs : s.Accounted) (hk : Keyed s.loader s.found) (c : Call A) :
    Keyed (s.call c).loader (s.call c).found := by
  by_cases hc : c = .reset
  · subst hc
    exact keyed_of_empty rfl rfl
  · obtain ⟨found, made, hcont⟩ := s.call_continues hc
    obtain ⟨before, hcoherent, -⟩ := hs
    rw [hcont.found_eq]
    exact hcont.steps.keyed hcoherent hk

theorem run_keyed {s : Session A} (hs : s.Accounted) (hk : Keyed s.loader s.found)
    (calls : List (Call A)) : Keyed (s.run calls).loader (s.run calls).found := by
  induction calls generalizing s with
  | nil => exact hk
  | cons c cs ih => exact ih (call_accounted hs c) (call_keyed hs hk c)

/-- Without a reset, what was found stays found. -/
theorem run_continues {s : Session A} {calls : List (Call A)} (hcalls : ∀ c ∈ calls, c ≠ .reset) :
    ∃ found made, Steps s.loader found made (s.run calls).loader ∧
      (s.run calls).found = s.found ++ found := by
  induction calls generalizing s with
  | nil => exact ⟨[], .empty, Steps.none s.loader, (List.append_nil _).symm⟩
  | cons c cs ih =>
      obtain ⟨first, made, hcont⟩ := s.call_continues (hcalls c List.mem_cons_self)
      obtain ⟨rest, made', hsteps, hfound⟩ :=
        ih (s := s.call c) fun d hd => hcalls d (List.mem_cons_of_mem c hd)
      refine ⟨first ++ rest, made ++ made', hcont.steps.trans hsteps, ?_⟩
      rw [← List.append_assoc, ← hcont.found_eq]
      exact hfound

/-- Keys are distinct exactly where no text of an unusable source is the key of an inline definition
found later. Then there is one state for each component, in the order in which they were found,
failures are recorded of those that have failed, and what has been concluded of one component is
never overwritten. -/
theorem run_keys (config : Config A) (engine : Script.Engine) (calls more : List (Call A))
    (hmore : ∀ c ∈ more, c ≠ .reset) :
    let s := (start config engine).run calls
    let later := s.run more
    ((s.found.map Finding.key).Nodup ↔ s.found.Pairwise Finding.Apart) ∧
    (s.loader.states.keys = s.found.map Finding.key ↔ s.found.Pairwise Finding.Apart) ∧
    (s.found.Pairwise Finding.Apart → ∀ key,
      (s.loader.registry.failure? key).isSome ↔ s.loader.state? key = some .failed) ∧
    (later.found.Pairwise Finding.Apart → ∀ key state, s.loader.state? key = some state →
      state ≠ .loading → later.loader.state? key = some state ∧
        later.loader.registry.failure? key = s.loader.registry.failure? key) := by
  intro s later
  have hs : s.Accounted := run_accounted (start_accounted config engine) calls
  have hk : Keyed s.loader s.found :=
    run_keyed (start_accounted config engine) (keyed_of_empty rfl rfl) calls
  obtain ⟨made, hc, -⟩ := hs
  refine ⟨hk.nodup_iff, ?_, ?_, ?_⟩
  · rw [← hk.nodup_iff]
    exact ⟨fun heq => heq ▸ s.loader.states.nodup, hk.keys_eq⟩
  · intro hapart key
    exact ⟨hk.failed_of_failure (hk.nodup_iff.2 hapart) key, hc.failure_isSome key⟩
  · intro hapart key state hstate hloading
    obtain ⟨found, made', hsteps, hfound⟩ := run_continues (s := s) hmore
    have hlater := hsteps.keyed hc hk
    rw [show later.found = s.found ++ found from hfound] at hapart
    exact hsteps.keeps hc hk (hlater.nodup_iff.2 hapart) hstate hloading

def selfContained : Element := ⟨"component", [], [.element "x-a" [] []]⟩

/-- A component whose source is no address, but the key of an inline definition. -/
def misnamed : Element := ⟨"component", [⟨"src", some "inline#0"⟩], []⟩

/-- Where the inline definition comes first, the other component is numbered, and what was noted of
the definition stays. -/
theorem run_keys_selfContained_misnamed :
    let s := (start (.default : Config Url.Address) .standard).run [.discover [selfContained]]
    let later := s.run [.discover [misnamed]]
    (∀ c ∈ [Call.discover (A := Url.Address) [misnamed]], c ≠ .reset) ∧
      later.found.map Finding.key = ["inline#0", "inline#0 [2]"] ∧
      later.found.Pairwise Finding.Apart ∧
      later.loader.state? "inline#0" = some .registered := by
  intro s later
  have hmore : ∀ c ∈ [Call.discover (A := Url.Address) [misnamed]], c ≠ .reset := by simp
  have hkeys : later.found.map Finding.key = ["inline#0", "inline#0 [2]"] := by decide +kernel
  have hnodup : (later.found.map Finding.key).Nodup := by
    rw [hkeys]
    decide
  have hapart : later.found.Pairwise Finding.Apart :=
    (run_keys .default .standard [.discover [selfContained], .discover [misnamed]] []
      (by simp)).1.1 hnodup
  have hstate : s.loader.state? "inline#0" = some .registered := by decide +kernel
  have hkept := (run_keys .default .standard [.discover [selfContained]] _ hmore).2.2.2 hapart
    "inline#0" .registered hstate LoadState.noConfusion
  exact ⟨hmore, hkeys, hapart, hkept.1⟩

/-- Where the inline definition comes second, both components get its key: there is one state for
the two, and a failure is recorded of what is registered. -/
theorem keys_misnamed_selfContained :
    let s := (start (.default : Config Url.Address) .standard).run
      [.discover [misnamed], .discover [selfContained]]
    s.found.map Finding.key = ["inline#0", "inline#0"] ∧
      ¬ (s.found.map Finding.key).Nodup ∧
      s.loader.states.entries = [("inline#0", .registered)] ∧
      (s.loader.registry.failure? "inline#0").isSome := by
  intro s
  have hkeys : s.found.map Finding.key = ["inline#0", "inline#0"] := by decide +kernel
  refine ⟨hkeys, ?_, by decide +kernel, by decide +kernel⟩
  rw [hkeys]
  decide

end Session

end Componentry
