import Componentry.Proofs.Loading.Step

/-!
# The records of a loader agree

The states, the queue, the registry, the reports and the summaries are written in different places.
`Coherent` says how they agree at every moment; it holds of a loader that has found nothing and is
kept by each step. A key is written a second time only where the text of an unusable source is the
key of a later inline definition. What stands there then is `failed`, so the count of what is
registered does not suffer.
-/

namespace Componentry

open Markup

variable {A : Type}

namespace KeyedList

variable {α : Type}

def countOf [DecidableEq α] (m : KeyedList α) (v : α) : Nat := m.entries.countP (·.2 = v)

theorem countP_put [DecidableEq α] (k : String) (v w : α) (es : List (String × α)) :
    (put k w es).countP (·.2 = v) + (if es.lookup k = some v then 1 else 0) =
      es.countP (·.2 = v) + (if w = v then 1 else 0) := by
  induction es with
  | nil => simp [List.countP_cons]
  | cons e es ih =>
      rw [put_cons, lookup_cons]
      by_cases hk : e.1 = k
      · rw [if_pos hk, if_pos hk.symm]
        simp only [List.countP_cons, Option.some.injEq, decide_eq_true_eq]
        omega
      · rw [if_neg hk, if_neg (Ne.symm hk), List.countP_cons, List.countP_cons]
        omega

/-- Inserting adds the new value to the count and takes away the one that it replaces. -/
theorem countOf_insert [DecidableEq α] (m : KeyedList α) (k : String) (v w : α) :
    (m.insert k w).countOf v + (if m.find? k = some v then 1 else 0) =
      m.countOf v + (if w = v then 1 else 0) :=
  countP_put k v w m.entries

end KeyedList

structure History where
  found : List Finding
  made : Summary
  /-- The number of failures that were reported before. -/
  earlier : Nat

def History.add (h : History) (found : List Finding) (made : Summary) : History :=
  { h with found := h.found ++ found, made := h.made ++ made }

namespace Loader

/-- The records of a loader agree with each other and with its history. -/
structure Coherent (l : Loader A) (h : History) : Prop where
  state_cases : ∀ key s, l.state? key = some s → s = .loading ∨ s = .registered ∨ s = .failed
  loading_iff : ∀ key, l.state? key = some .loading ↔ key ∈ l.pending.map Fetch.key
  nodup_pending : (l.pending.map Fetch.key).Nodup
  colon_mem : ∀ key ∈ l.pending.map Fetch.key, ':' ∈ key.toList
  /-- At most a failure stands under the key of an inline definition to come. -/
  inline_open : ∀ n, l.inlineCount ≤ n → l.state? (inlineKey n) ≠ some .registered
  failure_isSome : ∀ key, l.state? key = some .failed → (l.registry.failure? key).isSome
  countOf_registered : l.states.countOf .registered = l.registry.names.length
  imported_eq : l.registry.imported.keys = l.registry.names
  names_eq : l.registry.names = h.made.registered
  earlier_le : h.earlier ≤ (l.reports.map Prod.fst).length
  reports_eq : (l.reports.map Prod.fst).drop h.earlier = h.made.failed
  length_found :
    h.found.length = h.made.registered.length + h.made.failed.length + l.pending.length

/-- A loader whose records are empty has no history. -/
theorem coherent_of_empty {l : Loader A} (hstates : l.states = .empty)
    (hregistry : l.registry = .empty) (hpending : l.pending = []) :
    Coherent l ⟨[], .empty, l.reports.length⟩ where
  state_cases := by simp [state?, hstates]
  loading_iff := by simp [state?, hstates, hpending]
  nodup_pending := by simp [hpending]
  colon_mem := by simp [hpending]
  inline_open := by simp [state?, hstates]
  failure_isSome := by simp [state?, hstates]
  countOf_registered := by rw [hstates, hregistry]; rfl
  imported_eq := by rw [hregistry]; rfl
  names_eq := by rw [hregistry]; rfl
  earlier_le := by rw [List.length_map]
  reports_eq := by rw [← List.map_drop, List.drop_length]; rfl
  length_found := by rw [hpending]; rfl

namespace Coherent

variable {l l' : Loader A} {h : History} {key : String} {result : Result} {found : List Finding}

/-- What a definition came to is noted under a key that is open, by a loader `l'` that differs from
`l` in its queue and in the number of inline definitions at most. -/
theorem noted (hc : Coherent l h) (hstates : l'.states = l.states)
    (hregistry : l'.registry = l.registry) (hreports : l'.reports = l.reports)
    (hadm : Admissible l'.registry result) (hopen : l.state? key ≠ some .registered)
    (hleft : ∀ k, k ∈ l'.pending.map Fetch.key ↔ k ∈ l.pending.map Fetch.key ∧ k ≠ key)
    (hnodup : (l'.pending.map Fetch.key).Nodup) (hcount : l.inlineCount ≤ l'.inlineCount)
    (hnext : ∀ n, l'.inlineCount ≤ n → inlineKey n = key → concluded result ≠ .registered)
    (hlength : found.length + l.pending.length = l'.pending.length + 1) :
    Coherent (noted key l' result) (h.add found (summaryOf key result)) where
  state_cases := by
    intro k s hs
    rw [state?_noted, state?, hstates] at hs
    split at hs
    · cases hs
      cases result with
      | ok made => exact Or.inr (Or.inl rfl)
      | error e => exact Or.inr (Or.inr rfl)
    · exact hc.state_cases k s hs
  loading_iff := by
    intro k
    rw [state?_noted, pending_noted, hleft, state?, hstates]
    by_cases hk : k = key
    · rw [if_pos hk, Option.some_inj]
      exact ⟨fun hs => absurd hs (concluded_ne_loading result), fun hm => absurd hk hm.2⟩
    · rw [if_neg hk]
      exact (hc.loading_iff k).trans (and_iff_left hk).symm
  nodup_pending := by
    rw [pending_noted]
    exact hnodup
  colon_mem := by
    intro k hk
    rw [pending_noted, hleft] at hk
    exact hc.colon_mem k hk.1
  inline_open := by
    intro n hn
    rw [inlineCount_noted] at hn
    rw [state?_noted, state?, hstates]
    split
    · next hk => exact fun hs => hnext n hn hk (Option.some_inj.1 hs)
    · exact hc.inline_open n (Nat.le_trans hcount hn)
  failure_isSome := by
    intro k hs
    rw [state?_noted, state?, hstates] at hs
    by_cases hk : k = key
    · rw [if_pos hk, Option.some_inj] at hs
      cases result with
      | ok made => exact absurd hs LoadState.noConfusion
      | error e => rw [hk, failure?_noted_error, Option.isSome_some]
    · rw [if_neg hk] at hs
      rw [failure?_noted_of_ne hk, hregistry]
      exact hc.failure_isSome k hs
  countOf_registered := by
    have hcountOf := KeyedList.countOf_insert l.states key .registered (concluded result)
    rw [if_neg (show l.states.find? key ≠ some .registered from hopen), hc.countOf_registered]
      at hcountOf
    rw [states_noted, hstates, names_noted hadm, hregistry, List.length_append]
    refine hcountOf.trans ?_
    cases result <;> rfl
  imported_eq := by
    have himported := hc.imported_eq
    rw [← hregistry] at himported
    exact imported_noted himported
  names_eq := by
    rw [names_noted hadm, hregistry]
    exact congrArg (· ++ (summaryOf key result).registered) hc.names_eq
  earlier_le := by
    rw [reports_noted, hreports, List.length_append]
    exact Nat.le_add_right_of_le hc.earlier_le
  reports_eq := by
    rw [reports_noted, hreports]
    change ((l.reports.map Prod.fst) ++ (summaryOf key result).failed).drop h.earlier =
      h.made.failed ++ (summaryOf key result).failed
    rw [List.drop_append_of_le_length hc.earlier_le, hc.reports_eq]
  length_found := by
    have hbefore := hc.length_found
    have hone := length_summaryOf key result
    rw [pending_noted]
    simp only [History.add, Summary.registered_append, Summary.failed_append, List.length_append]
    omega

/-- A key that is not in use is not in the queue either. -/
theorem not_mem_pending (hc : Coherent l h) (hkey : key ∉ l.states.keys) :
    key ∉ l.pending.map Fetch.key := by
  intro hm
  have hloading := (hc.loading_iff key).2 hm
  rw [state?, KeyedList.find?_eq_none_iff.2 hkey] at hloading
  cases hloading

/-- A fetch is queued under a key that is not in use. -/
theorem queued (hc : Coherent l h) {f : Fetch A} (hfree : f.key ∉ l.states.keys)
    (hcolon : ':' ∈ f.key.toList) :
    Coherent { l with states := l.states.insert f.key .loading, pending := l.pending ++ [f] }
      (h.add [⟨f.key, .external⟩] .empty) where
  state_cases := by
    intro k s hs
    rw [state?, KeyedList.find?_insert] at hs
    split at hs
    · exact Or.inl (Option.some_inj.1 hs).symm
    · exact hc.state_cases k s hs
  loading_iff := by
    intro k
    rw [state?, KeyedList.find?_insert, List.map_append, List.mem_append]
    by_cases hk : k = f.key
    · simp [hk]
    · rw [if_neg hk]
      refine (hc.loading_iff k).trans ⟨Or.inl, fun hm => hm.resolve_right ?_⟩
      simpa using hk
  nodup_pending := by
    rw [List.map_append, List.map_singleton, List.nodup_append]
    refine ⟨hc.nodup_pending, List.nodup_singleton f.key, ?_⟩
    intro a ha b hb hab
    rw [List.mem_singleton.1 hb] at hab
    exact hc.not_mem_pending hfree (hab ▸ ha)
  colon_mem := by
    intro k hk
    rw [List.map_append, List.mem_append, List.map_singleton, List.mem_singleton] at hk
    rcases hk with hk | rfl
    · exact hc.colon_mem k hk
    · exact hcolon
  inline_open := by
    intro n hn
    rw [state?, KeyedList.find?_insert]
    split
    · exact fun hs => LoadState.noConfusion (Option.some_inj.1 hs)
    · exact hc.inline_open n hn
  failure_isSome := by
    intro k hs
    rw [state?, KeyedList.find?_insert] at hs
    split at hs
    · exact absurd (Option.some_inj.1 hs) LoadState.noConfusion
    · exact hc.failure_isSome k hs
  countOf_registered := by
    have hcountOf := KeyedList.countOf_insert l.states f.key .registered .loading
    rw [KeyedList.find?_eq_none_iff.2 hfree, hc.countOf_registered] at hcountOf
    exact hcountOf
  imported_eq := hc.imported_eq
  names_eq := hc.names_eq.trans (List.append_nil _).symm
  earlier_le := hc.earlier_le
  reports_eq := hc.reports_eq.trans (List.append_nil _).symm
  length_found := by
    have hbefore := hc.length_found
    simp only [History.add, Summary.append_empty, List.length_append, List.length_cons,
      List.length_nil]
    omega

/-- Which fetches have been asked for does not matter. -/
theorem waited (hc : Coherent l h) {left : List (Fetch A)} (requests : List String)
    (hleft : left.map Fetch.key = l.pending.map Fetch.key) :
    Coherent { l with pending := left, requests } (h.add [] .empty) := by
  have hlength : left.length = l.pending.length := by
    have := congrArg List.length hleft
    simpa only [List.length_map] using this
  have hadd : h.add [] .empty = h := by
    rw [History.add, List.append_nil, Summary.append_empty]
  rw [hadd]
  exact { hc with
    loading_iff := by rw [hleft]; exact hc.loading_iff
    nodup_pending := by rw [hleft]; exact hc.nodup_pending
    colon_mem := by rw [hleft]; exact hc.colon_mem
    length_found := by rw [hlength]; exact hc.length_found }

/-- A fetch that is answered leaves the queue, and what came of it is noted. -/
theorem settled (hc : Coherent l h) {before after left : List (Fetch A)} {f : Fetch A}
    (requests lines : List String) (hpending : l.pending = before ++ f :: after)
    (hleft : left.map Fetch.key = (before ++ after).map Fetch.key)
    (hadm : Admissible l.registry result) :
    Coherent (Loader.noted f.key { l with pending := left, requests, lines } result)
      (h.add [] (summaryOf f.key result)) := by
  have hnodup := hc.nodup_pending
  rw [hpending, List.map_append, List.map_cons, List.nodup_middle, ← List.map_append,
    List.nodup_cons] at hnodup
  have hmem : ∀ k, k ∈ l.pending.map Fetch.key ↔
      k = f.key ∨ k ∈ (before ++ after).map Fetch.key := by
    intro k
    rw [hpending, List.map_append, List.map_cons, List.map_append, List.mem_append,
      List.mem_cons, List.mem_append]
    exact or_left_comm
  have hlengths := congrArg List.length hleft
  have hpendings := congrArg List.length hpending
  simp only [List.length_map, List.length_append, List.length_cons] at hlengths hpendings
  have hloading := (hmem f.key).2 (Or.inl rfl)
  refine hc.noted rfl rfl rfl hadm ?_ ?_ ?_ (Nat.le_refl _) ?_ ?_
  · rw [(hc.loading_iff f.key).2 hloading]
    exact fun hs => LoadState.noConfusion (Option.some_inj.1 hs)
  · intro k
    change k ∈ left.map Fetch.key ↔ _
    rw [hleft, hmem]
    constructor
    · exact fun hk => ⟨Or.inr hk, fun heq => hnodup.1 (heq ▸ hk)⟩
    · exact fun hk => hk.1.resolve_left hk.2
  · change (left.map Fetch.key).Nodup
    rw [hleft]
    exact hnodup.2
  · intro n _ hk
    exact absurd (hc.colon_mem f.key hloading) (hk ▸ colon_not_mem_inlineKey n)
  · change 0 + l.pending.length = left.length + 1
    omega

/-- Each step keeps the records in agreement. -/
theorem step {made : Summary} (hc : Coherent l h) (hstep : Step l found made l') :
    Coherent l' (h.add found made) := by
  cases hstep with
  | inline lines hadm =>
      -- The key may be in use. All that matters is that nothing is loading or registered there.
      have hnot : inlineKey l.inlineCount ∉ l.pending.map Fetch.key :=
        fun hm => colon_not_mem_inlineKey l.inlineCount (hc.colon_mem _ hm)
      refine hc.noted rfl rfl rfl hadm (hc.inline_open _ (Nat.le_refl _)) ?_ hc.nodup_pending
        (Nat.le_succ _) ?_ (Nat.add_comm _ _)
      · exact fun k => ⟨fun hm => ⟨hm, fun hk => hnot (hk ▸ hm)⟩, And.left⟩
      · intro n hn hk
        have := inlineKey_injective hk
        change l.inlineCount + 1 ≤ n at hn
        omega
  | external f hfree hcolon => exact hc.queued hfree hcolon
  | unusable text e =>
      have hfree := freshKey_not_mem l.states.keys text
      have hnone : l.state? (freshKey l.states.keys text) = none :=
        KeyedList.find?_eq_none_iff.2 hfree
      refine hc.noted rfl rfl rfl trivial ?_ ?_ hc.nodup_pending (Nat.le_refl _) ?_
        (Nat.add_comm _ _)
      · rw [hnone]
        exact nofun
      · exact fun k => ⟨fun hm => ⟨hm, fun hk => hc.not_mem_pending hfree (hk ▸ hm)⟩, And.left⟩
      · exact fun n _ _ => LoadState.noConfusion
  | settle requests lines hpending hleft hadm =>
      exact hc.settled requests lines hpending hleft hadm
  | wait requests hleft => exact hc.waited requests hleft

/-- So do any number of steps. -/
theorem steps {made : Summary} (hc : Coherent l h) (hsteps : Steps l found made l') :
    Coherent l' (h.add found made) := by
  induction hsteps generalizing h with
  | none l =>
      rw [History.add, List.append_nil, Summary.append_empty]
      exact hc
  | cons hstep _ ih =>
      have hlast := ih (hc.step hstep)
      simp only [History.add, List.append_assoc, Summary.append_assoc] at hlast
      exact hlast

end Coherent

end Loader

end Componentry
