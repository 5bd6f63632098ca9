import Componentry.Proofs.Loading.Session

/-!
# Completing fetches

The calls that wait take fetches out of the queue in the order in which the answers come.
`Completes` is what such calls do when every answer is the result given for its key: one fetch after
the other is settled, and the keys of those that were are kept in order. `run_completes` says that
the calls do nothing else, and `completes_inOrder` that every order is one in which fetches can
complete.
-/

namespace Componentry

open Markup Loader

variable {A : Type}

abbrev Results := String → Except LoadError String

/-- A fetch that is answered is answered with its result. -/
def Answers.Deliver (results : Results) (answers : Answers A) : Prop :=
  ∀ f result, (answers f).result? = some result → result = results f.key

def Answer.ofResult : Except LoadError String → Answer
  | .ok text => .served text
  | .error e => .failed e

def Answers.only (results : Results) (key : String) : Answers A := fun f =>
  if f.key = key then .ofResult (results key) else .stalled

def Call.Delivers (results : Results) : Call A → Prop
  | .completeNext answers => answers.Deliver results
  | .completeReady schedule => ∀ n, (schedule n).Deliver results
  | .finishPending schedule => ∀ n, (schedule n).Deliver results
  | _ => False

theorem Answer.result?_ofResult (result : Except LoadError String) :
    (Answer.ofResult result).result? = some result := by
  cases result <;> rfl

theorem Answers.deliver_only (results : Results) (key : String) :
    (Answers.only (A := A) results key).Deliver results := by
  intro f result h
  unfold only at h
  split at h
  · next hkey =>
    rw [Answer.result?_ofResult, Option.some_inj] at h
    rw [hkey, h]
  · exact nomatch h

namespace Loader

/-- The fetches with some keys are answered in this order, and their definitions are loaded. -/
inductive Completes (results : Results) : Loader A → List String → Loader A → Prop where
  | none (l : Loader A) : Completes results l [] l
  | wait {l l' : Loader A} {left : List (Fetch A)} {order : List String} (requests : List String) :
      left.map Fetch.key = l.pending.map Fetch.key →
      Completes results { l with pending := left, requests } order l' →
      Completes results l order l'
  | settle {l l' : Loader A} {before after left : List (Fetch A)} {f : Fetch A}
      {order : List String} (requests : List String) :
      l.pending = before ++ f :: after →
      left.map Fetch.key = (before ++ after).map Fetch.key →
      Completes results (settle f.key (results f.key) { l with pending := left, requests }).2
        order l' →
      Completes results l (f.key :: order) l'

theorem pending_settle (key : String) (answer : Except LoadError String) (l : Loader A) :
    (settle key answer l).2.pending = l.pending := by
  rw [settle_eq, pending_noted]

namespace Completes

variable {results : Results} {l l' l'' : Loader A} {order order' : List String}

theorem trans (h : Completes results l order l') (h' : Completes results l' order' l'') :
    Completes results l (order ++ order') l'' := by
  induction h with
  | none l => exact h'
  | wait requests hleft _ ih => exact .wait requests hleft (ih h')
  | settle requests hpending hleft _ ih => exact .settle requests hpending hleft (ih h')

/-- A fetch is either answered or left in the queue. -/
theorem perm (h : Completes results l order l') :
    (order ++ l'.pending.map Fetch.key).Perm (l.pending.map Fetch.key) := by
  induction h with
  | none l => exact List.Perm.refl _
  | wait requests hleft _ ih => exact hleft ▸ ih
  | @settle l l' before after left f order requests hpending hleft _ ih =>
      rw [pending_settle] at ih
      have hrest : (order ++ l'.pending.map Fetch.key).Perm ((before ++ after).map Fetch.key) :=
        hleft ▸ ih
      rw [hpending, List.map_append, List.map_cons]
      rw [List.map_append] at hrest
      exact (hrest.cons f.key).trans List.perm_middle.symm

/-- The fetches that are left are those that were not answered. -/
theorem left_iff (h : Completes results l order l') (hnodup : (l.pending.map Fetch.key).Nodup)
    (key : String) :
    key ∈ l'.pending.map Fetch.key ↔ key ∈ l.pending.map Fetch.key ∧ key ∉ order := by
  have hdisjoint := List.nodup_append.1 (h.perm.nodup_iff.2 hnodup)
  rw [← h.perm.mem_iff, List.mem_append]
  constructor
  · exact fun hk => ⟨.inr hk, fun ho => hdisjoint.2.2 key ho key hk rfl⟩
  · exact fun hk => hk.1.resolve_left hk.2

theorem nodup_order (h : Completes results l order l')
    (hnodup : (l.pending.map Fetch.key).Nodup) : order.Nodup :=
  (List.nodup_append.1 (h.perm.nodup_iff.2 hnodup)).1

end Completes

end Loader

variable [Addressing A]

theorem Wait.result_of_answered {answers : Answers A} {fs : List (Fetch A)} {f : Fetch A}
    {result : Except LoadError String} (h : (Wait.on answers fs).answered = some (f, result)) :
    (answers f).result? = some result := by
  induction fs with
  | nil => exact nomatch h
  | cons g fs ih =>
      cases hg : (answers g).result? with
      | some result' =>
          rw [Wait.on_cons_of_answered hg] at h
          cases h
          exact hg
      | none =>
          rw [Wait.on_cons_of_stalled hg] at h
          exact ih h

theorem Wait.isSome_answered {answers : Answers A} {fs : List (Fetch A)} {f : Fetch A} (hf : f ∈ fs)
    (h : (answers f).result?.isSome) : (Wait.on answers fs).answered.isSome := by
  induction fs with
  | nil => exact nomatch hf
  | cons g fs ih =>
      cases hg : (answers g).result? with
      | some result => rw [Wait.on_cons_of_answered hg, Option.isSome_some]
      | none =>
          rw [Wait.on_cons_of_stalled hg]
          rcases List.mem_cons.1 hf with rfl | hf
          · rw [hg] at h
            exact nomatch h
          · exact ih hf

namespace Loader

/-- Looking at the queue completes one fetch, or none. -/
theorem completeNext_completes {results : Results} {answers : Answers A}
    (h : answers.Deliver results) (l : Loader A) :
    ∃ order, Completes results l order (completeNext answers l).2 := by
  rcases Wait.on_cases answers l.pending with
    ⟨hnone, hleft⟩ | ⟨before, f, after, result, hsome, hpending, hleft⟩
  · rw [(completeNext_of_stalled hnone).2]
    exact ⟨[], .wait _ hleft (.none _)⟩
  · have hresult := h f result (Wait.result_of_answered hsome)
    rw [completeNext_of_answered hsome, hresult]
    exact ⟨[f.key], .settle _ hpending hleft (.none _)⟩

/-- Where only one fetch is answered, it is completed though others may stand before it. -/
theorem completeNext_only {key : String} {l : Loader A} (hkey : key ∈ l.pending.map Fetch.key)
    (results : Results) :
    Completes results l [key] (completeNext (Answers.only results key) l).2 := by
  obtain ⟨f, hf, hfkey⟩ := List.mem_map.1 hkey
  have hanswer : (Answers.only results key f).result? = some (results key) := by
    rw [Answers.only, if_pos hfkey, Answer.result?_ofResult]
  have hanswered := Wait.isSome_answered hf (Option.isSome_of_eq_some hanswer)
  rcases Wait.on_cases (Answers.only results key) l.pending with
    ⟨hnone, _⟩ | ⟨before, g, after, result, hsome, hpending, hleft⟩
  · rw [hnone] at hanswered
    exact nomatch hanswered
  · have hg := Wait.result_of_answered hsome
    have hresult := Answers.deliver_only results key g result hg
    have hgkey : g.key = key := by
      by_contra hne
      rw [Answers.only, if_neg hne] at hg
      exact nomatch hg
    subst hgkey
    rw [completeNext_of_answered hsome, hresult]
    exact .settle _ hpending hleft (.none _)

theorem completeAll_completes {results : Results} {schedule : Schedule A}
    (h : ∀ n, (schedule n).Deliver results) (n : Nat) (l : Loader A) :
    ∃ order, Completes results l order (completeAll schedule n l).2 := by
  induction n generalizing schedule l with
  | zero => exact ⟨[], .none l⟩
  | succ n ih =>
      obtain ⟨order, hnext⟩ := completeNext_completes (h 0) l
      unfold completeAll
      rw [bind_apply]
      rcases hc : completeNext (schedule 0) l with ⟨progress, l'⟩
      rw [hc] at hnext
      cases progress with
      | idle => exact ⟨order, hnext⟩
      | waiting => exact ⟨order, hnext⟩
      | done first =>
          obtain ⟨order', hrest⟩ := ih (fun k => h (k + 1)) l'
          exact ⟨order ++ order', hnext.trans hrest⟩

end Loader

namespace Session

variable {results : Results}

theorem call_completes {c : Call A} (h : c.Delivers results) (s : Session A) :
    ∃ order, Loader.Completes results s.loader order (s.call c).loader := by
  cases c with
  | completeNext answers => exact completeNext_completes h s.loader
  | completeReady schedule =>
      exact completeAll_completes h (s.loader.pending.length + 1) s.loader
  | finishPending schedule =>
      obtain ⟨order, hcompletes⟩ := completeAll_completes h (s.loader.pending.length + 1) s.loader
      refine ⟨order, ?_⟩
      rw [call, loader_after]
      exact hcompletes
  | discover | handleMutation | scan | loadBatch | reset => exact absurd h id

/-- Calls that wait for fetches with given results complete some of them, in some order. -/
theorem run_completes {calls : List (Call A)} (h : ∀ c ∈ calls, c.Delivers results)
    (s : Session A) :
    ∃ order, Loader.Completes results s.loader order (s.run calls).loader := by
  induction calls generalizing s with
  | nil => exact ⟨[], .none s.loader⟩
  | cons c cs ih =>
      rw [List.forall_mem_cons] at h
      obtain ⟨order, hcall⟩ := call_completes h.1 s
      obtain ⟨order', hrest⟩ := ih h.2 (s.call c)
      exact ⟨order ++ order', hcall.trans hrest⟩

/-- The calls wait until the fetches with some keys, and no others, are answered with their
results. -/
structure Awaits (s : Session A) (results : Results) (keys : List String) (calls : List (Call A)) :
    Prop where
  delivers : ∀ c ∈ calls, c.Delivers results
  left_iff : ∀ key, key ∈ (s.run calls).loader.pending.map Fetch.key ↔
    key ∈ s.loader.pending.map Fetch.key ∧ key ∉ keys

def inOrder (results : Results) (order : List String) : List (Call A) :=
  order.map fun key => .completeNext (Answers.only results key)

theorem completes_inOrder {s : Session A} {order : List String} (hnodup : order.Nodup)
    (h : ∀ key ∈ order, key ∈ s.loader.pending.map Fetch.key) :
    Loader.Completes results s.loader order (s.run (inOrder results order)).loader := by
  induction order generalizing s with
  | nil => exact .none s.loader
  | cons key order ih =>
      rw [List.nodup_cons] at hnodup
      rw [List.forall_mem_cons] at h
      have hfirst : Loader.Completes results s.loader [key]
          (s.call (.completeNext (Answers.only results key))).loader :=
        completeNext_only h.1 results
      refine hfirst.trans (ih hnodup.2 fun k hk => ?_)
      have hmem := hfirst.perm.mem_iff.2 (h.2 k hk)
      exact (List.mem_cons.1 hmem).resolve_left fun heq => hnodup.1 (heq ▸ hk)

/-- Fetches can complete in every order. -/
theorem awaits_inOrder {s : Session A} (hs : s.Accounted) {order keys : List String}
    (hperm : order.Perm keys) (hnodup : keys.Nodup)
    (h : ∀ key ∈ keys, key ∈ s.loader.pending.map Fetch.key) :
    s.Awaits results keys (inOrder results order) where
  delivers := by
    intro c hc
    obtain ⟨key, -, rfl⟩ := List.mem_map.1 hc
    exact Answers.deliver_only results key
  left_iff := by
    intro key
    obtain ⟨made, hcoherent, -⟩ := hs
    have hcompletes :
        Loader.Completes results s.loader order (s.run (inOrder results order)).loader :=
      completes_inOrder (hperm.nodup_iff.2 hnodup) fun k hk => h k (hperm.mem_iff.1 hk)
    rw [hcompletes.left_iff hcoherent.nodup_pending, hperm.mem_iff]

end Session

end Componentry
