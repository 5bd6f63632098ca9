import Componentry.Proofs.Loading.Act

/-!
# What is asked for

A fetcher is asked for an address only on behalf of a component that was found, and only if the
address has the origin of the document or the component allows another one: `Permitted` is the
condition. What has been asked for and what is still to be asked for are together the addresses of
the components found, in order (`requests_performAll`), so nothing is asked for twice and nothing
that no component stands for. A reset drops what is still to be asked for.
-/

namespace Componentry

open Markup Loader

variable {A : Type}

/-- The component allows an address of another origin, by one of two attributes. -/
def OptsIn (component : Element) : Prop :=
  ∃ name ∈ ["cors", "allow-cors"], ∃ value, component.attribute? name = some value ∧
    Text.sameName (Text.trim value) "true" = true

theorem allowsOtherOrigin_iff {component : Element} :
    allowsOtherOrigin component = true ↔ OptsIn component := by
  simp only [allowsOtherOrigin, OptsIn, List.any_eq_true, Option.any_eq_true]

variable [Addressing A]

/-- The definition of the component may be fetched from the address, in a document with an address
or without one. -/
structure Permitted (base : Option A) (component : Element) (address : A) : Prop where
  resolves : ∃ text, sourceText? component = some text ∧ Addressing.read base text = .ok address
  allowed : (∃ document, base = some document ∧ Addressing.sameOrigin document address = true) ∨
    OptsIn component

/-- A component has an address where it may be fetched from, and in no other case. -/
theorem sourceOf_eq_external_iff {base : Option A} {component : Element} {address : A} :
    sourceOf component base = .ok (.external address) ↔ Permitted base component address := by
  have hallowed :
      (base.any (Addressing.sameOrigin · address) || allowsOtherOrigin component) = true ↔
      (∃ document, base = some document ∧ Addressing.sameOrigin document address = true) ∨
        OptsIn component := by
    rw [Bool.or_eq_true, allowsOtherOrigin_iff, Option.any_eq_true]
  unfold sourceOf
  constructor
  · intro h
    split at h
    · exact nomatch h
    · next text htext =>
      split at h
      · exact nomatch h
      · next found hread =>
        split at h
        · next hguard =>
          cases h
          exact ⟨⟨text, htext, hread⟩, hallowed.1 hguard⟩
        · exact nomatch h
  · rintro ⟨⟨text, htext, hread⟩, h⟩
    simp only [htext, hread, if_pos (hallowed.2 h)]

namespace Loader

def fetched? (base : Option A) (component : Element) : Option String :=
  match sourceOf component base with
  | .ok (.external address) => some (Addressing.text address)
  | _ => none

theorem fetched?_eq_some_iff {base : Option A} {component : Element} {url : String} :
    fetched? base component = some url ↔
      ∃ address, Permitted base component address ∧ Addressing.text address = url := by
  simp only [← sourceOf_eq_external_iff]
  unfold fetched?
  split
  · next address hsource => simp [hsource]
  · next hother =>
    refine iff_of_false nofun ?_
    rintro ⟨address, hsource, -⟩
    exact hother address hsource

def toAsk (l : Loader A) : List String := l.pending.flatMap Fetch.asks

/-- A look asks for the addresses in front, and leaves the others to be asked for. -/
theorem asked_append_left (answers : Answers A) (fs : List (Fetch A)) :
    (Wait.on answers fs).asked ++ (Wait.on answers fs).left.flatMap Fetch.asks =
      fs.flatMap Fetch.asks := by
  induction fs with
  | nil => rfl
  | cons f fs ih =>
      cases h : (answers f).result? with
      | some result => rw [Wait.on_cons_of_answered h, List.flatMap_cons]
      | none =>
          have hnone : Fetch.asks { f with requested := true } = [] := rfl
          rw [Wait.on_cons_of_stalled h, List.flatMap_cons, List.flatMap_cons, hnone,
            List.nil_append, List.append_assoc, ih]

/-- An act adds the address of the component that is found in it to those to be asked for. -/
theorem requests_perform (l : Loader A) (a : Act A) :
    (l.perform a).requests ++ (l.perform a).toAsk =
      l.requests ++ l.toAsk ++ (a.component?.bind (fetched? l.config.base)).toList := by
  cases a with
  | find component =>
      simp only [perform, Act.component?, Option.bind_some, fetched?]
      cases hsource : sourceOf component l.config.base with
      | error e =>
          rw [discoverOne_unusable hsource]
          exact (List.append_nil _).symm
      | ok source =>
          cases source with
          | inline =>
              rw [discoverOne_inline hsource, load_eq]
              cases (outcome l.engine l.registry component.children l.lines).1 with
              | error e => exact (List.append_nil _).symm
              | ok made => exact (List.append_nil _).symm
          | external address =>
              rw [discoverOne_external hsource]
              simp [toAsk, Fetch.asks]
  | look answers =>
      have hasked : l.requests ++ (Wait.on answers l.pending).asked ++
          (Wait.on answers l.pending).left.flatMap Fetch.asks = l.requests ++ l.toAsk := by
        rw [List.append_assoc, asked_append_left]
        rfl
      simp only [perform, Act.component?, Option.bind_none, Option.toList_none, List.append_nil]
      cases hanswered : (Wait.on answers l.pending).answered with
      | none =>
          rw [(completeNext_of_stalled hanswered).2]
          exact hasked
      | some answered =>
          rw [completeNext_of_answered hanswered, settle_eq]
          cases (received l.engine l.registry l.lines answered.2).1 with
          | error e => exact hasked
          | ok made => exact hasked

theorem requests_performAll (l : Loader A) (acts : List (Act A)) :
    (l.performAll acts).requests ++ (l.performAll acts).toAsk =
      l.requests ++ l.toAsk ++
        (acts.filterMap Act.component?).filterMap (fetched? l.config.base) := by
  induction acts generalizing l with
  | nil => exact (List.append_nil _).symm
  | cons a acts ih =>
      have hrest := ih (l.perform a)
      rw [requests_perform, config_perform] at hrest
      refine hrest.trans ?_
      rw [List.append_assoc]
      cases hc : a.component? with
      | none => simp [hc]
      | some component =>
          cases hf : fetched? l.config.base component with
          | none => simp [hc, hf]
          | some url => simp [hc, hf]

end Loader

/-- A sublist of what some items give comes from a sublist of the items. -/
theorem exists_sublist_map_eq {α β : Type} {f : α → Option β} {as : List α} {bs : List β}
    (h : bs.Sublist (as.filterMap f)) :
    ∃ origins : List α, origins.Sublist as ∧ origins.map f = bs.map some := by
  induction as generalizing bs with
  | nil =>
      cases List.sublist_nil.1 h
      exact ⟨[], .refl _, rfl⟩
  | cons a as ih =>
      cases ha : f a with
      | none =>
          rw [List.filterMap_cons_none ha] at h
          obtain ⟨origins, hsub, heq⟩ := ih h
          exact ⟨origins, hsub.cons a, heq⟩
      | some b =>
          rw [List.filterMap_cons_some ha, List.sublist_cons_iff] at h
          rcases h with h | ⟨bs, rfl, h⟩
          · obtain ⟨origins, hsub, heq⟩ := ih h
            exact ⟨origins, hsub.cons a, heq⟩
          · obtain ⟨origins, hsub, heq⟩ := ih h
            refine ⟨a :: origins, hsub.cons_cons a, ?_⟩
            rw [List.map_cons, List.map_cons, ha, heq]

namespace Session

theorem requests_call (s : Session A) {c : Call A} (hc : c ≠ .reset) :
    (s.call c).loader.requests ++ (s.call c).loader.toAsk =
      s.loader.requests ++ s.loader.toAsk ++
        (c.components s.loader.config).filterMap (fetched? s.loader.config.base) := by
  rw [s.loader_call hc, requests_performAll, Call.filterMap_component?_acts]

theorem requests_run {s : Session A} {calls : List (Call A)} (hcalls : ∀ c ∈ calls, c ≠ .reset) :
    (s.run calls).loader.requests ++ (s.run calls).loader.toAsk =
      s.loader.requests ++ s.loader.toAsk ++
        (calls.flatMap (Call.components s.loader.config)).filterMap
          (fetched? s.loader.config.base) := by
  induction calls generalizing s with
  | nil => exact (List.append_nil _).symm
  | cons c cs ih =>
      rw [List.forall_mem_cons] at hcalls
      have hrest := @ih (s.call c) hcalls.2
      rw [s.requests_call hcalls.1, s.config_call] at hrest
      rw [List.flatMap_cons, List.filterMap_append, ← List.append_assoc]
      exact hrest

/-- With resets, some addresses are left out. -/
theorem requests_run_sublist (s : Session A) (calls : List (Call A)) :
    ((s.run calls).loader.requests ++ (s.run calls).loader.toAsk).Sublist
      (s.loader.requests ++ s.loader.toAsk ++
        (calls.flatMap (Call.components s.loader.config)).filterMap
          (fetched? s.loader.config.base)) := by
  induction calls generalizing s with
  | nil => exact (List.append_nil _).symm ▸ List.Sublist.refl _
  | cons c cs ih =>
      have hrest := ih (s.call c)
      rw [s.config_call] at hrest
      rw [List.flatMap_cons, List.filterMap_append, ← List.append_assoc]
      refine hrest.trans (List.Sublist.append_right ?_ _)
      by_cases hc : c = .reset
      · subst hc
        have hreset : (s.call .reset).loader.requests ++ (s.call .reset).loader.toAsk =
            s.loader.requests := List.append_nil _
        rw [hreset, List.append_assoc]
        exact List.sublist_append_left _ _
      · rw [s.requests_call hc]

/-- Whatever a loader is asked to do, and whatever fetches are answered with, each address that it
asks for is that of a component it found, which may be fetched from there, and each component is
asked for once at most; one whose definition is in itself, or whose source cannot be used, is not.
Without a reset, the components that may be fetched are asked for in the order in which they were
found, and those that are not asked for yet wait in the queue. -/
theorem run_requests (config : Config A) (engine : Script.Engine) (calls : List (Call A)) :
    let l := ((start config engine).run calls).loader
    let found := calls.flatMap (Call.components config)
    (∃ asked : List Element, asked.Sublist found ∧
      List.Forall₂ (fun component url =>
        ∃ address, Permitted config.base component address ∧ Addressing.text address = url)
        asked l.requests ∧
      ∀ component ∈ asked, sourceOf component config.base ≠ .ok .inline ∧
        ∀ e, sourceOf component config.base ≠ .error e) ∧
    ((∀ c ∈ calls, c ≠ .reset) →
      l.requests ++ l.toAsk = found.filterMap (fetched? config.base)) := by
  intro l found
  refine ⟨?_, fun hcalls => requests_run hcalls⟩
  have hsub : l.requests.Sublist (found.filterMap (fetched? config.base)) :=
    (List.sublist_append_left l.requests l.toAsk).trans
      (requests_run_sublist (start config engine) calls)
  obtain ⟨asked, hasked, heq⟩ := exists_sublist_map_eq hsub
  refine ⟨asked, hasked, ?_, fun component hmem => ?_⟩
  · have hall : List.Forall₂ (· = ·) (asked.map (fetched? config.base)) (l.requests.map some) :=
      List.forall₂_eq_eq_eq ▸ heq
    rw [List.forall₂_map_left_iff, List.forall₂_map_right_iff] at hall
    exact hall.imp fun _ _ => fetched?_eq_some_iff.1
  · obtain ⟨url, -, hurl⟩ := List.mem_map.1 (heq ▸ List.mem_map_of_mem hmem)
    obtain ⟨address, hpermitted, -⟩ := fetched?_eq_some_iff.1 hurl.symm
    rw [sourceOf_eq_external_iff.2 hpermitted]
    exact ⟨nofun, nofun⟩

def pointing (attributes : List (String × String)) : Element :=
  ⟨"component", attributes.map fun (name, value) => ⟨name, value⟩, []⟩

/-- Of five components in a document two may be fetched: one of the same origin and one that allows
another. They are asked for in the order in which they were found. -/
theorem run_requests_guarded :
    let config : Config Url.Address := { (Config.default : Config Url.Address) with
      base := (Url.read none "https://[::1]/d/").toOption }
    let components := [pointing [("src", "one.html")], pointing [("src", "https://[::2]/two")],
      pointing [("src", "  "), ("href", "https://[::2]/three"), ("CORS", " True ")],
      pointing [], pointing [("src", "https://[::x]/")]]
    let calls := [Call.loadBatch (fun _ _ => .served "<x-a></x-a>") components]
    (∀ c ∈ calls, c ≠ .reset) ∧
      ((start config .standard).run calls).loader.requests ++
          ((start config .standard).run calls).loader.toAsk =
        ["https://[::1]/d/one.html", "https://[::2]/three"] := by
  intro config components calls
  have hcalls : ∀ c ∈ calls, c ≠ .reset := by simp [calls]
  refine ⟨hcalls, ((run_requests config .standard calls).2 hcalls).trans ?_⟩
  decide +kernel

end Session

end Componentry
