import Componentry.Proofs.Declaration.Site
import Mathlib.Data.List.Induction

/-!
# What a declaration is read as

A declaration that is read has the name of its tag, which is not reserved, and is a method or a
property as its parameter lists say (`ReadAs`). The declarations of a definition are then kept by
name: `keys_keptAs` and `find?_keptAs` say that names stand in the order in which they first came,
each with the last declaration of the name.
-/

namespace Componentry

open Markup Text

variable {σ α β : Type}

namespace Extracting

theorem bind_apply (x : Extracting σ α) (f : α → Extracting σ β) (s : σ) :
    (x >>= f) s =
      match x s with
      | (.ok a, s') => f a s'
      | (.error e, s') => (.error e, s') := by
  change (ExceptT.bindCont f (x s).1) (x s).2 = _
  rcases x s with ⟨_ | _, _⟩ <;> rfl

theorem bind_eq_ok {x : Extracting σ α} {f : α → Extracting σ β} {b : β} {s s' : σ} :
    (x >>= f) s = (.ok b, s') ↔ ∃ a s₁, x s = (.ok a, s₁) ∧ f a s₁ = (.ok b, s') := by
  rw [bind_apply]
  rcases hx : x s with ⟨e | a, s₁⟩
  · exact ⟨nofun, fun ⟨_, _, heq, _⟩ => nomatch heq⟩
  · constructor
    · exact fun h => ⟨a, s₁, rfl, h⟩
    · rintro ⟨a', s₁', heq, h⟩
      cases heq
      exact h

theorem pure_apply (a : α) (s : σ) : (pure a : Extracting σ α) s = (.ok a, s) := rfl

theorem lift_apply (r : Except DeclarationError α) (s : σ) :
    (liftM r : Extracting σ α) s = (r, s) := by
  cases r <;> rfl

end Extracting

/-- What a tag, the attribute names beside it and the record read from them have to do with each
other. -/
structure ReadAs (tag : String) (attributes : List String) (d : Declaration) : Prop where
  name_eq : d.name = memberName tag
  not_reserved : isReservedName d.name = false
  markers_le : (joinMarkers attributes).countP isMarker ≤ 1
  hook : (Lifecycle.ofName? d.name).isSome → d.member.isMethod = true
  method_iff : Lifecycle.ofName? d.name = none →
    (d.member.isMethod = true ↔ (joinMarkers attributes).countP isMarker = 1)

/-- There are as many parameter lists as attribute names with the shape of one. -/
theorem length_markersOf {tag : String} {names : List String} {markers : List (List String)}
    (h : markersOf tag names = .ok markers) : markers.length = names.countP isMarker := by
  induction names generalizing markers with
  | nil =>
      cases h
      rfl
  | cons n ns ih =>
      unfold markersOf parameters? at h
      rw [List.countP_cons]
      by_cases hn : isMarker n = true
      · rw [if_pos hn] at h ⊢
        cases ho : openParameters n.toList with
        | error fault =>
            rw [ho] at h
            exact nomatch h
        | ok ps =>
            rw [ho] at h
            cases hm : markersOf tag ns with
            | error e =>
                simp only [hm] at h
                exact nomatch h
            | ok rest =>
                simp only [hm] at h
                cases h
                rw [List.length_cons, ih hm]
      · rw [if_neg hn] at h ⊢
        exact ih h

theorem isMethod_declarationOf {evaluate : Evaluator σ} {name text : String}
    {markers : List (List String)} {d : Declaration} {s s' : σ}
    (h : declarationOf evaluate name markers text s = (.ok d, s')) :
    d.name = name ∧ markers.length ≤ 1 ∧
      ((Lifecycle.ofName? name).isSome → d.member.isMethod = true) ∧
      (Lifecycle.ofName? name = none → (d.member.isMethod = true ↔ markers.length = 1)) := by
  unfold declarationOf at h
  match markers with
  | _ :: _ :: _ => exact nomatch h
  | [parameters] =>
      cases h
      exact ⟨rfl, Nat.le_refl 1, fun _ => rfl, fun _ => ⟨fun _ => rfl, fun _ => rfl⟩⟩
  | [] =>
      cases hl : Lifecycle.ofName? name with
      | some l =>
          simp only [hl] at h
          cases h
          exact ⟨rfl, Nat.zero_le 1, fun _ => rfl, nofun⟩
      | none =>
          simp only [hl] at h
          obtain ⟨v, s₁, -, h⟩ := Extracting.bind_eq_ok.1 h
          cases h
          exact ⟨rfl, Nat.zero_le 1, nofun, fun _ => ⟨nofun, nofun⟩⟩

theorem readAs_of_declare {evaluate : Evaluator σ} {tag text : String} {attributes : List String}
    {d : Declaration} {s s' : σ} (h : declare evaluate tag attributes text s = (.ok d, s')) :
    ReadAs tag attributes d := by
  unfold declare at h
  obtain ⟨name, s₁, hname, h⟩ := Extracting.bind_eq_ok.1 h
  obtain ⟨markers, s₂, hmarkers, h⟩ := Extracting.bind_eq_ok.1 h
  rw [Extracting.lift_apply] at hname hmarkers
  have hchecked := congrArg Prod.fst hname
  have hlength := length_markersOf (congrArg Prod.fst hmarkers)
  unfold checkedName at hchecked
  obtain ⟨hd, hle, hhook, hmethod⟩ := isMethod_declarationOf h
  by_cases hreserved : isReservedName (memberName tag) = true
  · rw [if_pos hreserved] at hchecked
    exact nomatch hchecked
  · rw [if_neg hreserved] at hchecked
    cases hchecked
    rw [← hd] at hhook hmethod
    rw [hlength] at hle hmethod
    exact ⟨hd, hd ▸ Bool.eq_false_iff.2 hreserved, hle, hhook, hmethod⟩

def Site.declare (evaluate : Evaluator σ) : Site → Extracting σ Declaration
  | .element _ e => declareElement evaluate e
  | .block _ _ b marker => declareBlock evaluate b marker

theorem Site.readAs {evaluate : Evaluator σ} {site : Site} {d : Declaration} {s s' : σ}
    (h : site.declare evaluate s = (.ok d, s')) : ReadAs site.tag site.attributes d := by
  cases site with
  | element i e => exact readAs_of_declare h
  | block i j b marker =>
      change declareBlock evaluate b marker s = (.ok d, s') at h
      unfold declareBlock at h
      by_cases hname : sameName b.name (closingName marker) = true
      · rw [if_pos hname] at h
        exact readAs_of_declare h
      · rw [if_neg hname] at h
        exact nomatch h

def Declarations.keptAs (records : List Declaration) : Declarations :=
  records.foldl Declarations.add .empty

namespace Declarations

theorem keptAs_concat (records : List Declaration) (d : Declaration) :
    keptAs (records ++ [d]) = (keptAs records).add d := by
  rw [keptAs, List.foldl_append]
  rfl

/-- Names stand in the order in which they first came. -/
theorem keys_keptAs (records : List Declaration) :
    (keptAs records).keys = (records.map Declaration.name).eraseDups := by
  induction records using List.reverseRecOn with
  | nil => rfl
  | append_singleton records d ih =>
      rw [keptAs_concat, add, KeyedList.keys_insert, ih, List.map_append, List.map_singleton,
        List.eraseDups_append, List.cons_removeAll, List.nil_removeAll]
      by_cases hname : d.name ∈ records.map Declaration.name
      · have hcontains := List.contains_iff_mem.2 hname
        rw [if_pos (List.mem_eraseDups.2 hname), hcontains]
        exact (List.append_nil _).symm
      · have hcontains := Bool.eq_false_iff.2 (mt List.contains_iff_mem.1 hname)
        rw [if_neg fun h => hname (List.mem_eraseDups.1 h), hcontains]
        rfl

/-- Under a name stands the last declaration of the name. -/
theorem find?_keptAs (records : List Declaration) (name : String) :
    (keptAs records).find? name = (records.filter (·.name = name)).getLast? := by
  induction records using List.reverseRecOn with
  | nil => rfl
  | append_singleton records d ih =>
      rw [keptAs_concat, add, KeyedList.find?_insert, ih, List.filter_append]
      by_cases hname : name = d.name
      · simp [hname]
      · simp [hname, Ne.symm hname]

end Declarations

end Componentry
