import Componentry.Proofs.Declaration.Record

/-!
# Extraction is exact

What becomes of a definition: either every declaration is read, in document order, and the
definition loses the children of `removedIndices` and no others; or the first declaration that
cannot be read fails the extraction, and the definition is what it was. The reading itself is
`Reads`, with `Fails` for where it stops, and `Found.steps_apply` shows that going through the
classified children does just that.
-/

namespace Componentry

open Markup Text

variable {σ : Type}

inductive Reads (evaluate : Evaluator σ) : List Site → σ → List Declaration → σ → Prop where
  | nil (s : σ) : Reads evaluate [] s [] s
  | cons {site : Site} {places : List Site} {s s' s'' : σ} {d : Declaration}
      {records : List Declaration} :
      site.declare evaluate s = (.ok d, s') → Reads evaluate places s' records s'' →
      Reads evaluate (site :: places) s (d :: records) s''

/-- At one of the places a declaration cannot be read, and at all before it they can. -/
def Fails (evaluate : Evaluator σ) (places : List Site) (s : σ) (e : DeclarationError) (s' : σ) :
    Prop :=
  ∃ before site after records s₁, places = before ++ site :: after ∧
    Reads evaluate before s records s₁ ∧ site.declare evaluate s₁ = (.error e, s')

def removedAt : Site × Declaration → List Nat
  | (.element i _, d) => if d.member.isMethod then [i] else []
  | (.block i j _ _, _) => [i, j]

def removedIndices (places : List Site) (records : List Declaration) : List Nat :=
  (places.zip records).flatMap removedAt

theorem removedIndices_cons (site : Site) (places : List Site) (d : Declaration)
    (records : List Declaration) :
    removedIndices (site :: places) (d :: records) =
      removedAt (site, d) ++ removedIndices places records := rfl

theorem withoutIndices_eq {α : Type} (removed : List Nat) (index : Nat) (as : List α) :
    withoutIndices removed index as =
      ((as.zipIdx index).filter fun p => p.2 ∉ removed).map Prod.fst := by
  induction as generalizing index with
  | nil => rfl
  | cons a as ih =>
      rw [withoutIndices, List.zipIdx_cons, ih]
      by_cases h : index ∈ removed
      · rw [if_pos (List.contains_iff_mem.2 h), List.filter_cons_of_neg (by simpa using h)]
      · rw [if_neg (mt List.contains_iff_mem.1 h), List.filter_cons_of_pos (by simpa using h)]
        rfl

namespace Found

def note (found : Found) (site : Site) (d : Declaration) : Found :=
  ⟨found.declarations.add d, removedAt (site, d) ++ found.removed⟩

/-- A classified child that is no place of a declaration changes nothing; at a place, the
declaration is read and noted. -/
theorem step_apply (evaluate : Evaluator σ) (found : Found) (c : Classification) (s : σ) :
    found.step evaluate c s =
      match c.site? with
      | none => (.ok found, s)
      | some site =>
        match site.declare evaluate s with
        | (.ok d, s') => (.ok (found.note site d), s')
        | (.error e, s') => (.error e, s') := by
  cases c with
  | blank i => rfl
  | structural i => rfl
  | element i e =>
      simp only [step, Extracting.bind_apply, Classification.site?, Site.declare]
      rcases declareElement evaluate e s with ⟨_ | d, s'⟩
      · rfl
      · cases hd : d.member.isMethod with
        | true => simp [note, removedAt, hd, Extracting.pure_apply]
        | false => simp [note, removedAt, hd, Extracting.pure_apply]
  | pair i j text marker =>
      simp only [step, declarePair, Extracting.bind_apply, Classification.site?]
      cases Block.ofText? text with
      | none => rfl
      | some b =>
          simp only [Extracting.bind_apply, Option.map_some, Site.declare]
          rcases declareBlock evaluate b marker s with ⟨_ | d, s'⟩
          · rfl
          · rfl

/-- Going through classified children reads the declarations at their places, up to the first that
fails. -/
theorem steps_apply (evaluate : Evaluator σ) (found : Found) (cs : List Classification) (s : σ) :
    match steps evaluate found cs s with
    | (.error e, s') => Fails evaluate (cs.filterMap Classification.site?) s e s'
    | (.ok found', s') => ∃ records,
        Reads evaluate (cs.filterMap Classification.site?) s records s' ∧
        found'.declarations = records.foldl Declarations.add found.declarations ∧
        ∀ i, i ∈ found'.removed ↔
          i ∈ found.removed ∨
            i ∈ removedIndices (cs.filterMap Classification.site?) records := by
  induction cs generalizing found s with
  | nil => exact ⟨[], Reads.nil s, rfl, fun i => by simp [removedIndices]⟩
  | cons c cs ih =>
      rw [steps, Extracting.bind_apply, step_apply, List.filterMap_cons]
      cases c.site? with
      | none => exact ih found s
      | some site =>
          rcases hd : site.declare evaluate s with ⟨e | d, s₁⟩
          · simp only [hd]
            exact ⟨[], site, _, [], s, rfl, Reads.nil s, hd⟩
          · simp only [hd]
            have hrest := ih (found.note site d) s₁
            rcases hs : steps evaluate (found.note site d) cs s₁ with ⟨e | found', s'⟩
            · simp only [hs] at hrest ⊢
              obtain ⟨before, failing, after, records, s₂, heq, hreads, hfails⟩ := hrest
              refine ⟨site :: before, failing, after, d :: records, s₂, ?_, ?_, hfails⟩
              · rw [heq, List.cons_append]
              · exact Reads.cons hd hreads
            · simp only [hs] at hrest ⊢
              obtain ⟨records, hreads, hdeclarations, hremoved⟩ := hrest
              refine ⟨d :: records, Reads.cons hd hreads, hdeclarations, fun i => ?_⟩
              rw [hremoved, removedIndices_cons, List.mem_append]
              change i ∈ removedAt (site, d) ++ found.removed ∨ _ ↔ _
              rw [List.mem_append, or_assoc]
              exact or_left_comm

end Found

namespace Reads

variable {evaluate : Evaluator σ} {places : List Site} {s s' : σ} {records : List Declaration}

theorem length_eq (h : Reads evaluate places s records s') : records.length = places.length := by
  induction h with
  | nil s => rfl
  | cons _ _ ih => rw [List.length_cons, List.length_cons, ih]

theorem readAs (h : Reads evaluate places s records s') :
    ∀ p ∈ places.zip records, ReadAs p.1.tag p.1.attributes p.2 := by
  induction h with
  | nil s => exact nofun
  | cons hd _ ih =>
      intro p hp
      rw [List.zip_cons_cons, List.mem_cons] at hp
      rcases hp with rfl | hp
      · exact Site.readAs hd
      · exact ih p hp

end Reads

/-- What a definition becomes when the records are read at the places of its declarations. -/
structure Extracted (definition element : Element) (places : List Site)
    (records : List Declaration) (ds : Declarations) : Prop where
  tag_eq : element.tag = definition.tag
  attributes_eq : element.attributes = definition.attributes
  children_eq : element.children = (definition.children.zipIdx.filter fun child =>
    child.2 ∉ removedIndices places records).map Prod.fst
  length_records : records.length = places.length
  readAs : ∀ p ∈ places.zip records, ReadAs p.1.tag p.1.attributes p.2
  keys_eq : ds.keys = (records.map Declaration.name).eraseDups
  find?_eq : ∀ name, ds.find? name = (records.filter (·.name = name)).getLast?
  name_eq : ∀ entry ∈ ds.entries, entry.2.name = entry.1
  not_reserved : ∀ key ∈ ds.keys, isReservedName key = false
  hook : ∀ entry ∈ ds.entries, (Lifecycle.ofName? entry.1).isSome →
    entry.2.member.isMethod = true
  method_iff : ∀ entry ∈ ds.entries, Lifecycle.ofName? entry.1 = none →
    ∃ site, (site, entry.2) ∈ places.zip records ∧
      (entry.2.member.isMethod = true ↔ (joinMarkers site.attributes).countP isMarker = 1)

/-- A record that is kept was read at one of the places. -/
theorem exists_site_of_mem {places : List Site} {records : List Declaration}
    (hlength : records.length = places.length) {entry : String × Declaration}
    (h : entry ∈ (Declarations.keptAs records).entries) :
    entry.2.name = entry.1 ∧ ∃ site, (site, entry.2) ∈ places.zip records := by
  have hfind := KeyedList.find?_of_mem h
  rw [Declarations.find?_keptAs] at hfind
  have hmem := List.mem_filter.1 (List.mem_of_getLast? hfind)
  obtain ⟨i, hi, hget⟩ := List.getElem_of_mem hmem.1
  have hi' : i < places.length := hlength ▸ hi
  have hzip : i < (places.zip records).length := by
    rw [List.length_zip]
    omega
  refine ⟨of_decide_eq_true hmem.2, places.get ⟨i, hi'⟩, ?_⟩
  have hpair := List.getElem_mem hzip
  rw [List.getElem_zip, hget] at hpair
  exact hpair

theorem extractDeclarations_apply (evaluate : Evaluator σ) (isDefined : String → Bool)
    (definition : Element) (s : σ) :
    extractDeclarations evaluate isDefined (definition, s) =
      match Found.steps evaluate ⟨.empty, []⟩ (classify isDefined definition) s with
      | (.error e, s') => (.error e, (definition, s'))
      | (.ok found, s') => (.ok found.declarations,
          ({ definition with children := withoutIndices found.removed 0 definition.children },
            s')) := by
  have hget : (get : Editing σ (Element × σ)) (definition, s) =
      (.ok (definition, s), (definition, s)) := rfl
  unfold extractDeclarations
  rw [Extracting.bind_apply, hget]
  simp only [Extracting.bind_apply, Editing.read]
  rcases Found.steps evaluate ⟨.empty, []⟩ (classify isDefined definition) s with ⟨e | found, s'⟩
  · rfl
  · rfl

/-- A definition with one place of a declaration. -/
theorem extractDeclarations_of_site {isDefined : String → Bool} {definition : Element}
    {c : Classification} {site : Site} (hclassify : classify isDefined definition = [c])
    (hsite : c.site? = some site) (evaluate : Evaluator σ) (s : σ) :
    extractDeclarations evaluate isDefined (definition, s) =
      match site.declare evaluate s with
      | (.error e, s') => (.error e, (definition, s'))
      | (.ok d, s') => (.ok (Declarations.keptAs [d]),
          ({ definition with
              children := withoutIndices (removedAt (site, d)) 0 definition.children }, s')) := by
  have hsteps : Found.steps evaluate ⟨.empty, []⟩ [c] s =
      match site.declare evaluate s with
      | (.error e, s') => (.error e, s')
      | (.ok d, s') => (.ok ((Found.mk .empty []).note site d), s') := by
    rw [Found.steps, Extracting.bind_apply, Found.step_apply, hsite]
    rcases hd : site.declare evaluate s with ⟨e | d, s'⟩
    · simp only [hd]
    · simp only [hd]
      rfl
  rw [extractDeclarations_apply, hclassify, hsteps]
  rcases site.declare evaluate s with ⟨e | d, s'⟩
  · rfl
  · simp only [Found.note, List.append_nil]
    rfl

theorem Reads.extracted {evaluate : Evaluator σ} {places : List Site} {s s' : σ}
    {records : List Declaration} (h : Reads evaluate places s records s') (definition : Element)
    {removed : List Nat} (hremoved : ∀ i, i ∈ removed ↔ i ∈ removedIndices places records) :
    Extracted definition
      { definition with children := withoutIndices removed 0 definition.children } places records
      (Declarations.keptAs records) where
  tag_eq := rfl
  attributes_eq := rfl
  children_eq := by
    rw [withoutIndices_eq]
    simp only [hremoved]
  length_records := h.length_eq
  readAs := h.readAs
  keys_eq := Declarations.keys_keptAs records
  find?_eq := Declarations.find?_keptAs records
  name_eq := fun _ hentry => (exists_site_of_mem h.length_eq hentry).1
  not_reserved := by
    intro key hkey
    obtain ⟨entry, hentry, rfl⟩ := List.mem_map.1 hkey
    obtain ⟨hname, site, hsite⟩ := exists_site_of_mem h.length_eq hentry
    rw [← hname]
    exact (h.readAs _ hsite).not_reserved
  hook := by
    intro entry hentry hhook
    obtain ⟨hname, site, hsite⟩ := exists_site_of_mem h.length_eq hentry
    rw [← hname] at hhook
    exact (h.readAs _ hsite).hook hhook
  method_iff := by
    intro entry hentry hhook
    obtain ⟨hname, site, hsite⟩ := exists_site_of_mem h.length_eq hentry
    rw [← hname] at hhook
    exact ⟨site, hsite, (h.readAs _ hsite).method_iff hhook⟩

/-- The declarations fail to be read, and the definition is what it was, or they are all read. -/
theorem extractDeclarations_cases (evaluate : Evaluator σ) (isDefined : String → Bool)
    (definition : Element) (s : σ) :
    (∃ e s', extractDeclarations evaluate isDefined (definition, s) =
        (.error e, (definition, s')) ∧
      Fails evaluate (sites isDefined definition.children) s e s') ∨
    ∃ records removed s', extractDeclarations evaluate isDefined (definition, s) =
        (.ok (Declarations.keptAs records), ({ definition with
          children := withoutIndices removed 0 definition.children }, s')) ∧
      Reads evaluate (sites isDefined definition.children) s records s' ∧
      ∀ i, i ∈ removed ↔ i ∈ removedIndices (sites isDefined definition.children) records := by
  have hsteps := Found.steps_apply evaluate ⟨.empty, []⟩ (classify isDefined definition) s
  rw [filterMap_classify] at hsteps
  rw [extractDeclarations_apply]
  rcases hs : Found.steps evaluate ⟨.empty, []⟩ (classify isDefined definition) s with
    ⟨e | found, s'⟩
  · simp only [hs] at hsteps ⊢
    exact .inl ⟨e, s', rfl, hsteps⟩
  · simp only [hs] at hsteps ⊢
    obtain ⟨records, hreads, hdeclarations, hremoved⟩ := hsteps
    have hkept : found.declarations = Declarations.keptAs records := hdeclarations
    exact .inr ⟨records, found.removed, s', by rw [hkept], hreads, fun i =>
      (hremoved i).trans (or_iff_right List.not_mem_nil)⟩

/-- Every declaration is read, in document order, and the definition loses what they take out and
nothing else; or the first that cannot be read fails the extraction, and the definition is what it
was. -/
theorem extractDeclarations_spec (evaluate : Evaluator σ) (isDefined : String → Bool)
    (definition : Element) (s : σ) :
    let places := sites isDefined definition.children
    match extractDeclarations evaluate isDefined (definition, s) with
    | (.error e, (element, s')) => element = definition ∧ Fails evaluate places s e s'
    | (.ok ds, (element, s')) => ∃ records, Reads evaluate places s records s' ∧
        Extracted definition element places records ds := by
  intro places
  rcases extractDeclarations_cases evaluate isDefined definition s with
    ⟨e, s', heq, hfails⟩ | ⟨records, removed, s', heq, hreads, hremoved⟩
  · rw [heq]
    exact ⟨rfl, hfails⟩
  · rw [heq]
    exact ⟨records, hreads, hreads.extracted definition hremoved⟩

/-- A definition with a block, a hook, a property that is declared again and a method. -/
def furnished : Element := ⟨"x-d", [], [
  .text " <@go (e)> run(e) ", .text "\n", .comment "@go", .element "connected" [] [.text "begin()"],
  .element "n" [] [.text "1"], .element "m" [⟨"(a,", none⟩, ⟨"b)", none⟩] [.text "return a"],
  .element "N" [] [.text "null"], .text "rest"]⟩

/-- The block, the hook and the method are taken out of it. Of the property the last value counts,
where the first stood. -/
theorem extractDeclarations_spec_furnished :
    let out := extractDeclarations Script.Engine.standard.evaluate (fun _ => false) (furnished, [])
    let parts (e : String × Declaration) := match e.2.member with
      | .method parameters body => (e.1, parameters, body)
      | .property value => (e.1, [], value.display)
    let label (n : Node) := match n with
      | .element tag _ _ => tag
      | .text text => text
      | .comment text => text
    (∃ ds records, out.1 = .ok ds ∧ records.length = 5 ∧
      Extracted furnished out.2.1 (sites (fun _ => false) furnished.children) records ds) ∧
    out.1.toOption.map (fun ds => ds.entries.map parts) = some [("onGo", ["e"], "run(e)"),
      ("connected", [], "begin()"), ("n", [], "null"), ("m", ["a", "b"], "return a")] ∧
    out.2.1.children.map label = ["\n", "n", "N", "rest"] := by
  intro out parts label
  have hread : out.1.toOption.map (fun ds => ds.entries.map parts) =
      some [("onGo", ["e"], "run(e)"), ("connected", [], "begin()"), ("n", [], "null"),
        ("m", ["a", "b"], "return a")] := by decide +kernel
  refine ⟨?_, hread, by decide +kernel⟩
  have hspec :=
    extractDeclarations_spec Script.Engine.standard.evaluate (fun _ => false) furnished []
  rcases hout : out with ⟨e | ds, element, lines⟩
  · rw [hout] at hread
    exact nomatch hread
  · rw [show extractDeclarations _ _ _ = _ from hout] at hspec
    obtain ⟨records, -, hextracted⟩ := hspec
    have hlength : (sites (fun _ => false) furnished.children).length = 5 := by decide +kernel
    exact ⟨ds, records, rfl, hextracted.length_records.trans hlength, hextracted⟩

end Componentry
