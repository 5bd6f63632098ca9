import Componentry.Proofs.Declaration.Extraction
import Componentry.Proofs.Declaration.Hyphenation

/-!
# Reserved names in any spelling

A tag `SpellsReserved` if it is a reserved name, hyphens and letter case aside. Such a tag declares
nothing, whatever stands beside it (`declareElement_reserved`). What is checked is not the tag but
the name of its member, so the letters of the two have to be compared: they are the same unless a
word of the tag begins with a character beyond ASCII (`foldName_memberName`), whose upper-case form
may be an ASCII letter.

A definition with such an element is not read (`extractDeclarations_spellsReserved`). Blocks have no
part in this (`declareBlock_ne_reserved`), as their tags begin with `on`.
-/

namespace Componentry

open Markup Text

def unhyphenated (tag : String) : String := String.ofList (tag.toList.filter (· ≠ '-'))

/-- The tag is a reserved name, hyphens and letter case aside. -/
def SpellsReserved (tag : String) : Prop :=
  ∃ name ∈ reservedNames, sameName (unhyphenated tag) (unhyphenated name) = true

instance (tag : String) : Decidable (SpellsReserved tag) :=
  inferInstanceAs (Decidable (∃ name ∈ reservedNames, _))

theorem sameName_unhyphenated_iff {tag tag' : String} :
    sameName (unhyphenated tag) (unhyphenated tag') = true ↔ foldName tag = foldName tag' := by
  rw [sameName_iff, ← String.toList_inj, toList_lower, toList_lower, unhyphenated, unhyphenated,
    String.toList_ofList, String.toList_ofList, foldName, foldName]

theorem spellsReserved_iff {tag : String} :
    SpellsReserved tag ↔ ∃ name ∈ reservedNames, foldName tag = foldName name :=
  exists_congr fun _ => and_congr_right fun _ => sameName_unhyphenated_iff

theorem isReservedName_iff {name : String} : isReservedName name = true ↔ SpellsReserved name := by
  rw [isReservedName, List.any_eq_true, spellsReserved_iff]
  exact exists_congr fun r => and_congr_right fun _ => beq_iff_eq.trans eq_comm

theorem isReservedName_congr {name name' : String} (h : foldName name = foldName name') :
    isReservedName name = isReservedName name' := by
  rw [isReservedName, isReservedName, h]

section folding

theorem flatten_splitAt (c : Char) (s : List Char) :
    (Text.splitAt c s).flatten = s.filter (· ≠ c) := by
  induction s with
  | nil => rfl
  | cons d s ih =>
      rw [Text.splitAt]
      by_cases hd : d = c
      · rw [if_pos hd, List.filter_cons_of_neg (by simpa using hd), ← ih]
        rfl
      · rw [if_neg hd, List.filter_cons_of_pos (by simpa using hd), ← ih]
        cases Text.splitAt c s <;> rfl

/-- The words of a tag make up its letters. -/
theorem flatten_tagSegments (tag : String) : (tagSegments tag).flatten = foldName tag := by
  rw [tagSegments, ← List.map_flatten, List.flatten_filter_ne_nil, flatten_splitAt, foldName]

/-- A word that begins with an ASCII character has the same letters with its first one raised. -/
theorem map_toLower_capitalize {w : List Char} (h : ∀ c ∈ w.head?, c.toNat < 0x80) :
    (capitalize w).map Char.toLower = w.map Char.toLower := by
  cases w with
  | nil => rfl
  | cons c w =>
      rw [capitalize_cons, upperForm, if_pos (h c rfl), List.singleton_append, List.map_cons,
        List.map_cons, Char.toLower_toUpper_eq_toLower]

theorem foldName_eq_map {name : String} (h : '-' ∉ name.toList) :
    foldName name = name.toList.map Char.toLower := by
  rw [foldName, List.filter_eq_self.2]
  rintro c hc
  exact decide_eq_true (ne_of_mem_of_not_mem hc h)

/-- A member has the letters of its tag, if the words of the tag begin with ASCII characters. -/
theorem foldName_memberName {tag : String}
    (h : ∀ w ∈ tagSegments tag, ∀ c ∈ w.head?, c.toNat < 0x80) :
    foldName (memberName tag) = foldName tag := by
  rw [foldName_eq_map (hyphen_not_mem_memberName tag), ← flatten_tagSegments]
  cases hwords : tagSegments tag with
  | nil => rw [memberName, hwords]; rfl
  | cons w ws =>
      rw [hwords] at h
      have hlower : ∀ v ∈ w :: ws, v.map Char.toLower = v := by
        rw [← hwords]
        exact fun v hv => map_toLower_eq_self (of_mem_tagSegments hv).2.2
      have hraised : ∀ v ∈ ws, (capitalize v).map Char.toLower = v := fun v hv =>
        (map_toLower_capitalize (h v (List.mem_cons_of_mem w hv))).trans
          (hlower v (List.mem_cons_of_mem w hv))
      rw [toList_memberName tag hwords, List.map_append, hlower w List.mem_cons_self,
        List.map_flatMap, List.flatMap_congr hraised, List.flatMap_id', List.flatten_cons]

/-- A long `s` is raised to an `S`. -/
example : foldName (memberName "con-ſtructor") = foldName "constructor" ∧
    ¬ SpellsReserved "con-ſtructor" := by decide +kernel

theorem toNat_toLower_lt_iff {c : Char} : c.toLower.toNat < 0x80 ↔ c.toNat < 0x80 := by
  by_cases h : c.isUpper = true
  · have halpha : c.isAlpha = true := by rw [Char.isAlpha, h, Bool.true_or]
    have halpha' : c.toLower.isAlpha = true := by rw [Char.isAlpha_toLower_eq_isAlpha, halpha]
    exact iff_of_true (toNat_lt_of_isAlpha halpha') (toNat_lt_of_isAlpha halpha)
  · rw [Char.toLower_eq_of_not_isUpper h]

theorem mem_foldName {name : String} {c : Char} :
    c ∈ foldName name ↔ ∃ d ∈ name.toList, d ≠ '-' ∧ d.toLower = c := by
  simp [foldName, and_assoc]

/-- The letters of a tag are ASCII exactly if the tag is. -/
theorem forall_mem_foldName_iff {tag : String} :
    (∀ c ∈ foldName tag, c.toNat < 0x80) ↔ ∀ c ∈ tag.toList, c.toNat < 0x80 := by
  constructor
  · intro h c hc
    by_cases hhyphen : c = '-'
    · rw [hhyphen]
      decide
    · exact toNat_toLower_lt_iff.1 (h _ (mem_foldName.2 ⟨c, hc, hhyphen, rfl⟩))
  · intro h c hc
    obtain ⟨d, hd, -, rfl⟩ := mem_foldName.1 hc
    exact toNat_toLower_lt_iff.2 (h d hd)

theorem SpellsReserved.toNat_lt {tag : String} (h : SpellsReserved tag) :
    ∀ c ∈ tag.toList, c.toNat < 0x80 := by
  have hreserved : ∀ name ∈ reservedNames, (foldName name).all (·.toNat < 0x80) = true := by decide
  obtain ⟨name, hname, hfold⟩ := spellsReserved_iff.1 h
  rw [← forall_mem_foldName_iff, hfold]
  exact fun c hc => of_decide_eq_true (List.all_eq_true.1 (hreserved name hname) c hc)

/-- For a tag in ASCII, the member is reserved exactly if the tag is. -/
theorem isReservedName_memberName_iff {tag : String} (h : ∀ c ∈ tag.toList, c.toNat < 0x80) :
    isReservedName (memberName tag) = true ↔ SpellsReserved tag := by
  have hfold : foldName (memberName tag) = foldName tag := by
    refine foldName_memberName fun w hw c hc => forall_mem_foldName_iff.2 h c ?_
    rw [← flatten_tagSegments]
    exact List.mem_flatten_of_mem hw (List.mem_of_mem_head? hc)
  rw [isReservedName_congr hfold, isReservedName_iff]

theorem SpellsReserved.isReservedName_memberName {tag : String} (h : SpellsReserved tag) :
    isReservedName (memberName tag) = true :=
  (isReservedName_memberName_iff h.toNat_lt).2 h

end folding

section errors

variable {σ : Type} {evaluate : Evaluator σ} {s s' : σ} {e : DeclarationError}

/-- A parameter list that cannot be read is blamed on the tag that it stands in. -/
theorem markersOf_eq_error {tag : String} {names : List String}
    (h : markersOf tag names = .error e) : ∃ fault, e = .malformedParameters tag fault := by
  induction names with
  | nil => cases h
  | cons n ns ih =>
      unfold markersOf at h
      rcases hn : parameters? n with fault | _ | ps
      · rw [hn] at h
        cases h
        exact ⟨fault, rfl⟩
      · rw [hn] at h
        exact ih h
      · rw [hn] at h
        cases hns : markersOf tag ns with
        | error e' =>
            simp only [hns] at h
            cases h
            exact ih hns
        | ok ms =>
            simp only [hns] at h
            cases h

theorem evaluateProperty_apply (evaluate : Evaluator σ) (name text : String) (s : σ) :
    evaluateProperty evaluate name text s =
      match evaluate text s with
      | (.ok v, s') => (.ok v, s')
      | (.error cause, s') => (.error (.evaluation name cause), s') := by
  have hvalue : (liftM (evaluate text) : Extracting σ (Except Script.ScriptError Value)) s =
      (.ok (evaluate text s).1, (evaluate text s).2) := rfl
  rw [evaluateProperty, Extracting.bind_apply, hvalue]
  rcases evaluate text s with ⟨_ | v, s'⟩ <;> rfl

/-- With its name settled, a declaration fails for its parameter lists or for its value. -/
theorem declarationOf_eq_error {name text : String} {markers : List (List String)}
    (h : declarationOf evaluate name markers text s = (.error e, s')) :
    e = .ambiguous name markers.length ∨ ∃ cause, e = .evaluation name cause := by
  unfold declarationOf at h
  match markers with
  | _ :: _ :: _ =>
      cases h
      exact .inl rfl
  | [parameters] => cases h
  | [] =>
      cases hl : Lifecycle.ofName? name with
      | some l =>
          simp only [hl] at h
          cases h
      | none =>
          simp only [hl, Extracting.bind_apply, evaluateProperty_apply] at h
          rcases hv : evaluate text s with ⟨cause | v, s₁⟩
          · simp only [hv] at h
            cases h
            exact .inr ⟨cause, rfl⟩
          · simp only [hv] at h
            cases h

/-- A declaration fails for its name before it is looked at any further, and only then does it fail
for its name. -/
theorem declare_eq_reservedName_iff {tag text name : String} {attributes : List String} :
    declare evaluate tag attributes text s = (.error (.reservedName name), s') ↔
      isReservedName (memberName tag) = true ∧ name = memberName tag ∧ s' = s := by
  unfold declare
  rw [Extracting.bind_apply, Extracting.lift_apply]
  by_cases hreserved : isReservedName (memberName tag) = true
  · rw [checkedName, if_pos hreserved]
    constructor
    · intro h
      cases h
      exact ⟨hreserved, rfl, rfl⟩
    · rintro ⟨-, rfl, rfl⟩
      rfl
  · rw [checkedName, if_neg hreserved]
    refine iff_of_false (fun h => ?_) fun h => hreserved h.1
    simp only [Extracting.bind_apply, Extracting.lift_apply] at h
    cases hmarkers : markersOf tag (joinMarkers attributes) with
    | error e =>
        simp only [hmarkers] at h
        obtain ⟨fault, rfl⟩ := markersOf_eq_error hmarkers
        cases h
    | ok markers =>
        simp only [hmarkers] at h
        rcases declarationOf_eq_error h with heq | ⟨cause, heq⟩
        · cases heq
        · cases heq

end errors

section block

variable {σ : Type}

theorem tagSegments_block (block : Block) :
    ∃ words, tagSegments block.tag = ['o', 'n'] :: words := by
  have htag : block.tag.toList = 'o' :: 'n' :: '-' :: block.name.toList := by
    simp [Block.tag]
  rw [tagSegments, htag]
  exact ⟨_, rfl⟩

/-- No reserved name begins as the tag of a block. -/
theorem isReservedName_memberName_block (block : Block) :
    isReservedName (memberName block.tag) = false := by
  obtain ⟨words, hwords⟩ := tagSegments_block block
  have hfirst : ∀ r ∈ reservedNames, (foldName r).take 2 ≠ ['o', 'n'] := by decide +kernel
  have hname : (foldName (memberName block.tag)).take 2 = ['o', 'n'] := by
    rw [foldName_eq_map (hyphen_not_mem_memberName _), toList_memberName _ hwords]
    rfl
  rw [Bool.eq_false_iff, Ne, isReservedName_iff, spellsReserved_iff]
  rintro ⟨r, hr, heq⟩
  exact hfirst r hr (heq ▸ hname)

theorem declareBlock_ne_reserved (evaluate : Evaluator σ) (block : Block) (marker name : String)
    (s s' : σ) : declareBlock evaluate block marker s ≠ (.error (.reservedName name), s') := by
  intro h
  unfold declareBlock at h
  split at h
  · have hreserved := (declare_eq_reservedName_iff.1 h).1
    rw [isReservedName_memberName_block] at hreserved
    cases hreserved
  · cases h

end block

section element

variable {σ : Type}

/-- An element whose tag spells a reserved name declares nothing, whatever its attributes and its
text; of the elements with tags in ASCII, no others fail in this way. -/
theorem declareElement_reserved (evaluate : Evaluator σ) (e : Element) (s : σ) :
    (SpellsReserved e.tag →
        declareElement evaluate e s = (.error (.reservedName (memberName e.tag)), s)) ∧
      ((∀ c ∈ e.tag.toList, c.toNat < 0x80) → ∀ name s',
        declareElement evaluate e s = (.error (.reservedName name), s') →
          SpellsReserved e.tag) := by
  refine ⟨fun h => ?_, fun hascii name s' h => ?_⟩
  · exact declare_eq_reservedName_iff.2 ⟨h.isReservedName_memberName, rfl, rfl⟩
  · exact (isReservedName_memberName_iff hascii).1 (declare_eq_reservedName_iff.1 h).1

/-- Neither the list, which cannot be read, nor the text, which cannot be evaluated, is looked
at. -/
theorem declareElement_reserved_shadow :
    let e : Element := ⟨"-Shadow--ROOT", [⟨"(a,,b)", none⟩], [.text "1 +"]⟩
    let evaluate := Script.Engine.standard.evaluate
    SpellsReserved e.tag ∧
      declareElement evaluate e ["seen"] = (.error (.reservedName "shadowRoot"), ["seen"]) ∧
      (∀ c ∈ e.tag.toList, c.toNat < 0x80) ∧
      (declareElement evaluate e ["seen"] = (.error (.reservedName "shadowRoot"), ["seen"]) →
        SpellsReserved e.tag) := by
  intro e evaluate
  obtain ⟨hfails, honly⟩ := declareElement_reserved evaluate e ["seen"]
  have hspelled : SpellsReserved e.tag := by decide +kernel
  have hname : memberName e.tag = "shadowRoot" := by decide +kernel
  have hascii : ∀ c ∈ e.tag.toList, c.toNat < 0x80 := by simp [e]
  exact ⟨hspelled, hname ▸ hfails hspelled, hascii, honly hascii _ _⟩

end element

section definition

variable {σ : Type} {evaluate : Evaluator σ} {isDefined : String → Bool} {s s' : σ}

/-- The elements among the places of declarations are those that declare members. -/
theorem element_mem_sites_iff {definition child : Element} {i : Nat} :
    Site.element i child ∈ sites isDefined definition.children ↔
      definition.children[i]? = some child.node ∧ declaresMember isDefined child.tag = true := by
  have hholds : .element i child ∈ classify isDefined definition ↔
      definition.children[i]? = some child.node ∧ declaresMember isDefined child.tag = true := by
    rw [element_mem_classify_iff, declaresMember_iff]
    rfl
  rw [← filterMap_classify, List.mem_filterMap, ← hholds]
  constructor
  · rintro ⟨c, hc, hsite⟩
    cases c with
    | blank j => cases hsite
    | structural j => cases hsite
    | pair j k text marker =>
        obtain ⟨b, -, heq⟩ := Option.map_eq_some_iff.1 hsite
        cases heq
    | element j e =>
        cases hsite
        exact hc
  · exact fun h => ⟨_, h, rfl⟩

theorem Reads.exists_declare {places : List Site} {records : List Declaration} {site : Site}
    (h : Reads evaluate places s records s') (hsite : site ∈ places) :
    ∃ d s₁ s₂, site.declare evaluate s₁ = (.ok d, s₂) := by
  induction h with
  | nil s => cases hsite
  | cons hd _ ih =>
      rcases List.mem_cons.1 hsite with rfl | hrest
      · exact ⟨_, _, _, hd⟩
      · exact ih hrest

/-- A definition is not read if an element in it declares a member and spells a reserved name. -/
theorem extractDeclarations_spellsReserved {definition child : Element}
    (hchild : child.node ∈ definition.children)
    (hdeclares : declaresMember isDefined child.tag = true) (h : SpellsReserved child.tag)
    (evaluate : Evaluator σ) (s : σ) :
    ∃ e s', extractDeclarations evaluate isDefined (definition, s) =
      (.error e, (definition, s')) := by
  rcases extractDeclarations_cases evaluate isDefined definition s with
    ⟨e, s', heq, -⟩ | ⟨records, removed, s', -, hreads, -⟩
  · exact ⟨e, s', heq⟩
  · obtain ⟨i, hi⟩ := List.getElem?_of_mem hchild
    obtain ⟨d, s₁, s₂, hread⟩ :=
      hreads.exists_declare (element_mem_sites_iff.2 ⟨hi, hdeclares⟩)
    have hfails : declareElement evaluate child s₁ =
        (.error (.reservedName (memberName child.tag)), s₁) :=
      declare_eq_reservedName_iff.2 ⟨h.isReservedName_memberName, rfl, rfl⟩
    cases hread.symm.trans hfails

/-- The name that is found reserved is that of an element in the definition. -/
theorem exists_element_of_reservedName {definition : Element} {name : String} {r : Element × σ}
    (h : extractDeclarations evaluate isDefined (definition, s) =
      (.error (.reservedName name), r)) :
    ∃ child : Element, child.node ∈ definition.children ∧
      declaresMember isDefined child.tag = true ∧ memberName child.tag = name ∧
      isReservedName name = true := by
  obtain ⟨e, s', heq, hfailed⟩ | ⟨_, _, _, heq, -⟩ :=
    extractDeclarations_cases evaluate isDefined definition s
  swap
  · cases h.symm.trans heq
  cases h.symm.trans heq
  obtain ⟨before, site, after, records, s₁, hplaces, -, hfails⟩ := hfailed
  have hsite : site ∈ sites isDefined definition.children := by
    rw [hplaces]
    exact List.mem_append_right before List.mem_cons_self
  cases site with
  | block i j b marker => exact absurd hfails (declareBlock_ne_reserved evaluate b marker _ _ _)
  | element i child =>
      obtain ⟨hget, hdeclares⟩ := element_mem_sites_iff.1 hsite
      obtain ⟨hreserved, rfl, -⟩ := declare_eq_reservedName_iff.1 hfails
      exact ⟨child, List.mem_of_getElem? hget, hdeclares, rfl, hreserved⟩

end definition

end Componentry
