import Componentry.Proofs.Declaration.Extraction

/-!
# What the reading of a definition depends on

An evaluator is steady if its values do not depend on its state. With such an evaluator what comes
of a definition depends on nothing but the definition and which of its child elements have types of
their own: `extract_congr`. Each step of an extraction is steady because the evaluator is
(`Found.steady_steps`), and `classify` looks at the types of child elements only
(`classify_congr`).
-/

namespace Componentry

open Markup

variable {σ α β : Type}

/-- The values do not depend on the state. -/
def Evaluator.Steady (evaluate : Evaluator σ) : Prop :=
  ∀ text s s', (evaluate text s).1 = (evaluate text s').1

namespace Extracting

def Steady (m : Extracting σ α) : Prop := ∀ s s', (m s).1 = (m s').1

theorem steady_pure (a : α) : Steady (pure a : Extracting σ α) := fun _ _ => rfl

theorem steady_throw (e : DeclarationError) : Steady (throw e : Extracting σ α) := fun _ _ => rfl

theorem steady_lift (r : Except DeclarationError α) : Steady (liftM r : Extracting σ α) := by
  intro s s'
  rw [lift_apply, lift_apply]

theorem Steady.bind {m : Extracting σ α} {f : α → Extracting σ β} (hm : m.Steady)
    (hf : ∀ a, (f a).Steady) : (m >>= f).Steady := by
  intro s s'
  have hfirst := hm s s'
  rw [bind_apply, bind_apply]
  rcases hs : m s with ⟨r, s₁⟩
  rcases hs' : m s' with ⟨r', s₁'⟩
  rw [hs, hs'] at hfirst
  cases hfirst
  cases r with
  | error e => rfl
  | ok a => exact hf a s₁ s₁'

end Extracting

section steady

open Extracting

variable {evaluate : Evaluator σ} (h : evaluate.Steady)

include h

theorem steady_evaluateProperty (name text : String) :
    (evaluateProperty evaluate name text).Steady := by
  have hvalue : (liftM (evaluate text) : Extracting σ (Except Script.ScriptError Value)).Steady :=
    fun s s' => congrArg Except.ok (h text s s')
  refine hvalue.bind fun r => ?_
  cases r with
  | ok v => exact steady_pure v
  | error cause => exact steady_throw _

theorem steady_declarationOf (name : String) (markers : List (List String)) (text : String) :
    (declarationOf evaluate name markers text).Steady := by
  unfold declarationOf
  split
  · exact steady_throw _
  · exact steady_pure _
  · split
    · exact steady_pure _
    · exact (steady_evaluateProperty h name text).bind fun _ => steady_pure _

theorem steady_declare (tag : String) (attributes : List String) (text : String) :
    (declare evaluate tag attributes text).Steady :=
  (steady_lift (checkedName tag)).bind fun name =>
    (steady_lift (markersOf tag (joinMarkers attributes))).bind fun markers =>
      steady_declarationOf h name markers text

theorem steady_declarePair (text marker : String) : (declarePair evaluate text marker).Steady := by
  unfold declarePair
  split
  · exact steady_pure _
  · next block _ =>
    refine Steady.bind ?_ fun _ => steady_pure _
    unfold declareBlock
    split
    · exact steady_declare h block.tag block.attributes block.body
    · exact steady_throw _

theorem Found.steady_step (found : Found) (c : Classification) :
    (found.step evaluate c).Steady := by
  cases c with
  | blank i => exact steady_pure _
  | structural i => exact steady_pure _
  | element i e => exact (steady_declare h _ _ _).bind fun _ => steady_pure _
  | pair i j text marker =>
      refine (steady_declarePair h text marker).bind fun d => ?_
      cases d with
      | none => exact steady_pure _
      | some d => exact steady_pure _

theorem Found.steady_steps (found : Found) (cs : List Classification) :
    (Found.steps evaluate found cs).Steady := by
  induction cs generalizing found with
  | nil => exact steady_pure found
  | cons c cs ih => exact (steady_step h found c).bind ih

end steady

variable {isDefined isDefined' : String → Bool}

theorem classifyFrom_congr {ns : List Node}
    (h : ∀ child ∈ ns.filterMap Node.element?, isDefined child.tag = isDefined' child.tag)
    (index : Nat) (waiting : Waiting) :
    classifyFrom isDefined index waiting ns = classifyFrom isDefined' index waiting ns := by
  induction ns generalizing index waiting with
  | nil => rfl
  | cons n ns ih =>
      cases n with
      | text s =>
          have hrest := ih h
          simp only [classifyFrom, hrest]
      | comment s =>
          have hrest := ih h
          simp only [classifyFrom, hrest]
      | element tag attributes children =>
          have hall := List.forall_mem_cons.1 h
          have htag : declaresMember isDefined tag = declaresMember isDefined' tag :=
            congrArg (!isStandard tag && !·) hall.1
          have hrest := ih hall.2
          simp only [classifyFrom, htag, hrest]

theorem classify_congr {definition : Element}
    (h : ∀ child ∈ definition.childElements, isDefined child.tag = isDefined' child.tag) :
    classify isDefined definition = classify isDefined' definition :=
  classifyFrom_congr h 0 none

/-- Nothing but the definition and which of its child elements have types decides what comes of
it. -/
theorem extract_congr {evaluate : Evaluator σ} (hsteady : evaluate.Steady) {definition : Element}
    (h : ∀ child ∈ definition.childElements, isDefined child.tag = isDefined' child.tag)
    (s s' : σ) :
    (extract evaluate isDefined definition s).1 =
      (extract evaluate isDefined' definition s').1 := by
  have hfound := Found.steady_steps hsteady ⟨.empty, []⟩ (classify isDefined' definition) s s'
  unfold extract
  rw [extractDeclarations_apply, extractDeclarations_apply, classify_congr h]
  rcases hs : Found.steps evaluate ⟨.empty, []⟩ (classify isDefined' definition) s with ⟨r, s₁⟩
  rcases hs' : Found.steps evaluate ⟨.empty, []⟩ (classify isDefined' definition) s' with ⟨r', s₁'⟩
  rw [hs, hs'] at hfound
  cases hfound
  cases r with
  | error e => rfl
  | ok found => rfl

/-- A definition keeps its tag when its declarations are taken out. -/
theorem tag_of_extract {evaluate : Evaluator σ} {definition : Element} {s s' : σ}
    {read : Definition} (h : extract evaluate isDefined definition s = (.ok read, s')) :
    read.element.tag = definition.tag := by
  unfold extract at h
  rw [extractDeclarations_apply] at h
  rcases hs : Found.steps evaluate ⟨.empty, []⟩ (classify isDefined definition) s with ⟨r, s₁⟩
  rw [hs] at h
  cases r with
  | error e => exact nomatch h
  | ok found =>
      cases h
      rfl

end Componentry
