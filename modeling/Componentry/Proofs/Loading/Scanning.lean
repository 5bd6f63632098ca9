import Componentry.Proofs.Loading.Session

/-!
# Scanning and observing agree

The components of a document are found by looking through its tree, and those of a record by looking
at the nodes that were added. Where no container lies in another, the components of a forest are
those of its containers, one after the other in the order of the document
(`components_eq_flatMap`). So a loader that scans the forest does the same as one that is given a
record for each container (`discover_eq_handleMutation`).
-/

namespace Componentry

open Markup

variable {A : Type}

namespace Markup.Node

mutual

def elements : Node → List Element
  | .element tag attributes children => ⟨tag, attributes, children⟩ :: allElements children
  | _ => []

def allElements : List Node → List Element
  | [] => []
  | n :: ns => n.elements ++ allElements ns

end

end Markup.Node

/-- The record of an element with all its children added. -/
def Mutation.of (e : Element) : Mutation := ⟨e.tag, e.children⟩

namespace Loader

variable {config : Config A}

def isContainer (config : Config A) (e : Element) : Bool := Text.sameName e.tag config.containerTag

def containers (config : Config A) (nodes : List Node) : List Element :=
  (Node.allElements nodes).filter (isContainer config)

/-- No container lies in any of the elements. -/
def Unnested (config : Config A) (es : List Element) : Prop :=
  ∀ e ∈ es, containers config e.children = []

def added (config : Config A) (e : Element) : List Element := definitionsIn config e.children

theorem componentsOf_element (e : Element) :
    componentsOf config e.node =
      if isContainer config e then added config e else components config e.children := by
  rw [Element.node, componentsOf]
  rfl

mutual

theorem componentsOf_eq_flatMap : (n : Node) →
    Unnested config (n.elements.filter (isContainer config)) →
    componentsOf config n = (n.elements.filter (isContainer config)).flatMap (added config)
  | .text _, _ | .comment _, _ => rfl
  | .element tag attributes children, h => by
      rw [Node.elements] at h ⊢
      change componentsOf config (Element.node ⟨tag, attributes, children⟩) = _
      rw [componentsOf_element]
      by_cases hcontainer : isContainer config ⟨tag, attributes, children⟩ = true
      · rw [List.filter_cons_of_pos hcontainer] at h ⊢
        have hnone : (Node.allElements children).filter (isContainer config) = [] :=
          h _ List.mem_cons_self
        rw [if_pos hcontainer, hnone, List.flatMap_singleton]
      · rw [List.filter_cons_of_neg hcontainer] at h ⊢
        rw [if_neg hcontainer]
        exact components_eq_flatMap children h

/-- The components of a forest are those of its containers, unless one lies in another. -/
theorem components_eq_flatMap : (nodes : List Node) → Unnested config (containers config nodes) →
    components config nodes = (containers config nodes).flatMap (added config)
  | [], _ => rfl
  | n :: ns, h => by
      rw [containers, Node.allElements, List.filter_append] at h ⊢
      have hfirst := componentsOf_eq_flatMap n fun e he => h e (List.mem_append_left _ he)
      have hrest := components_eq_flatMap ns fun e he => h e (List.mem_append_right _ he)
      rw [components, hfirst, hrest, containers, List.flatMap_append]

end

variable [Addressing A]

theorem handleMutation_of {e : Element} {l : Loader A} (h : isContainer l.config e = true) :
    handleMutation (.of e) l =
      (some (discover (added l.config e) l).1, (discover (added l.config e) l).2) := by
  have heq : handleMutation (.of e) l =
      (if isContainer l.config e then (do return some (← discover (added l.config e)))
      else pure none : Loading A (Option Summary)) l := rfl
  rw [heq, if_pos h]
  rfl

/-- Records of containers come to the same as their components found one after the other. -/
theorem mapM_handleMutation (es : List Element) (l : Loader A)
    (h : ∀ e ∈ es, isContainer l.config e = true) :
    ∃ summaries : List Summary,
      (es.map Mutation.of).mapM handleMutation l =
          (summaries.map some, (discover (es.flatMap (added l.config)) l).2) ∧
        summaries.foldr (· ++ ·) .empty = (discover (es.flatMap (added l.config)) l).1 := by
  induction es generalizing l with
  | nil => exact ⟨[], rfl, rfl⟩
  | cons e es ih =>
      have hconfig : (discover (added l.config e) l).2.config = l.config :=
        (discover_steps (added l.config e) l).config_eq
      obtain ⟨summaries, hrest, hfold⟩ := ih (discover (added l.config e) l).2
        fun e' he' => by rw [hconfig]; exact h e' (List.mem_cons_of_mem e he')
      rw [hconfig] at hrest hfold
      refine ⟨(discover (added l.config e) l).1 :: summaries, ?_, ?_⟩
      · rw [List.flatMap_cons, discover_append_apply, List.map_cons, List.mapM_cons]
        simp only [bind_apply, handleMutation_of (h e List.mem_cons_self), hrest, pure_apply,
          List.map_cons]
      · rw [List.flatMap_cons, discover_append_apply, List.foldr_cons, hfold]

/-- Scanning and observing agree. Where no container of a forest lies in another, discovering the
components of the forest leaves the loader that handling a record for each container leaves, and its
summary is their summaries one after the other. Without containers neither does anything. -/
theorem discover_eq_handleMutation (l : Loader A) (nodes : List Node)
    (h : Unnested l.config (containers l.config nodes)) :
    (∃ summaries : List Summary,
      ((containers l.config nodes).map Mutation.of).mapM handleMutation l =
          (summaries.map some, (discover (components l.config nodes) l).2) ∧
        summaries.foldr (· ++ ·) .empty = (discover (components l.config nodes) l).1) ∧
      (containers l.config nodes = [] →
        discover (components l.config nodes) l = (.empty, l) ∧
          ((containers l.config nodes).map Mutation.of).mapM handleMutation l = ([], l)) := by
  rw [components_eq_flatMap nodes h]
  refine ⟨mapM_handleMutation _ l fun e he => (List.mem_filter.1 he).2, fun hnone => ?_⟩
  rw [hnone]
  exact ⟨rfl, rfl⟩

/-- A container in another element, one beside it and an empty one, with tags in any letters. One of
their components is registered and the other fails for want of an element. -/
theorem discover_eq_handleMutation_apart :
    let l := start (.default : Config Url.Address)
    let nodes : List Node :=
      [.element "div" [] [.text "a", .element "Imports" []
        (.text "b" :: .element "COMPONENT" [] (forest "<x-a><n>1</n></x-a>") :: forest "<i></i>")],
        .element "IMPORTS" [] (forest "<component>c</component>"), .element "imports" [] []]
    (∀ e ∈ containers l.config nodes, containers l.config e.children = []) ∧
      (∃ summaries : List Summary,
        ((containers l.config nodes).map Mutation.of).mapM handleMutation l =
            (summaries.map some, (discover (components l.config nodes) l).2) ∧
          summaries.foldr (· ++ ·) .empty = (discover (components l.config nodes) l).1) ∧
      (discover (components l.config nodes) l).1 = ⟨["x-a"], ["inline#1"]⟩ ∧
      discover (components l.config (forest "<p>c</p>")) l = (.empty, l) := by
  intro l nodes
  have hunnested : ∀ e ∈ containers l.config nodes, containers l.config e.children = [] := by
    decide +kernel
  have hnone : containers l.config (forest "<p>c</p>") = [] := by decide +kernel
  have hunnested' : Unnested l.config (containers l.config (forest "<p>c</p>")) := by
    rw [hnone]
    exact nofun
  exact ⟨hunnested, (discover_eq_handleMutation l nodes hunnested).1, by decide +kernel,
    ((discover_eq_handleMutation l _ hunnested').2 hnone).1⟩

end Loader

end Componentry
