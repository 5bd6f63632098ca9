import Componentry.Markup.Tree
import Componentry.Proofs.Element.Activation
import Componentry.Proofs.Script.Course

/-!
# Members of new instances

What a definition declares is found at an instance under the name of the declaration. A property is
a field, which reads as its value and as whatever is written to it; a method is called with the
instance as `this`. Three names are part of every element, and properties of these names are not
reached: `get?_ofType` and `set_ofType` say so for properties, `call_ofType` for methods.
-/

namespace Componentry

open Script Markup

/-- A member compiles on its own, and is found under its name. -/
theorem find?_compileMembers {engine : Engine} {es : List (String × Declaration)}
    {compiled members : KeyedList TypeMember} (hnodup : (es.map Prod.fst).Nodup)
    (h : compileMembers engine es compiled = .ok members) :
    (∀ e ∈ es, ∃ m, compileMember engine e.1 e.2.member = .ok m ∧ members.find? e.1 = some m) ∧
      ∀ name, name ∉ es.map Prod.fst → members.find? name = compiled.find? name := by
  induction es generalizing compiled with
  | nil =>
      cases h
      exact ⟨nofun, fun _ _ => rfl⟩
  | cons e es ih =>
      obtain ⟨name, d⟩ := e
      rw [List.map_cons, List.nodup_cons] at hnodup
      rw [compileMembers] at h
      rcases hm : compileMember engine name d.member with e | m
      · rw [hm] at h
        exact nomatch h
      · rw [hm] at h
        obtain ⟨hfound, hrest⟩ := ih hnodup.2 h
        refine ⟨fun e he => ?_, fun other hother => ?_⟩
        · rcases List.mem_cons.1 he with rfl | he
          · exact ⟨m, hm, (hrest name hnodup.1).trans (KeyedList.find?_insert_self _ _ _)⟩
          · exact hfound e he
        · rw [List.map_cons, List.mem_cons, not_or] at hother
          exact (hrest other hother.2).trans (KeyedList.find?_insert_of_ne m hother.1)

theorem exists_of_bind_eq_ok {ε α β : Type} {x : Except ε α} {f : α → Except ε β} {b : β}
    (h : (x >>= f) = .ok b) : ∃ a, x = .ok a ∧ f a = .ok b := by
  cases x with
  | error e => exact nomatch h
  | ok a => exact ⟨a, rfl, h⟩

theorem compileMembers_of_synthesize {engine : Engine} {definition : Definition} {t : ElementType}
    (h : synthesize engine definition = .ok t) :
    compileMembers engine
      (definition.declarations.entries.filter fun e => (Lifecycle.ofName? e.1).isNone) .empty =
        .ok t.members := by
  obtain ⟨_, -, h⟩ := exists_of_bind_eq_ok h
  obtain ⟨_, -, h⟩ := exists_of_bind_eq_ok h
  obtain ⟨_, -, h⟩ := exists_of_bind_eq_ok h
  obtain ⟨_, -, h⟩ := exists_of_bind_eq_ok h
  obtain ⟨members, hmembers, h⟩ := exists_of_bind_eq_ok h
  cases h
  exact hmembers

/-- A declaration that is no hook is a member of the type. -/
theorem find?_members {engine : Engine} {definition : Definition} {t : ElementType} {name : String}
    {d : Declaration} (ht : synthesize engine definition = .ok t)
    (hd : definition.declarations.find? name = some d) (hhook : Lifecycle.ofName? name = none) :
    ∃ m, compileMember engine name d.member = .ok m ∧ t.members.find? name = some m := by
  have hmem : (name, d) ∈ definition.declarations.entries.filter
      fun e => (Lifecycle.ofName? e.1).isNone :=
    List.mem_filter.2 ⟨KeyedList.mem_of_find? hd, by rw [hhook]; rfl⟩
  have hnodup := definition.declarations.nodup.sublist
    (List.filter_sublist (p := fun e => (Lifecycle.ofName? e.1).isNone).map Prod.fst)
  exact (find?_compileMembers hnodup (compileMembers_of_synthesize ht)).1 _ hmem

def definitionOf? (source : String) : Option (Definition × ElementType) := do
  let element ← elementOf? source
  let definition ← (extract Engine.standard.evaluate (fun _ => false) element []).1.toOption
  let t ← (synthesize Engine.standard definition).toOption
  return (definition, t)

theorem synthesize_of_definitionOf? {source : String} {definition : Definition} {t : ElementType}
    (h : definitionOf? source = some (definition, t)) :
    synthesize Engine.standard definition = .ok t := by
  obtain ⟨element, -, h⟩ := Option.bind_eq_some_iff.1 h
  obtain ⟨definition', -, h⟩ := Option.bind_eq_some_iff.1 h
  obtain ⟨t', ht, h⟩ := Option.bind_eq_some_iff.1 h
  cases h
  rcases hs : synthesize Engine.standard definition with e | t'
  · rw [hs] at ht
    exact nomatch ht
  · rw [hs] at ht
    cases ht
    rfl

def Value.text? : Value → Option String
  | .string s => some s
  | _ => none

def Definition.text? (definition : Definition) (name : String) : Option String := do
  let d ← definition.declarations.find? name
  match d.member with
  | .property value => value.text?
  | .method .. => none

theorem Definition.exists_property {definition : Definition} {name s : String}
    (h : definition.text? name = some s) :
    ∃ d, definition.declarations.find? name = some d ∧ d.member = .property (.string s) := by
  obtain ⟨d, hd, h⟩ := Option.bind_eq_some_iff.1 h
  refine ⟨d, hd, ?_⟩
  split at h
  · next value hvalue =>
    cases value with
    | string text =>
        cases h
        exact hvalue
    | _ => exact nomatch h
  · exact nomatch h

namespace Instance

def builtIn : List String := ["hidden", "isConnected", "tagName"]

/-- The fields of a new instance, with those in a list of members written over others. -/
theorem find?_foldl_fields {es : List (String × TypeMember)} (hnodup : (es.map Prod.fst).Nodup)
    (fields : KeyedList Value) (name : String) :
    (es.foldl (fun fields e =>
        match e.2 with
        | .field v => fields.insert e.1 v
        | .method _ => fields) fields).find? name =
      match es.lookup name with
      | some (.field v) => some v
      | _ => fields.find? name := by
  induction es generalizing fields with
  | nil => rfl
  | cons e es ih =>
      obtain ⟨key, m⟩ := e
      rw [List.map_cons, List.nodup_cons] at hnodup
      rw [List.foldl_cons, ih hnodup.2, KeyedList.lookup_cons]
      by_cases hname : name = key
      · subst hname
        have hnone : es.lookup name = none := by
          refine List.lookup_eq_none_iff.2 fun e he => ?_
          refine bne_iff_ne.2 fun heq => hnodup.1 ?_
          rw [heq]
          exact List.mem_map.2 ⟨e, he, rfl⟩
        cases m <;> simp [hnone]
      · cases m <;> simp [hname, KeyedList.find?_insert]

theorem find?_initialFields (t : ElementType) (name : String) :
    (initialFields t).find? name =
      match t.members.find? name with
      | some (.field v) => some v
      | _ => (KeyedList.empty.insert "name" (.string t.className)).find? name :=
  find?_foldl_fields t.members.nodup _ name

section property

variable {i : Instance} {name : String}

theorem get?_eq_find? (h : name ∉ builtIn) : i.get? name = i.fields.find? name := by
  simp only [builtIn, List.mem_cons, List.not_mem_nil, or_false, not_or] at h
  rw [get?, if_neg h.1, if_neg h.2.1, if_neg h.2.2]

/-- What is written to a member that not every element has is read from then on. -/
theorem set_eq_insert (h : name ∉ builtIn) (v : Value) (j : Journal) :
    set name v ⟨i, j⟩ = (.ok (), ⟨{ i with fields := i.fields.insert name v }, j⟩) := by
  simp only [builtIn, List.mem_cons, List.not_mem_nil, or_false, not_or] at h
  rw [set, if_neg h.1, if_neg (not_or.2 h.2)]
  rfl

/-- A member that every element has reads as it does at an element without members of its own. -/
theorem get?_builtIn (h : name ∈ builtIn) (t : ElementType) :
    (ofType t).get? name = (ofType { t with members := .empty }).get? name := by
  simp only [builtIn, List.mem_cons, List.not_mem_nil, or_false] at h
  rcases h with rfl | rfl | rfl <;> rfl

/-- Of the members that every element has, one takes a truth and the others take nothing. -/
theorem set_builtIn (h : name ∈ builtIn) (v : Value) (j : Journal) :
    set name v ⟨i, j⟩ =
      if name = "hidden" then (.ok (), ⟨{ i with hidden := v.truthy }, j⟩)
      else (.error .invalidAssignment, ⟨i, j⟩) := by
  simp only [builtIn, List.mem_cons, List.not_mem_nil, or_false] at h
  rcases h with rfl | rfl | rfl <;> rfl

end property

/-- A field cannot be called. -/
theorem callMember_of_field {act : Activation} {i : Instance} {name : String}
    (hfield : i.fields.contains name = true) (args : List Value) (j : Journal) :
    callMember act name args ⟨i, j⟩ = (.error (.notCallable ("this." ++ name)), ⟨i, j⟩) := by
  have hself : (Run.self : Run Instance Instance) ⟨i, j⟩ = (.ok i, ⟨i, j⟩) := rfl
  rw [callMember, Activity.bind_apply, hself]
  simp only [hfield]
  rfl

/-- A method is called where no field has its name. -/
theorem callMember_of_method {act : Activation} {i : Instance} {name : String} {f : Function}
    (hfield : i.fields.find? name = none) (hmethod : i.type.members.find? name = some (.method f))
    (args : List Value) (j : Journal) :
    callMember act name args ⟨i, j⟩ = act f args ⟨i, j⟩ := by
  have hcontains : i.fields.contains name = false := by
    rw [← KeyedList.isSome_find?, hfield]
    rfl
  have hfound : i.method? name = some f := by rw [method?, hmethod]
  have hself : (Run.self : Run Instance Instance) ⟨i, j⟩ = (.ok i, ⟨i, j⟩) := rfl
  rw [callMember, Activity.bind_apply, hself]
  simp only [hcontains, hfound]
  rfl

/-- A declared member of a new instance. A property reads as its value and takes any other value, if
it is not one of those that every element has, which are as if it were not declared; the call of a
method enters its compiled body with the instance as `this`. -/
theorem member_ofType {engine : Engine} {definition : Definition} {t : ElementType} {name : String}
    {d : Declaration} (ht : synthesize engine definition = .ok t)
    (hd : definition.declarations.find? name = some d) (hhook : Lifecycle.ofName? name = none) :
    match d.member with
    | .property value =>
      if name ∈ builtIn then
        (ofType t).get? name = (ofType { t with members := .empty }).get? name ∧
        ∀ v j, set name v ⟨ofType t, j⟩ =
          if name = "hidden" then (.ok (), ⟨{ ofType t with hidden := v.truthy }, j⟩)
          else (.error .invalidAssignment, ⟨ofType t, j⟩)
      else
        (ofType t).get? name = some value ∧
        ∀ v j, ∃ i, set name v ⟨ofType t, j⟩ = (.ok (), ⟨i, j⟩) ∧ i.get? name = some v
    | .method parameters body => name ≠ "name" →
      ∃ f, engine.compile parameters body = .ok f ∧
        ∀ args j, call name args ⟨ofType t, j⟩ =
          enter (activate (callLimit - 1)) f args ⟨ofType t, j⟩ := by
  obtain ⟨m, hcompile, hfound⟩ := find?_members ht hd hhook
  rcases d with ⟨dname, value | ⟨parameters, body⟩⟩
  · cases hcompile
    dsimp only
    split
    · next hname =>
      exact ⟨get?_builtIn hname t, set_builtIn hname⟩
    · next hname =>
      refine ⟨?_, fun v j => ⟨_, set_eq_insert hname v j, ?_⟩⟩
      · rw [get?_eq_find? hname]
        exact (find?_initialFields t name).trans (by rw [hfound])
      · rw [get?_eq_find? hname]
        exact KeyedList.find?_insert_self _ _ _
  · intro hname
    simp only [compileMember] at hcompile
    rcases hf : engine.compile parameters body with e | f
    · rw [hf] at hcompile
      exact nomatch hcompile
    · rw [hf] at hcompile
      cases hcompile
      have hfield : (ofType t).fields.find? name = none := by
        have hfields := find?_initialFields t name
        rw [hfound] at hfields
        exact hfields.trans (KeyedList.find?_insert_of_ne _ hname)
      refine ⟨f, rfl, fun args j => ?_⟩
      rw [call, callMember_of_method hfield hfound, callLimit, activate_succ]

/-- `<x-greeter><count>'none'</count><greet ()>return this.count</greet></x-greeter>`. -/
def greeter : String :=
  "<x-greeter><count>'none'</count><greet ()>return this.count</greet></x-greeter>"

theorem member_ofType_greeter :
    ∃ definition t, definitionOf? greeter = some (definition, t) ∧
      (ofType t).get? "count" = some (.string "none") ∧
      ∃ f, ∀ args j, call "greet" args ⟨ofType t, j⟩ =
        enter (activate (callLimit - 1)) f args ⟨ofType t, j⟩ := by
  have hread : (definitionOf? greeter).map (fun p =>
      (p.1.text? "count",
        (p.1.declarations.find? "greet").map fun d => d.member.isMethod)) =
        some (some "none", some true) := by
    decide +kernel
  obtain ⟨⟨definition, t⟩, hp, hmembers⟩ := Option.map_eq_some_iff.1 hread
  obtain ⟨hcount, hgreet⟩ := Prod.mk.inj hmembers
  have ht := synthesize_of_definitionOf? hp
  refine ⟨definition, t, hp, ?_, ?_⟩
  · obtain ⟨d, hd, hvalue⟩ := Definition.exists_property hcount
    have hmember := member_ofType ht hd (by decide)
    rw [hvalue] at hmember
    exact hmember.1
  · obtain ⟨d, hd, hmethod⟩ := Option.map_eq_some_iff.1 hgreet
    have hmember := member_ofType ht hd (by decide)
    rcases hd' : d.member with value | ⟨parameters, body⟩
    · rw [hd'] at hmethod
      exact nomatch hmethod
    · rw [hd'] at hmember
      obtain ⟨f, -, hcall⟩ := hmember (by decide)
      exact ⟨f, hcall⟩

/-- Each of the three members that every element has, declared as a property, and a method that is
called as the field with the name of the class. -/
def overlaid : String :=
  "<x-a><hidden>'no'</hidden><is-connected>'no'</is-connected><tag-name>'no'</tag-name>" ++
    "<name ()>return 1</name></x-a>"

/-- None of the properties has the declared value, and the method cannot be called. -/
theorem get?_overlaid :
    ∃ definition t, definitionOf? overlaid = some (definition, t) ∧
      (∀ name ∈ builtIn,
        (∃ d, definition.declarations.find? name = some d ∧ d.member = .property (.string "no")) ∧
        Lifecycle.ofName? name = none ∧ (ofType t).get? name ≠ some (.string "no")) ∧
      (∃ d, definition.declarations.find? "name" = some d ∧ d.member.isMethod = true) ∧
      Lifecycle.ofName? "name" = none ∧ ∀ args j,
        call "name" args ⟨ofType t, j⟩ = (.error (.notCallable "this.name"), ⟨ofType t, j⟩) := by
  have hread : (definitionOf? overlaid).map (fun p => (builtIn.map fun name =>
      (p.1.text? name, ((ofType p.2).get? name).bind Value.text?),
      (p.1.declarations.find? "name").map fun d => d.member.isMethod,
      (ofType p.2).fields.contains "name")) =
        some ([(some "no", none), (some "no", none), (some "no", some "X-A")],
          some true, true) := by
    decide +kernel
  obtain ⟨⟨definition, t⟩, hp, htexts⟩ := Option.map_eq_some_iff.1 hread
  simp only [builtIn, List.map_cons, List.map_nil, List.cons.injEq, Prod.mk.injEq, and_true]
    at htexts
  obtain ⟨htexts, hmethod, hfield⟩ := htexts
  have hmembers : ∀ name ∈ builtIn, definition.text? name = some "no" ∧
      ((ofType t).get? name).bind Value.text? ≠ some "no" := by
    simp [builtIn, htexts]
  have hhooks : ∀ name ∈ builtIn, Lifecycle.ofName? name = none := by decide
  refine ⟨definition, t, hp, fun name hname => ?_, Option.map_eq_some_iff.1 hmethod, by decide,
    callMember_of_field hfield⟩
  refine ⟨Definition.exists_property (hmembers name hname).1, hhooks name hname, fun hget => ?_⟩
  exact (hmembers name hname).2 (by rw [hget]; rfl)

end Instance

end Componentry
