import Componentry.Proofs.Element.Member
import Mathlib.Data.List.Forall2

/-!
# Which definitions make a type

A definition makes a type exactly if the bodies of its methods are programs and the bodies of its
hooks are programs or blank. `Declarations.faults` lists what is wrong, the hooks first and then the
methods as they were declared, and the first of it is the error. Where nothing is wrong,
`SynthesizedFrom` says all that the type is: the element as it stands, a member for each declaration
that is no hook, in order, and the four hooks.
-/

namespace Componentry

open Script Text

def Script.Program.fault? (text : String) : Option ScriptError :=
  match Program.ofSource text with
  | .ok _ => none
  | .error e => some e

theorem Script.Program.fault?_eq_none_iff {text : String} :
    Program.fault? text = none ↔ ∃ p, Program.ofSource text = .ok p := by
  unfold fault?
  cases Program.ofSource text <;> simp

namespace Declarations

/-- The declarations that give members: those that are not named like a hook. -/
def memberEntries (ds : Declarations) : List (String × Declaration) :=
  ds.entries.filter fun e => e.1 ∉ Lifecycle.all.map Lifecycle.name

/-- The parameters and the body of a hook. A property has the parameters that the hook has where
none are declared, and the text of its value is the body. Without a declaration the body is
empty. -/
def hookOf (ds : Declarations) (lifecycle : Lifecycle) : List String × String :=
  match (ds.find? lifecycle.name).map Declaration.member with
  | some (.method parameters body) => (parameters, body)
  | some (.property value) => (lifecycle.parameters, value.display)
  | none => ([], "")

/-- What is wrong with a hook. A blank one does nothing. -/
def hookFault? (ds : Declarations) (lifecycle : Lifecycle) : Option SynthesisError :=
  if isBlankText (ds.hookOf lifecycle).2 then none
  else (Program.fault? (ds.hookOf lifecycle).2).map (.hook lifecycle)

end Declarations

def methodFault? (e : String × Declaration) : Option SynthesisError :=
  match e.2.member with
  | .property _ => none
  | .method _ body => (Program.fault? body).map (.method e.1)

/-- All that is wrong, in the order in which it is found. -/
def Declarations.faults (ds : Declarations) : List SynthesisError :=
  Lifecycle.all.filterMap ds.hookFault? ++ ds.memberEntries.filterMap methodFault?

inductive HookFrom (parameters : List String) (body : String) : Hook → Prop
  | blank (h : isBlankText body = true) : HookFrom parameters body Hook.none
  | compiled {p : Program} (h : isBlankText body = false) (hp : Program.ofSource body = .ok p) :
      HookFrom parameters body ⟨body, some ⟨parameters, p⟩⟩

theorem HookFrom.eq_none {parameters : List String} {body : String} {hook : Hook}
    (hhook : HookFrom parameters body hook) (h : isBlankText body = true) : hook = Hook.none := by
  cases hhook with
  | blank => rfl
  | compiled hbody => exact nomatch hbody.symm.trans h

theorem HookFrom.exists_eq {parameters : List String} {body : String} {hook : Hook}
    (hhook : HookFrom parameters body hook) (h : isBlankText body = false) :
    ∃ p, hook = ⟨body, some ⟨parameters, p⟩⟩ := by
  cases hhook with
  | blank hbody => exact nomatch hbody.symm.trans h
  | compiled => exact ⟨_, rfl⟩

inductive MemberFrom : String × Declaration → String × TypeMember → Prop
  | field {name : String} {d : Declaration} {v : Value} (h : d.member = .property v) :
      MemberFrom (name, d) (name, .field v)
  | method {name : String} {d : Declaration} {parameters : List String} {body : String}
      {p : Program} (h : d.member = .method parameters body)
      (hp : Program.ofSource body = .ok p) :
      MemberFrom (name, d) (name, .method ⟨parameters, p⟩)

structure SynthesizedFrom (definition : Definition) (t : ElementType) : Prop where
  tag_eq : t.tag = lower definition.element.tag
  className_eq : t.className = className t.tag
  template_eq : t.template = definition.element
  members : List.Forall₂ MemberFrom definition.declarations.memberEntries t.members.entries
  hooks : ∀ lifecycle, HookFrom (definition.declarations.hookOf lifecycle).1
    (definition.declarations.hookOf lifecycle).2 (t.hooks lifecycle)

/-- The members have the names of the declarations, in their order. -/
theorem SynthesizedFrom.keys_members {definition : Definition} {t : ElementType}
    (h : SynthesizedFrom definition t) :
    t.members.keys = definition.declarations.memberEntries.map Prod.fst := by
  have hnames : List.Forall₂ (fun e m => e.1 = m.1) definition.declarations.memberEntries
      t.members.entries := h.members.imp fun e m hm => by cases hm <;> rfl
  rw [← List.forall₂_map_right_iff, ← List.forall₂_map_left_iff, List.forall₂_eq_eq_eq] at hnames
  exact hnames.symm

theorem ofName?_eq_none_iff {name : String} :
    Lifecycle.ofName? name = none ↔ name ∉ Lifecycle.all.map Lifecycle.name := by
  constructor
  · intro h hmem
    obtain ⟨l, -, rfl⟩ := List.mem_map.1 hmem
    rw [Lifecycle.ofName?_name] at h
    exact nomatch h
  · intro h
    cases hl : Lifecycle.ofName? name with
    | none => rfl
    | some l =>
        have hname := Lifecycle.ofName?_eq_some_iff.1 hl
        exact absurd (hname ▸ List.mem_map_of_mem l.mem_all) h

theorem memberEntries_eq_filter (ds : Declarations) :
    ds.memberEntries = ds.entries.filter fun e => (Lifecycle.ofName? e.1).isNone := by
  refine List.filter_congr fun e _ => ?_
  rw [Bool.eq_iff_iff, decide_eq_true_iff, Option.isNone_iff_eq_none, ofName?_eq_none_iff]

/-- A body compiles exactly if it is a program. -/
theorem compile_standard (parameters : List String) (body : String) :
    Engine.standard.compile parameters body =
      (Program.ofSource body).map fun p => ⟨parameters, p⟩ := by
  change Script.compile parameters body = _
  unfold Script.compile
  cases Program.ofSource body <;> rfl

theorem declaredHook_standard (ds : Declarations) (lifecycle : Lifecycle) :
    declaredHook Engine.standard ds lifecycle =
      if isBlankText (ds.hookOf lifecycle).2 then .ok Hook.none
      else match Program.ofSource (ds.hookOf lifecycle).2 with
        | .ok p => .ok ⟨(ds.hookOf lifecycle).2, some ⟨(ds.hookOf lifecycle).1, p⟩⟩
        | .error e => .error (.hook lifecycle e) := by
  unfold declaredHook Declarations.hookOf
  cases ds.find? lifecycle.name with
  | none => rfl
  | some d =>
      cases hd : d.member with
      | property value =>
          simp only [Option.map_some, hd, compileHook, hookSource, compile_standard]
          cases Program.ofSource value.display <;> rfl
      | method parameters body =>
          simp only [Option.map_some, hd, compileHook, hookSource, compile_standard]
          cases Program.ofSource body <;> rfl

/-- The outcome is as demanded where nothing is wrong; else its error is the first of what is
wrong. -/
def Judged {ε α : Type} (P : α → Prop) (faults : List ε) : Except ε α → Prop
  | .ok a => P a ∧ faults = []
  | .error e => faults.head? = some e

namespace Judged

variable {ε α β : Type} {P : α → Prop} {Q : β → Prop} {faults faults' : List ε}
  {out : Except ε α} {f : α → Except ε β}

/-- What is wrong with the first step comes before what is wrong with the next. -/
theorem bind (h : Judged P faults out) (hf : ∀ a, P a → Judged Q faults' (f a)) :
    Judged Q (faults ++ faults') (out >>= f) := by
  cases out with
  | error e =>
      have hhead : faults.head? = some e := h
      change (faults ++ faults').head? = some e
      rw [List.head?_append, hhead]
      rfl
  | ok a =>
      obtain ⟨ha, hnil⟩ : P a ∧ faults = [] := h
      rw [hnil, List.nil_append]
      exact hf a ha

theorem mono {P' : α → Prop} (h : Judged P faults out) (hP : ∀ a, P a → P' a) :
    Judged P' faults out := by
  cases out with
  | error e => exact h
  | ok a => exact ⟨hP a h.1, h.2⟩

/-- A last step at which nothing can go wrong. -/
theorem map (h : Judged P faults out) {g : α → β} (hg : ∀ a, P a → Q (g a)) :
    Judged Q faults (out >>= fun a => pure (g a)) := by
  rw [← List.append_nil faults]
  exact h.bind fun a ha => ⟨hg a ha, rfl⟩

theorem eq_error_iff (h : Judged P faults out) {e : ε} :
    out = .error e ↔ faults.head? = some e := by
  cases out with
  | error e' =>
      have hhead : faults.head? = some e' := h
      rw [hhead, Except.error.injEq, Option.some_inj]
  | ok a =>
      obtain ⟨-, hnil⟩ : P a ∧ faults = [] := h
      rw [hnil]
      exact ⟨fun he => (nomatch he), fun he => (nomatch he)⟩

theorem exists_ok_iff (h : Judged P faults out) : (∃ a, out = .ok a) ↔ faults = [] := by
  cases out with
  | error e =>
      have hhead : faults.head? = some e := h
      refine ⟨fun ⟨a, ha⟩ => (nomatch ha), fun hnil => ?_⟩
      rw [hnil] at hhead
      exact nomatch hhead
  | ok a => exact ⟨fun _ => h.2, fun _ => ⟨a, rfl⟩⟩

end Judged

theorem judged_declaredHook (ds : Declarations) (lifecycle : Lifecycle) :
    Judged (HookFrom (ds.hookOf lifecycle).1 (ds.hookOf lifecycle).2)
      (ds.hookFault? lifecycle).toList (declaredHook Engine.standard ds lifecycle) := by
  rw [declaredHook_standard, Declarations.hookFault?, Program.fault?]
  cases hblank : isBlankText (ds.hookOf lifecycle).2 with
  | true => exact ⟨.blank hblank, rfl⟩
  | false =>
      cases hp : Program.ofSource (ds.hookOf lifecycle).2 with
      | error e => rfl
      | ok p => exact ⟨.compiled hblank hp, rfl⟩

theorem judged_compileMember (e : String × Declaration) :
    Judged (fun m => MemberFrom e (e.1, m)) (methodFault? e).toList
      (compileMember Engine.standard e.1 e.2.member) := by
  obtain ⟨name, d⟩ := e
  unfold methodFault?
  cases hd : d.member with
  | property v => exact ⟨.field hd, rfl⟩
  | method parameters body =>
      dsimp only
      rw [compileMember, compile_standard, Program.fault?]
      cases hp : Program.ofSource body with
      | error e => rfl
      | ok p => exact ⟨.method hd hp, rfl⟩

theorem put_eq_append {α : Type} {key : String} {es : List (String × α)}
    (h : key ∉ es.map Prod.fst) (v : α) : KeyedList.put key v es = es ++ [(key, v)] := by
  induction es with
  | nil => rfl
  | cons e es ih =>
      rw [List.map_cons, List.mem_cons, not_or] at h
      rw [KeyedList.put_cons, if_neg (Ne.symm h.1), ih h.2, List.cons_append]

theorem filterMap_cons_eq_append {α β : Type} (f : α → Option β) (a : α) (as : List α) :
    (a :: as).filterMap f = (f a).toList ++ as.filterMap f := by
  cases h : f a <;> simp [h]

/-- Members are made one after the other, each after those that were there. -/
theorem judged_compileMembers {es : List (String × Declaration)} {compiled : KeyedList TypeMember}
    (hnodup : (es.map Prod.fst).Nodup) (hnew : ∀ e ∈ es, e.1 ∉ compiled.keys) :
    Judged (fun members => ∃ ms, List.Forall₂ MemberFrom es ms ∧
        members.entries = compiled.entries ++ ms)
      (es.filterMap methodFault?) (compileMembers Engine.standard es compiled) := by
  induction es generalizing compiled with
  | nil => exact ⟨⟨[], .nil, (List.append_nil _).symm⟩, rfl⟩
  | cons e es ih =>
      rw [List.map_cons, List.nodup_cons] at hnodup
      have hnew_e : e.1 ∉ compiled.keys := hnew e List.mem_cons_self
      rw [compileMembers, filterMap_cons_eq_append]
      refine (judged_compileMember e).bind fun m hm => ?_
      have hnew' : ∀ e' ∈ es, e'.1 ∉ (compiled.insert e.1 m).keys := by
        intro e' he' hmem
        rw [KeyedList.keys_insert, if_neg hnew_e, List.mem_append, List.mem_singleton] at hmem
        rcases hmem with hmem | heq
        · exact hnew e' (List.mem_cons_of_mem e he') hmem
        · exact hnodup.1 (heq ▸ List.mem_map_of_mem he')
      have hentries : (compiled.insert e.1 m).entries = compiled.entries ++ [(e.1, m)] :=
        put_eq_append hnew_e m
      refine (ih hnodup.2 hnew').mono fun members hmembers => ?_
      obtain ⟨ms, hms, heq⟩ := hmembers
      refine ⟨(e.1, m) :: ms, .cons hm hms, ?_⟩
      rw [heq, hentries, List.append_assoc, List.singleton_append]

/-- A type is made where nothing is wrong; else the first of what is wrong is the error. The hooks
are looked at in their order, and then the methods. -/
theorem judged_synthesize (definition : Definition) :
    Judged (SynthesizedFrom definition) definition.declarations.faults
      (synthesize Engine.standard definition) := by
  have hmembers := @judged_compileMembers definition.declarations.memberEntries .empty
    (definition.declarations.nodup.sublist (List.filter_sublist.map Prod.fst)) fun _ _ => nofun
  rw [memberEntries_eq_filter] at hmembers
  rw [Declarations.faults, Lifecycle.all, synthesize]
  simp only [filterMap_cons_eq_append, List.filterMap_nil, List.append_assoc, List.nil_append]
  refine (judged_declaredHook _ _).bind fun onConnected hconnected => ?_
  refine (judged_declaredHook _ _).bind fun onDisconnected hdisconnected => ?_
  refine (judged_declaredHook _ _).bind fun onAdopted hadopted => ?_
  refine (judged_declaredHook _ _).bind fun onAttribute hattribute => ?_
  rw [memberEntries_eq_filter]
  refine hmembers.map fun members hmembers => ?_
  obtain ⟨ms, hms, hentries⟩ := hmembers
  refine ⟨rfl, rfl, rfl, ?_, fun lifecycle => ?_⟩
  · dsimp only
    rw [memberEntries_eq_filter, hentries]
    exact hms
  · cases lifecycle <;> assumption

theorem faults_eq_nil_iff {ds : Declarations} :
    ds.faults = [] ↔
      (∀ lifecycle, isBlankText (ds.hookOf lifecycle).2 = false →
        ∃ p, Program.ofSource (ds.hookOf lifecycle).2 = .ok p) ∧
      ∀ e ∈ ds.memberEntries, ∀ parameters body, e.2.member = .method parameters body →
        ∃ p, Program.ofSource body = .ok p := by
  rw [Declarations.faults, List.append_eq_nil_iff, List.filterMap_eq_nil_iff,
    List.filterMap_eq_nil_iff]
  refine and_congr ?_ (forall₂_congr fun e _ => ?_)
  · refine forall_congr' fun lifecycle => ?_
    rw [forall_prop_of_true lifecycle.mem_all, Declarations.hookFault?]
    cases isBlankText (ds.hookOf lifecycle).2 with
    | true => simp
    | false => simp [Program.fault?_eq_none_iff]
  · rw [methodFault?]
    cases e.2.member with
    | property v => simp
    | method parameters body => simp [Program.fault?_eq_none_iff]

/-- Making a type succeeds exactly if the bodies of the methods are programs, and those of the hooks
that are not blank. The type is then made of the definition and nothing else. Where it fails, the
error is the first of what is wrong: a hook, in their order, or else a method, as declared. -/
theorem synthesize_exact (definition : Definition) :
    ((∃ t, synthesize Engine.standard definition = .ok t) ↔
      (∀ lifecycle, isBlankText (definition.declarations.hookOf lifecycle).2 = false →
        ∃ p, Program.ofSource (definition.declarations.hookOf lifecycle).2 = .ok p) ∧
      ∀ e ∈ definition.declarations.memberEntries, ∀ parameters body,
        e.2.member = .method parameters body → ∃ p, Program.ofSource body = .ok p) ∧
    (∀ t, synthesize Engine.standard definition = .ok t → SynthesizedFrom definition t) ∧
    ∀ e, synthesize Engine.standard definition = .error e ↔
      definition.declarations.faults.head? = some e := by
  have hjudged := judged_synthesize definition
  refine ⟨hjudged.exists_ok_iff.trans faults_eq_nil_iff, fun t ht => ?_, fun e => ?_⟩
  · rw [ht] at hjudged
    exact hjudged.1
  · exact hjudged.eq_error_iff

/-- A hook as a property, another with a parameter of its own and a blank one, a method and a
field. -/
def mixedDeclarations : Declarations := .ofList [
  ("attribute", ⟨"attribute", .property (.string "return name")⟩),
  ("m", ⟨"m", .method ["x"] "return x"⟩),
  ("connected", ⟨"connected", .method ["a"] "return a"⟩),
  ("adopted", ⟨"adopted", .method ["b"] " \n"⟩),
  ("n", ⟨"n", .property .null⟩)]

/-- A method and behind it a hook, neither of them a program. -/
def brokenDeclarations : Declarations := .ofList [
  ("m", ⟨"m", .method [] "if ("⟩), ("adopted", ⟨"adopted", .method [] "1 +"⟩)]

/-- Of the first declarations a type is made, and of the others none: the hook is what is wrong. -/
theorem synthesize_exact_mixed :
    (∃ t p q, synthesize Engine.standard ⟨⟨"X-A", [], []⟩, mixedDeclarations⟩ = .ok t ∧
      t.tag = "x-a" ∧ t.members.keys = ["m", "n"] ∧
      t.hooks .attribute = ⟨"return name", some ⟨["name", "oldValue", "newValue"], p⟩⟩ ∧
      t.hooks .connected = ⟨"return a", some ⟨["a"], q⟩⟩ ∧
      t.hooks .adopted = Hook.none ∧ t.hooks .disconnected = Hook.none) ∧
    ∃ cause, synthesize Engine.standard ⟨⟨"X-A", [], []⟩, brokenDeclarations⟩ =
      .error (.hook .adopted cause) := by
  obtain ⟨hok, hfrom, -⟩ := synthesize_exact ⟨⟨"X-A", [], []⟩, mixedDeclarations⟩
  obtain ⟨-, -, herror⟩ := synthesize_exact ⟨⟨"X-A", [], []⟩, brokenDeclarations⟩
  constructor
  · have hnone : mixedDeclarations.faults = [] := List.isEmpty_iff.1 (by decide +kernel)
    obtain ⟨t, ht⟩ := hok.2 (faults_eq_nil_iff.1 hnone)
    have hmade := hfrom t ht
    obtain ⟨p, hp⟩ := (hmade.hooks .attribute).exists_eq (by decide +kernel)
    obtain ⟨q, hq⟩ := (hmade.hooks .connected).exists_eq (by decide +kernel)
    exact ⟨t, p, q, ht, hmade.tag_eq.trans (by decide),
      hmade.keys_members.trans (by decide +kernel), hp, hq,
      (hmade.hooks .adopted).eq_none (by decide +kernel),
      (hmade.hooks .disconnected).eq_none (by decide +kernel)⟩
  · have hfirst : (brokenDeclarations.faults.head?.bind fun
        | .hook lifecycle _ => some lifecycle
        | .method .. => none) = some Lifecycle.adopted := by decide +kernel
    obtain ⟨e, he, hadopted⟩ := Option.bind_eq_some_iff.1 hfirst
    cases e with
    | method => exact nomatch hadopted
    | hook lifecycle cause =>
        cases hadopted
        exact ⟨cause, (herror _).2 he⟩

end Componentry
