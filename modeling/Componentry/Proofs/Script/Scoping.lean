import Componentry.Proofs.Script.Course

/-!
# What a run leaves of its scopes

Scopes are opened and closed in pairs, whatever way a run ends, and an assignment reaches bindings
but never makes one. So after statements have run there are as many scopes as before, and only the
innermost can have new names: those that are declared at the top level of the statements
(`Stmt.declared`). Every other name is bound where it was, a constant to its value.

`Scopes.Kept` relates the scopes before and after; it is the same for all that goes on in a run,
which `Keeps` says of a computation. `keeps_eval` and `keeps_exec` follow the syntax tree. A block
and a conditional declare nothing themselves, so what the statements after them see is what was seen
before (`Scopes.SeenAlike`).
-/

namespace Componentry.Script

variable {σ α β : Type}

/-- The names that a statement declares itself, not in a block within it. -/
def Stmt.declared : Stmt → List String
  | .declare _ items => items.map Prod.fst
  | _ => []

/-- What is left of a scope when some names may have been declared in it: all its names, and the
bindings of names that were not declared, but for the values of variables. -/
structure Scope.Kept (declared : List String) (s t : Scope) : Prop where
  keys : ∀ name ∈ s.keys, name ∈ t.keys
  constant_eq : ∀ name ∉ declared,
    (t.find? name).map Binding.constant = (s.find? name).map Binding.constant
  find?_eq : ∀ name ∉ declared, ∀ b, s.find? name = some b → b.constant = true →
    t.find? name = some b

namespace Scope.Kept

variable {declared declared' : List String} {s t u : Scope} {name : String}

theorem refl (s : Scope) : Kept declared s s := ⟨fun _ => id, fun _ _ => rfl, fun _ _ _ h _ => h⟩

theorem trans (h : Kept declared s t) (h' : Kept declared t u) : Kept declared s u where
  keys name hname := h'.keys name (h.keys name hname)
  constant_eq name hname := (h'.constant_eq name hname).trans (h.constant_eq name hname)
  find?_eq name hname b hb hconstant :=
    h'.find?_eq name hname b (h.find?_eq name hname b hb hconstant) hconstant

theorem mono (h : Kept declared s t) (hsub : declared ⊆ declared') : Kept declared' s t where
  keys := h.keys
  constant_eq name hname := h.constant_eq name fun hmem => hname (hsub hmem)
  find?_eq name hname := h.find?_eq name fun hmem => hname (hsub hmem)

theorem mem_keys_insert (b : Binding) {other : String} (h : other ∈ s.keys) :
    other ∈ (s.insert name b).keys := by
  rw [KeyedList.keys_insert]
  split
  · exact h
  · exact List.mem_append_left _ h

theorem insert (s : Scope) (name : String) (b : Binding) : Kept [name] s (s.insert name b) where
  keys _ := mem_keys_insert b
  constant_eq other hother := by
    rw [KeyedList.find?_insert_of_ne b fun heq => hother (List.mem_singleton.2 heq)]
  find?_eq other hother c hc _ := by
    rwa [KeyedList.find?_insert_of_ne b fun heq => hother (List.mem_singleton.2 heq)]

/-- A variable may get another value. -/
theorem assign {b : Binding} (hb : s.find? name = some b) (hconstant : b.constant = false)
    (v : Value) : Kept [] s (s.insert name { b with value := v }) where
  keys _ := mem_keys_insert _
  constant_eq other _ := by
    by_cases heq : other = name
    · rw [heq, KeyedList.find?_insert_self, hb]
      rfl
    · rw [KeyedList.find?_insert_of_ne _ heq]
  find?_eq other _ c hc hc' := by
    by_cases heq : other = name
    · rw [heq, hb, Option.some_inj] at hc
      rw [hc, hc'] at hconstant
      exact nomatch hconstant
    · rwa [KeyedList.find?_insert_of_ne _ heq]

end Scope.Kept

namespace Scopes

def Kept (declared : List String) : Scopes → Scopes → Prop
  | [], [] => True
  | s :: ss, t :: ts => Scope.Kept declared s t ∧ Kept [] ss ts
  | _, _ => False

/-- The scopes show the same names, as constants or not, and the same values of constants. -/
structure SeenAlike (before after : Scopes) : Prop where
  constant_eq : ∀ name,
    (find? name after).map Binding.constant = (find? name before).map Binding.constant
  find?_eq : ∀ name b, find? name before = some b → b.constant = true →
    find? name after = some b

namespace Kept

variable {declared declared' : List String} {ss ts us : Scopes}

theorem refl (ss : Scopes) : Kept declared ss ss := by
  induction ss generalizing declared with
  | nil => trivial
  | cons s ss ih => exact ⟨.refl s, ih⟩

theorem trans (h : Kept declared ss ts) (h' : Kept declared ts us) : Kept declared ss us := by
  induction ss generalizing declared ts us with
  | nil =>
      cases ts with
      | nil => exact h'
      | cons t ts => exact h.elim
  | cons s ss ih =>
      cases ts with
      | nil => exact h.elim
      | cons t ts =>
          cases us with
          | nil => exact h'.elim
          | cons u us => exact ⟨h.1.trans h'.1, ih h.2 h'.2⟩

theorem mono (h : Kept declared ss ts) (hsub : declared ⊆ declared') : Kept declared' ss ts := by
  cases ss with
  | nil =>
      cases ts with
      | nil => trivial
      | cons t ts => exact h.elim
  | cons s ss =>
      cases ts with
      | nil => exact h.elim
      | cons t ts => exact ⟨h.1.mono hsub, h.2⟩

theorem length_eq (h : Kept declared ss ts) : ts.length = ss.length := by
  induction ss generalizing declared ts with
  | nil =>
      cases ts with
      | nil => rfl
      | cons t ts => exact h.elim
  | cons s ss ih =>
      cases ts with
      | nil => exact h.elim
      | cons t ts => exact congrArg (· + 1) (ih h.2)

/-- Without the innermost scope there are no declared names. -/
theorem tail {s : Scope} (h : Kept declared (s :: ss) ts) : Kept [] ss ts.tail := by
  cases ts with
  | nil => exact h.elim
  | cons t ts => exact h.2

theorem declare (name : String) (b : Binding) (ss : Scopes) :
    Kept [name] ss (Scopes.declare name b ss) := by
  cases ss with
  | nil => trivial
  | cons s ss => exact ⟨.insert s name b, .refl ss⟩

theorem assign {name : String} {b : Binding} (hb : find? name ss = some b)
    (hconstant : b.constant = false) (v : Value) : Kept [] ss (Scopes.assign name v ss) := by
  induction ss with
  | nil => trivial
  | cons s ss ih =>
      rw [find?] at hb
      rw [Scopes.assign]
      cases hs : s.find? name with
      | none =>
          rw [hs] at hb
          exact ⟨.refl s, ih hb⟩
      | some c =>
          rw [hs] at hb
          cases hb
          exact ⟨.assign hs hconstant v, .refl ss⟩

theorem seenAlike (h : Kept [] ss ts) : SeenAlike ss ts := by
  induction ss generalizing ts with
  | nil =>
      cases ts with
      | nil => exact ⟨fun _ => rfl, fun _ _ hb _ => hb⟩
      | cons t ts => exact h.elim
  | cons s ss ih =>
      cases ts with
      | nil => exact h.elim
      | cons t ts =>
          have hrest := ih h.2
          constructor
          · intro name
            have hsame := h.1.constant_eq name List.not_mem_nil
            rw [find?, find?]
            cases hs : s.find? name with
            | none =>
                rw [hs, Option.map_none, Option.map_eq_none_iff] at hsame
                rw [hsame]
                exact hrest.constant_eq name
            | some b =>
                rw [hs] at hsame
                obtain ⟨c, hc, hcb⟩ := Option.map_eq_some_iff.1 hsame
                rw [hc]
                exact congrArg some hcb
          · intro name b hb hconstant
            rw [find?] at hb ⊢
            cases hs : s.find? name with
            | none =>
                have hsame := h.1.constant_eq name List.not_mem_nil
                rw [hs, Option.map_none, Option.map_eq_none_iff] at hsame
                rw [hs] at hb
                rw [hsame]
                exact hrest.find?_eq name b hb hconstant
            | some c =>
                rw [hs] at hb
                cases hb
                rw [h.1.find?_eq name List.not_mem_nil b hs hconstant]

end Kept

end Scopes

/-- The computation keeps all that is not declared in it, also when it fails. -/
def Keeps (declared : List String) (m : Eval σ α) : Prop :=
  ∀ frame, Scopes.Kept declared frame.scopes (m frame).2.scopes

namespace Keeps

variable {declared declared' : List String} {m : Eval σ α} {f : α → Eval σ β}

theorem of_scopes_eq (h : ∀ frame, (m frame).2.scopes = frame.scopes) : Keeps declared m :=
  fun frame => (h frame).symm ▸ .refl frame.scopes

theorem mono (h : Keeps declared m) (hsub : declared ⊆ declared') : Keeps declared' m :=
  fun frame => (h frame).mono hsub

theorem pure (a : α) : Keeps declared (pure a : Eval σ α) := .of_scopes_eq fun _ => rfl

theorem throw (e : ScriptError) : Keeps declared (throw e : Eval σ α) := .of_scopes_eq fun _ => rfl

theorem lift (r : Except ScriptError α) : Keeps declared (liftM r : Eval σ α) :=
  .of_scopes_eq fun _ => by cases r <;> rfl

theorem get : Keeps declared (get : Eval σ (Frame σ)) := .of_scopes_eq fun _ => rfl

theorem bind (h : Keeps declared m) (hf : ∀ a, Keeps declared (f a)) :
    Keeps declared (m >>= f) := by
  intro frame
  have hm := h frame
  rw [Activity.bind_apply]
  rcases hout : m frame with ⟨e | a, frame'⟩
  · rwa [hout] at hm
  · rw [hout] at hm
    exact hm.trans (hf a frame')

theorem inWorld (run : Run σ α) : Keeps declared (Eval.inWorld run) := .of_scopes_eq fun _ => rfl

/-- What is declared in a scope of its own goes with it. -/
theorem inScope (h : Keeps declared m) : Keeps declared' (Eval.inScope m) := by
  intro frame
  have hm := h { frame with scopes := .empty :: frame.scopes }
  exact hm.tail.mono (List.nil_subset _)

theorem declare (name : String) (b : Binding) : Keeps [name] (Eval.declare name b : Eval σ Unit) :=
  fun frame => .declare name b frame.scopes

theorem binding? (name : String) : Keeps declared (Eval.binding? name : Eval σ _) :=
  .of_scopes_eq fun _ => rfl

end Keeps

theorem keeps_isFree (e : Expr) (name : String) : Keeps [] (Eval.isFree e name : Eval σ Bool) := by
  unfold Eval.isFree
  split
  · split
    · exact (Keeps.binding? _).bind fun _ => .pure _
    · exact .pure _
  · exact .pure _

/-- An assignment changes a variable, or nothing. -/
theorem scopes_assignName (name : String) (op : AssignOp) (v : Value) (frame : Frame σ) :
    (assignName name op v frame).2.scopes =
      match frame.scopes.find? name with
      | some b =>
        if b.constant then frame.scopes else frame.scopes.assign name (op.apply b.value v)
      | none => frame.scopes := by
  have hbinding : (Eval.binding? name : Eval σ _) frame = (.ok (frame.scopes.find? name), frame) :=
    rfl
  rw [assignName, Activity.bind_apply, hbinding]
  cases frame.scopes.find? name with
  | none => rfl
  | some b =>
      dsimp only
      split
      · rfl
      · rfl

theorem keeps_assignName (name : String) (op : AssignOp) (v : Value) :
    Keeps [] (assignName name op v : Eval σ Value) := by
  intro frame
  rw [scopes_assignName]
  cases hb : frame.scopes.find? name with
  | none => exact .refl frame.scopes
  | some b =>
      dsimp only
      split
      · exact .refl frame.scopes
      · next hconstant => exact .assign hb (Bool.eq_false_iff.2 hconstant) _

section

variable (host : Receiver σ)

theorem keeps_call (callee : Expr) (args : List Value) : Keeps [] (call host callee args) := by
  unfold call
  dsimp only
  split
  · split
    · exact .inWorld _
    · apply (keeps_isFree _ _).bind
      intro free
      split
      · exact (Keeps.inWorld _).bind fun _ => .pure _
      · apply (keeps_isFree _ _).bind
        intro free
        split
        · split
          · exact .pure _
          · exact .throw _
        · exact .throw _
  · exact .throw _

theorem keeps_assignMember (property : String) (op : AssignOp) (v : Value) :
    Keeps [] (assignMember host property op v) := by
  unfold assignMember
  apply Keeps.get.bind
  intro frame
  exact (Keeps.inWorld _).bind fun _ => .pure _

mutual

theorem keeps_eval : ∀ e : Expr, Keeps [] (eval host e)
  | .number n => by rw [eval]; exact .pure _
  | .string s => by rw [eval]; exact .pure _
  | .bool b => by rw [eval]; exact .pure _
  | .null => by rw [eval]; exact .pure _
  | .undefined => by rw [eval]; exact .pure _
  | .this => by rw [eval]; exact .throw _
  | .name n => by
      rw [eval]
      apply (Keeps.binding? n).bind
      intro b
      split
      · exact .pure _
      · exact .throw _
  | .array items => by
      rw [eval]
      exact (keeps_evalAll items).bind fun _ => .pure _
  | .member object property => by
      rw [eval]
      split
      · exact Keeps.get.bind fun _ => .pure _
      · apply (keeps_isFree _ _).bind
        intro free
        split
        · exact .pure _
        · exact (keeps_eval object).bind fun _ => .lift _
  | .index object position => by
      rw [eval]
      exact (keeps_eval object).bind fun _ => (keeps_eval position).bind fun _ => .lift _
  | .call callee args => by
      rw [eval]
      exact (keeps_evalAll args).bind fun vs => keeps_call host callee vs
  | .unary op operand => by
      rw [eval]
      exact (keeps_eval operand).bind fun _ => .pure _
  | .binary op left right => by
      rw [eval]
      apply (keeps_eval left).bind
      intro a
      split
      · split
        · exact keeps_eval right
        · exact .pure _
      · split
        · exact .pure _
        · exact keeps_eval right
      · exact (keeps_eval right).bind fun _ => .pure _
  | .conditional test yes no => by
      rw [eval]
      apply (keeps_eval test).bind
      intro v
      split
      · exact keeps_eval yes
      · exact keeps_eval no
  | .assignName name op value => by
      rw [eval]
      exact (keeps_eval value).bind fun v => keeps_assignName name op v
  | .assignMember object property op value => by
      rw [eval]
      apply (keeps_eval value).bind
      intro v
      split
      · exact keeps_assignMember host property op v
      · exact .throw _

theorem keeps_evalAll : ∀ es : List Expr, Keeps [] (evalAll host es)
  | [] => by rw [evalAll]; exact .pure _
  | e :: es => by
      rw [evalAll]
      exact (keeps_eval e).bind fun _ => (keeps_evalAll es).bind fun _ => .pure _

end

theorem keeps_declareAll (constant : Bool) (items : List (String × Option Expr)) :
    Keeps (items.map Prod.fst) (declareAll host constant items) := by
  induction items with
  | nil => rw [declareAll]; exact .pure _
  | cons item items ih =>
      obtain ⟨name, value⟩ := item
      have hname : [name] ⊆ name :: items.map Prod.fst :=
        List.cons_subset_cons _ (List.nil_subset _)
      have hdeclare : ∀ v, Keeps (name :: items.map Prod.fst)
          (Eval.declare name ⟨v, constant⟩ : Eval σ Unit) := fun v =>
        (Keeps.declare name ⟨v, constant⟩).mono hname
      have hrest := ih.mono (List.subset_cons_self name _)
      cases value with
      | none =>
          rw [declareAll]
          exact (Keeps.pure _).bind fun v => (hdeclare v).bind fun _ => hrest
      | some e =>
          have hvalue := (keeps_eval host e).mono (List.nil_subset (name :: items.map Prod.fst))
          rw [declareAll]
          exact hvalue.bind fun v => (hdeclare v).bind fun _ => hrest

theorem declared_of_isBlock {s : Stmt} (h : s.isBlock = true) : s.declared = [] := by
  cases s with
  | block body => rfl
  | expr | declare | ifElse | «return» | empty => exact nomatch h

mutual

theorem keeps_exec : ∀ s : Stmt, Keeps s.declared (exec host s)
  | .expr e => by
      rw [exec]
      exact (keeps_eval host e).bind fun _ => .pure _
  | .declare kind items => by
      rw [exec]
      exact (keeps_declareAll host _ items).bind fun _ => .pure _
  | .ifElse test yes none => by
      rw [exec]
      apply (keeps_eval host test).bind
      intro v
      split
      · exact keeps_branch yes
      · exact .pure _
  | .ifElse test yes (some no) => by
      rw [exec]
      apply (keeps_eval host test).bind
      intro v
      split
      · exact keeps_branch yes
      · exact keeps_branch no
  | .return none => by rw [exec]; exact .pure _
  | .return (some e) => by
      rw [exec]
      exact (keeps_eval host e).bind fun _ => .pure _
  | .block body => by
      rw [exec]
      exact (keeps_execAll .undefined body).inScope
  | .empty => by rw [exec]; exact .pure _

/-- A branch of a conditional runs in a scope of its own. -/
theorem keeps_branch (s : Stmt) :
    Keeps [] (if s.isBlock then exec host s else Eval.inScope (exec host s)) := by
  split
  · next hblock => exact declared_of_isBlock hblock ▸ keeps_exec s
  · exact (keeps_exec s).inScope

theorem keeps_execAll (last : Value) :
    ∀ ss : List Stmt, Keeps (ss.flatMap Stmt.declared) (execAll host last ss)
  | [] => by rw [execAll]; exact .pure _
  | s :: rest => by
      rw [execAll, List.flatMap_cons]
      apply ((keeps_exec s).mono (List.subset_append_left _ _)).bind
      intro flow
      split
      · exact .pure _
      · exact (keeps_execAll _ rest).mono (List.subset_append_right _ _)

end

/-- Statements leave as many scopes as there were, whether they go on, return or fail. In the scopes
outside the innermost the same names are bound, as constants or not, and the constants have their
values; the innermost loses no name and is like the others but for the names that are declared at
the top level of the statements. Blocks and conditionals change nothing that is seen after them but
the values of variables. -/
theorem execAll_scoped (frame : Frame σ) :
    (∀ last (body : List Stmt),
      (execAll host last body frame).2.scopes.length = frame.scopes.length ∧
      frame.scopes.Kept (body.flatMap Stmt.declared) (execAll host last body frame).2.scopes) ∧
    (∀ body, frame.scopes.SeenAlike (exec host (.block body) frame).2.scopes) ∧
    ∀ test yes no, frame.scopes.SeenAlike (exec host (.ifElse test yes no) frame).2.scopes := by
  refine ⟨fun last body => ?_, fun body => ?_, fun test yes no => ?_⟩
  · have hkept := keeps_execAll host last body frame
    exact ⟨hkept.length_eq, hkept⟩
  · exact (keeps_exec host (.block body) frame).seenAlike
  · exact (keeps_exec host (.ifElse test yes no) frame).seenAlike

end

end Componentry.Script
