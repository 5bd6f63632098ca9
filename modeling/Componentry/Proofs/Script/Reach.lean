import Componentry.Proofs.Script.Course
import Mathlib.Logic.Relation

/-!
# What a run can do to its world

A program does nothing to its world but log lines and write and call members of its receiver. One
of these deeds is a `Receiver.Step`, and `Receiver.Reaches` is any number of them, so whatever each
deed keeps is kept by a whole run, however it ends. `Follows` says of an activity that it gets to
where steps of some kind lead, and `Confined` that these are deeds at a receiver; `confined_eval`
and `confined_exec` follow the syntax tree, and `Function.confined_run` is the result for functions.
-/

namespace Componentry.Script

variable {σ τ ω α β : Type}

/-- One deed of a script: it logs a line, or writes or calls a member of its receiver. -/
inductive Receiver.Step (host : Receiver σ) (w : World σ) : World σ → Prop
  | log (line : String) : Step host w { w with journal := .logged line :: w.journal }
  | set (name : String) (v : Value) : Step host w (host.set name v w).2
  | call (name : String) (args : List Value) : Step host w (host.call name args w).2

abbrev Receiver.Reaches (host : Receiver σ) : World σ → World σ → Prop :=
  Relation.ReflTransGen host.Step

/-- From what `look` finds before an activity, steps lead to what it finds after it, also when the
activity fails. -/
def Follows (step : ω → ω → Prop) (look : τ → ω) (x : Activity τ α) : Prop :=
  ∀ s, Relation.ReflTransGen step (look s) (look (x s).2)

namespace Follows

variable {step : ω → ω → Prop} {look : τ → ω} {x : Activity τ α} {f : α → Activity τ β}

/-- Nothing that is looked at changes. -/
theorem of_look_eq (h : ∀ s, look (x s).2 = look s) : Follows step look x := by
  intro s
  rw [h s]

/-- It is one step. -/
theorem of_step (h : ∀ s, step (look s) (look (x s).2)) : Follows step look x :=
  fun s => .single (h s)

theorem pure (a : α) : Follows step look (pure a : Activity τ α) := of_look_eq fun _ => rfl

theorem throw (e : ScriptError) : Follows step look (throw e : Activity τ α) :=
  of_look_eq fun _ => rfl

theorem lift (r : Except ScriptError α) : Follows step look (liftM r : Activity τ α) := by
  refine of_look_eq fun s => ?_
  cases r <;> rfl

theorem get : Follows step look (get : Activity τ τ) := of_look_eq fun _ => rfl

theorem bind (h : Follows step look x) (hf : ∀ a, Follows step look (f a)) :
    Follows step look (x >>= f) := by
  intro s
  have hx := h s
  rw [Activity.bind_apply]
  rcases hout : x s with ⟨e | a, s'⟩
  · rwa [hout] at hx
  · rw [hout] at hx
    exact hx.trans (hf a s')

end Follows

abbrev Confined (host : Receiver σ) (look : τ → World σ) (x : Activity τ α) : Prop :=
  Follows host.Step look x

section

variable {host : Receiver σ}

theorem confined_inWorld {run : Run σ α} (h : Confined host id run) :
    Confined host Frame.world (Eval.inWorld run) := fun frame => h frame.world

theorem confined_inScope {run : Eval σ α} (h : Confined host Frame.world run) :
    Confined host Frame.world (Eval.inScope run) := fun frame =>
  h { frame with scopes := .empty :: frame.scopes }

theorem confined_binding? (name : String) :
    Confined host Frame.world (Eval.binding? name : Eval σ _) := .of_look_eq fun _ => rfl

theorem confined_isFree (e : Expr) (name : String) :
    Confined host Frame.world (Eval.isFree e name : Eval σ Bool) := by
  unfold Eval.isFree
  split
  · split
    · exact (confined_binding? _).bind fun _ => .pure _
    · exact .pure _
  · exact .pure _

theorem confined_call (callee : Expr) (args : List Value) :
    Confined host Frame.world (call host callee args) := by
  unfold call
  dsimp only
  split
  · next object property =>
    split
    · exact confined_inWorld (.of_step fun _ => .call property args)
    · apply (confined_isFree _ _).bind
      intro free
      split
      · exact (confined_inWorld (.of_step fun _ => .log _)).bind fun _ => .pure _
      · apply (confined_isFree _ _).bind
        intro free
        split
        · split
          · exact .pure _
          · exact .throw _
        · exact .throw _
  · exact .throw _

theorem confined_assignName (name : String) (op : AssignOp) (v : Value) :
    Confined host Frame.world (assignName name op v : Eval σ Value) := by
  unfold assignName
  apply (confined_binding? name).bind
  intro b
  split
  · split
    · exact .throw _
    · exact (Follows.of_look_eq fun _ => rfl).bind fun _ => .pure _
  · exact .throw _

theorem confined_assignMember (property : String) (op : AssignOp) (v : Value) :
    Confined host Frame.world (assignMember host property op v) := by
  unfold assignMember
  apply Follows.get.bind
  intro frame
  exact (confined_inWorld (.of_step fun _ => .set property _)).bind fun _ => .pure _

variable (host)

mutual

theorem confined_eval : ∀ e : Expr, Confined host Frame.world (eval host e)
  | .number n => by rw [eval]; exact .pure _
  | .string s => by rw [eval]; exact .pure _
  | .bool b => by rw [eval]; exact .pure _
  | .null => by rw [eval]; exact .pure _
  | .undefined => by rw [eval]; exact .pure _
  | .this => by rw [eval]; exact .throw _
  | .name n => by
      rw [eval]
      apply (confined_binding? n).bind
      intro b
      split
      · exact .pure _
      · exact .throw _
  | .array items => by
      rw [eval]
      exact (confined_evalAll items).bind fun _ => .pure _
  | .member object property => by
      rw [eval]
      split
      · exact Follows.get.bind fun _ => .pure _
      · apply (confined_isFree _ _).bind
        intro free
        split
        · exact .pure _
        · exact (confined_eval object).bind fun _ => .lift _
  | .index object position => by
      rw [eval]
      exact (confined_eval object).bind fun _ => (confined_eval position).bind fun _ => .lift _
  | .call callee args => by
      rw [eval]
      exact (confined_evalAll args).bind fun vs => confined_call callee vs
  | .unary op operand => by
      rw [eval]
      exact (confined_eval operand).bind fun _ => .pure _
  | .binary op left right => by
      rw [eval]
      apply (confined_eval left).bind
      intro a
      split
      · split
        · exact confined_eval right
        · exact .pure _
      · split
        · exact .pure _
        · exact confined_eval right
      · exact (confined_eval right).bind fun _ => .pure _
  | .conditional test yes no => by
      rw [eval]
      apply (confined_eval test).bind
      intro v
      split
      · exact confined_eval yes
      · exact confined_eval no
  | .assignName name op value => by
      rw [eval]
      exact (confined_eval value).bind fun v => confined_assignName name op v
  | .assignMember object property op value => by
      rw [eval]
      apply (confined_eval value).bind
      intro v
      split
      · exact confined_assignMember property op v
      · exact .throw _

theorem confined_evalAll : ∀ es : List Expr, Confined host Frame.world (evalAll host es)
  | [] => by rw [evalAll]; exact .pure _
  | e :: es => by
      rw [evalAll]
      exact (confined_eval e).bind fun _ => (confined_evalAll es).bind fun _ => .pure _

end

theorem confined_declareAll (constant : Bool) (items : List (String × Option Expr)) :
    Confined host Frame.world (declareAll host constant items) := by
  induction items with
  | nil => rw [declareAll]; exact .pure _
  | cons item items ih =>
      obtain ⟨name, value⟩ := item
      have hdeclare : ∀ v, Confined host Frame.world
          (Eval.declare name ⟨v, constant⟩ : Eval σ Unit) := fun v => .of_look_eq fun _ => rfl
      cases value with
      | none =>
          rw [declareAll]
          exact (Follows.pure _).bind fun v => (hdeclare v).bind fun _ => ih
      | some e =>
          rw [declareAll]
          exact (confined_eval host e).bind fun v => (hdeclare v).bind fun _ => ih

mutual

theorem confined_exec : ∀ s : Stmt, Confined host Frame.world (exec host s)
  | .expr e => by
      rw [exec]
      exact (confined_eval host e).bind fun _ => .pure _
  | .declare kind items => by
      rw [exec]
      exact (confined_declareAll host _ items).bind fun _ => .pure _
  | .ifElse test yes none => by
      rw [exec]
      apply (confined_eval host test).bind
      intro v
      split
      · exact confined_branch yes
      · exact .pure _
  | .ifElse test yes (some no) => by
      rw [exec]
      apply (confined_eval host test).bind
      intro v
      split
      · exact confined_branch yes
      · exact confined_branch no
  | .return none => by rw [exec]; exact .pure _
  | .return (some e) => by
      rw [exec]
      exact (confined_eval host e).bind fun _ => .pure _
  | .block body => by
      rw [exec]
      exact confined_inScope (confined_execAll .undefined body)
  | .empty => by rw [exec]; exact .pure _

theorem confined_branch (s : Stmt) :
    Confined host Frame.world (if s.isBlock then exec host s else Eval.inScope (exec host s)) := by
  split
  · exact confined_exec s
  · exact confined_inScope (confined_exec s)

theorem confined_execAll (last : Value) :
    ∀ ss : List Stmt, Confined host Frame.world (execAll host last ss)
  | [] => by rw [execAll]; exact .pure _
  | s :: rest => by
      rw [execAll]
      apply (confined_exec s).bind
      intro flow
      split
      · exact .pure _
      · exact confined_execAll _ rest

end

/-- Running a function gets to where deeds of a script lead. -/
theorem Function.confined_run (f : Function) (args : List Value) :
    Confined host id (f.run host args) := fun w =>
  confined_execAll host .undefined f.body ⟨[bind f.parameters args .empty], w⟩

end

end Componentry.Script
