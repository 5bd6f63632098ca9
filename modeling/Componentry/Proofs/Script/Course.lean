import Componentry.Script.Run

/-!
# What two receivers have in common

A program runs alike against two receivers that behave alike. It is enough that they do so while the
journal is as a `Course` asks: scripts themselves only log lines, so what a course asks of the
journal is kept or broken by the receiver alone. `Same` is that two runs give the same outcome in
the same state and keep to the course; `same_eval` and `same_exec` follow the syntax tree, and
`Function.same_run` is the result for functions.
-/

namespace Componentry.Script

variable {σ τ α β : Type}

/-- An event that may happen anywhere: no function begins or ends, and no call is refused. -/
def Event.isQuiet : Event → Bool
  | .logged _ => true
  | .notified .. => true
  | _ => false

/-- What is asked of the journal while a run goes on, and where it has failed. -/
structure Course where
  goes : Journal → Prop
  fails : ScriptError → Journal → Prop
  /-- A run may fail anywhere. -/
  fails_of_goes : ∀ {j : Journal} (e : ScriptError), goes j → fails e j
  goes_quiet : ∀ {e : Event} {j : Journal}, e.isQuiet = true → goes j → goes (e :: j)

def Course.Ends (c : Course) : Except ScriptError α → Journal → Prop
  | .ok _, j => c.goes j
  | .error e, j => c.fails e j

theorem Course.ends_of_goes (c : Course) {j : Journal} (h : c.goes j) (r : Except ScriptError α) :
    c.Ends r j := by
  cases r with
  | ok a => exact h
  | error e => exact c.fails_of_goes e h

abbrev Activity (τ α : Type) := ExceptT ScriptError (StateM τ) α

theorem Activity.bind_apply (x : Activity τ α) (f : α → Activity τ β) (s : τ) :
    (x >>= f) s =
      match x s with
      | (.ok a, s') => f a s'
      | (.error e, s') => (.error e, s') := by
  change (ExceptT.bindCont f (x s).1) (x s).2 = _
  rcases x s with ⟨_ | _, _⟩ <;> rfl

/-- Two activities, in a state where the journal is found by `look`, do the same as long as the
journal is on the course, and keep to it. -/
def Same (c : Course) (look : τ → Journal) (x y : Activity τ α) : Prop :=
  ∀ s, c.goes (look s) → x s = y s ∧ c.Ends (x s).1 (look (x s).2)

namespace Same

variable {c : Course} {look : τ → Journal} {x y : Activity τ α} {f g : α → Activity τ β}

/-- What leaves the journal as it is keeps to any course. -/
theorem of_look_eq (h : ∀ s, look (x s).2 = look s) : Same c look x x := by
  intro s hs
  refine ⟨rfl, c.ends_of_goes ?_ _⟩
  rwa [h]

/-- What does the same on the course may stand in the place of the second. -/
theorem congr_right {z : Activity τ α} (h : Same c look x y)
    (heq : ∀ s, c.goes (look s) → z s = y s) : Same c look x z := fun s hs =>
  ⟨(h s hs).1.trans (heq s hs).symm, (h s hs).2⟩

theorem symm (h : Same c look x y) : Same c look y x := by
  intro s hs
  obtain ⟨heq, hends⟩ := h s hs
  rw [heq] at hends
  exact ⟨heq.symm, hends⟩

theorem pure (a : α) : Same c look (pure a) (pure a) := of_look_eq fun _ => rfl

theorem throw (e : ScriptError) : Same c look (throw e : Activity τ α) (throw e) :=
  of_look_eq fun _ => rfl

theorem lift (r : Except ScriptError α) : Same c look (liftM r : Activity τ α) (liftM r) := by
  refine of_look_eq fun s => ?_
  cases r <;> rfl

theorem get : Same c look (get : Activity τ τ) get := of_look_eq fun _ => rfl

theorem bind (h : Same c look x y) (hf : ∀ a, Same c look (f a) (g a)) :
    Same c look (x >>= f) (y >>= g) := by
  intro s hs
  obtain ⟨heq, hends⟩ := h s hs
  rw [Activity.bind_apply, Activity.bind_apply, ← heq]
  rcases hx : x s with ⟨e | a, s'⟩
  · rw [hx] at hends
    exact ⟨rfl, hends⟩
  · rw [hx] at hends
    exact hf a s' hends

end Same

/-- Two receivers that behave alike on a course. -/
structure Receiver.Alike (c : Course) (host host' : Receiver σ) : Prop where
  get_eq : host.get = host'.get
  set : ∀ property v, Same c World.journal (host.set property v) (host'.set property v)
  call : ∀ name args, Same c World.journal (host.call name args) (host'.call name args)

def Frame.journal (frame : Frame σ) : Journal := frame.world.journal

section

variable {c : Course} {host host' : Receiver σ}

theorem same_inWorld {run run' : Run σ α} (h : Same c World.journal run run') :
    Same c Frame.journal (Eval.inWorld run) (Eval.inWorld run') := by
  intro frame hframe
  obtain ⟨heq, hends⟩ := h frame.world hframe
  refine ⟨?_, hends⟩
  simp only [Eval.inWorld, heq]

theorem same_inScope {run run' : Eval σ α} (h : Same c Frame.journal run run') :
    Same c Frame.journal (Eval.inScope run) (Eval.inScope run') := by
  intro frame hframe
  obtain ⟨heq, hends⟩ := h { frame with scopes := .empty :: frame.scopes } hframe
  refine ⟨?_, hends⟩
  simp only [Eval.inScope, heq]

theorem same_binding? (name : String) :
    Same c Frame.journal (Eval.binding? name : Eval σ _) (Eval.binding? name) :=
  .of_look_eq fun _ => rfl

theorem same_isFree (e : Expr) (name : String) :
    Same c Frame.journal (Eval.isFree e name : Eval σ Bool) (Eval.isFree e name) := by
  unfold Eval.isFree
  split
  · split
    · exact (same_binding? _).bind fun _ => .pure _
    · exact .pure _
  · exact .pure _

theorem same_log (line : String) :
    Same c World.journal (Run.record (.logged line) : Run σ Unit) (Run.record (.logged line)) :=
  fun _ hw => ⟨rfl, c.goes_quiet rfl hw⟩

theorem same_call (h : host.Alike c host') (callee : Expr) (args : List Value) :
    Same c Frame.journal (call host callee args) (call host' callee args) := by
  unfold call
  dsimp only
  split
  · split
    · exact same_inWorld (h.call _ _)
    · refine (same_isFree _ _).bind fun free => ?_
      split
      · exact (same_inWorld (same_log _)).bind fun _ => .pure _
      · refine (same_isFree _ _).bind fun free => ?_
        split
        · split
          · exact .pure _
          · exact .throw _
        · exact .throw _
  · exact .throw _

theorem same_assignMember (h : host.Alike c host') (property : String) (op : AssignOp) (v : Value) :
    Same c Frame.journal (assignMember host property op v) (assignMember host' property op v) := by
  unfold assignMember
  refine Same.get.bind fun frame => ?_
  rw [h.get_eq]
  exact (same_inWorld (h.set _ _)).bind fun _ => .pure _

theorem same_assignName (name : String) (op : AssignOp) (v : Value) :
    Same c Frame.journal (assignName name op v : Eval σ Value) (assignName name op v) := by
  unfold assignName
  refine (same_binding? name).bind fun b => ?_
  split
  · split
    · exact .throw _
    · exact (Same.of_look_eq fun _ => rfl).bind fun _ => .pure _
  · exact .throw _

mutual

theorem same_eval (h : host.Alike c host') :
    ∀ e : Expr, Same c Frame.journal (eval host e) (eval host' e)
  | .number n => by rw [eval, eval]; exact .pure _
  | .string s => by rw [eval, eval]; exact .pure _
  | .bool b => by rw [eval, eval]; exact .pure _
  | .null => by rw [eval, eval]; exact .pure _
  | .undefined => by rw [eval, eval]; exact .pure _
  | .this => by rw [eval, eval]; exact .throw _
  | .name n => by
      rw [eval, eval]
      refine (same_binding? n).bind fun b => ?_
      split
      · exact .pure _
      · exact .throw _
  | .array items => by
      rw [eval, eval]
      exact (same_evalAll h items).bind fun _ => .pure _
  | .member object property => by
      rw [eval, eval, h.get_eq]
      split
      · exact Same.get.bind fun _ => .pure _
      · refine (same_isFree _ _).bind fun free => ?_
        split
        · exact .pure _
        · exact (same_eval h object).bind fun _ => .lift _
  | .index object position => by
      rw [eval, eval]
      exact (same_eval h object).bind fun _ => (same_eval h position).bind fun _ => .lift _
  | .call callee args => by
      rw [eval, eval]
      exact (same_evalAll h args).bind fun vs => same_call h callee vs
  | .unary op operand => by
      rw [eval, eval]
      exact (same_eval h operand).bind fun _ => .pure _
  | .binary op left right => by
      rw [eval, eval]
      refine (same_eval h left).bind fun a => ?_
      split
      · split
        · exact same_eval h right
        · exact .pure _
      · split
        · exact .pure _
        · exact same_eval h right
      · exact (same_eval h right).bind fun _ => .pure _
  | .conditional test yes no => by
      rw [eval, eval]
      refine (same_eval h test).bind fun v => ?_
      split
      · exact same_eval h yes
      · exact same_eval h no
  | .assignName name op value => by
      rw [eval, eval]
      exact (same_eval h value).bind fun v => same_assignName name op v
  | .assignMember object property op value => by
      rw [eval, eval]
      refine (same_eval h value).bind fun v => ?_
      split
      · exact same_assignMember h property op v
      · exact .throw _

theorem same_evalAll (h : host.Alike c host') :
    ∀ es : List Expr, Same c Frame.journal (evalAll host es) (evalAll host' es)
  | [] => by rw [evalAll, evalAll]; exact .pure _
  | e :: es => by
      rw [evalAll, evalAll]
      exact (same_eval h e).bind fun _ => (same_evalAll h es).bind fun _ => .pure _

end

theorem same_declareAll (h : host.Alike c host') (constant : Bool)
    (items : List (String × Option Expr)) :
    Same c Frame.journal (declareAll host constant items) (declareAll host' constant items) := by
  induction items with
  | nil => rw [declareAll, declareAll]; exact .pure _
  | cons item items ih =>
      obtain ⟨name, value⟩ := item
      have hdeclare : ∀ v, Same c Frame.journal (Eval.declare name ⟨v, constant⟩ : Eval σ Unit)
          (Eval.declare name ⟨v, constant⟩) := fun v => .of_look_eq fun _ => rfl
      cases value with
      | none =>
          rw [declareAll, declareAll]
          exact (Same.pure _).bind fun v => (hdeclare v).bind fun _ => ih
      | some e =>
          rw [declareAll, declareAll]
          exact (same_eval h e).bind fun v => (hdeclare v).bind fun _ => ih

mutual

theorem same_exec (h : host.Alike c host') :
    ∀ s : Stmt, Same c Frame.journal (exec host s) (exec host' s)
  | .expr e => by
      rw [exec, exec]
      exact (same_eval h e).bind fun _ => .pure _
  | .declare kind items => by
      rw [exec, exec]
      exact (same_declareAll h _ items).bind fun _ => .pure _
  | .ifElse test yes none => by
      rw [exec, exec]
      refine (same_eval h test).bind fun v => ?_
      split
      · split
        · exact same_exec h yes
        · exact same_inScope (same_exec h yes)
      · exact .pure _
  | .ifElse test yes (some no) => by
      rw [exec, exec]
      refine (same_eval h test).bind fun v => ?_
      split
      · split
        · exact same_exec h yes
        · exact same_inScope (same_exec h yes)
      · split
        · exact same_exec h no
        · exact same_inScope (same_exec h no)
  | .return none => by rw [exec, exec]; exact .pure _
  | .return (some e) => by
      rw [exec, exec]
      exact (same_eval h e).bind fun _ => .pure _
  | .block body => by
      rw [exec, exec]
      exact same_inScope (same_execAll h .undefined body)
  | .empty => by rw [exec, exec]; exact .pure _

theorem same_execAll (h : host.Alike c host') (last : Value) :
    ∀ ss : List Stmt, Same c Frame.journal (execAll host last ss) (execAll host' last ss)
  | [] => by rw [execAll, execAll]; exact .pure _
  | s :: rest => by
      rw [execAll, execAll]
      refine (same_exec h s).bind fun flow => ?_
      split
      · exact .pure _
      · exact same_execAll h _ rest

end

theorem Function.same_run (h : host.Alike c host') (f : Function) (args : List Value) :
    Same c World.journal (f.run host args) (f.run host' args) := by
  intro w hw
  obtain ⟨heq, hends⟩ :=
    same_execAll h .undefined f.body ⟨[bind f.parameters args .empty], w⟩ hw
  simp only [run, ← heq]
  refine ⟨trivial, ?_⟩
  rcases hout : execAll host .undefined f.body ⟨[bind f.parameters args .empty], w⟩
    with ⟨_ | _, frame⟩ <;> rw [hout] at hends <;> exact hends

end

end Componentry.Script
