import Componentry.Proofs.Script.Depth

/-!
# Statements are read one by one

What is read depends on the tokens that are taken and on the one after them. No expression takes a
semicolon, so within tokens that end in one every reader of expressions stops in front of it, and
reads the same whatever follows the semicolon. A statement may take the last semicolon; then the
word after it matters in one case only, that of an `else`, with which no program begins. So programs
that end in a semicolon can be put in front of others: `Program.ofTokens_append`. Levels are those
of the statement that is read, whatever was read before.

`Extends` relates what is read of tokens and what is read of the same tokens with more behind them.
-/

namespace Componentry.Script

open Reader

variable {α β γ : Type} {more : List Token}

def Ended (ts : List Token) : Prop := ∃ front, ts = front ++ [.punct .semicolon]

namespace Ended

variable {ts r : List Token} {t : Token}

theorem ne_nil (h : Ended ts) : ts ≠ [] := by
  obtain ⟨front, rfl⟩ := h
  exact List.append_ne_nil_of_right_ne_nil _ (List.cons_ne_nil _ _)

theorem exists_cons (h : Ended ts) : ∃ t r, ts = t :: r := List.exists_cons_of_ne_nil h.ne_nil

/-- After the first token, either nothing is left or the tokens end as before. -/
theorem tail (h : Ended (t :: r)) : r = [] ∨ Ended r := by
  obtain ⟨front, heq⟩ := h
  cases front with
  | nil => exact .inl (List.cons.inj heq).2
  | cons t' front => exact .inr ⟨front, (List.cons.inj heq).2⟩

/-- The semicolon is left if the first token is none. -/
theorem tail_of_ne (h : Ended (t :: r)) (ht : t ≠ .punct .semicolon) : Ended r := by
  obtain ⟨front, heq⟩ := h
  cases front with
  | nil => exact absurd (List.cons.inj heq).1 ht
  | cons t' front => exact ⟨front, (List.cons.inj heq).2⟩

end Ended

/-- The tokens that are left are fewer than so many, and end as demanded. -/
structure Rest (P : List Token → Prop) (n : Nat) (r : List Token) : Prop where
  ends : P r
  lt : r.length < n

theorem Rest.mono {P : List Token → Prop} {n m : Nat} {r : List Token} (h : Rest P n r)
    (hle : n ≤ m) : Rest P m r :=
  ⟨h.ends, Nat.lt_of_lt_of_le h.lt hle⟩

/-- Where something is read, what is left is as demanded, and with more tokens behind it the same is
read. -/
def Extends (more : List Token) (Q : List Token → Prop)
    (out out' : Except Failure (α × List Token)) : Prop :=
  ∀ a r, out = .ok (a, r) → Q r ∧ out' = .ok (a, r ++ more)

namespace Extends

variable {Q Q' : List Token → Prop} {out out' : Except Failure (α × List Token)}

theorem ok {a : α} {r : List Token} (h : Q r) :
    Extends more Q (.ok (a, r)) (.ok (a, r ++ more)) := by
  rintro b r' ⟨⟩
  exact ⟨h, rfl⟩

theorem error (f : Failure) : Extends more Q (.error f) out' := fun _ _ heq => nomatch heq

theorem mono (h : Extends more Q out out') (hQ : ∀ r, Q r → Q' r) : Extends more Q' out out' :=
  fun a r heq => ⟨hQ r (h a r heq).1, (h a r heq).2⟩

theorem bind {f f' : α × List Token → Except Failure (β × List Token)}
    (h : Extends more Q out out')
    (hf : ∀ a r, Q r → Extends more Q' (f (a, r)) (f' (a, r ++ more))) :
    Extends more Q' (out >>= f) (out' >>= f') := by
  cases out with
  | error e => exact error e
  | ok p =>
      obtain ⟨hr, heq⟩ := h p.1 p.2 rfl
      rw [heq]
      exact hf p.1 p.2 hr

theorem down {below : Option Level} {read read' : Level → Reader α} {ts ts' : List Token}
    (h : ∀ l, below = some l → Extends more Q (read l ts) (read' l ts')) :
    Extends more Q (Level.down below read ts) (Level.down below read' ts') := by
  cases below with
  | none => exact error _
  | some l => exact h l rfl

end Extends

/-- The function looks at the first token only, and takes no semicolon. -/
structure Peeks (f : List Token → Option (γ × List Token)) : Prop where
  append : ∀ {ts}, ts ≠ [] → ∀ more, f (ts ++ more) = (f ts).map fun p => (p.1, p.2 ++ more)
  cons : ∀ {ts a r}, f ts = some (a, r) → ∃ t, t ≠ .punct .semicolon ∧ ts = t :: r

namespace Peeks

variable {f : List Token → Option (γ × List Token)}

theorem of_cons (look : Token → Option γ) (hsemicolon : look (.punct .semicolon) = none)
    (hnil : f [] = none) (hcons : ∀ t r, f (t :: r) = (look t).map (·, r)) : Peeks f where
  append {ts} hne more := by
    obtain ⟨t, r, rfl⟩ := List.exists_cons_of_ne_nil hne
    rw [List.cons_append, hcons, hcons, Option.map_map]
    rfl
  cons {ts a r} h := by
    cases ts with
    | nil =>
        rw [hnil] at h
        exact nomatch h
    | cons t r' =>
        rw [hcons] at h
        obtain ⟨b, hb, heq⟩ := Option.map_eq_some_iff.1 h
        refine ⟨t, ?_, by rw [(Prod.mk.inj heq).2]⟩
        rintro rfl
        rw [hsemicolon] at hb
        exact nomatch hb

theorem rest (h : Peeks f) {ts r : List Token} {a : γ} (hts : Ended ts)
    (heq : f ts = some (a, r)) : Rest Ended ts.length r := by
  obtain ⟨t, ht, rfl⟩ := h.cons heq
  exact ⟨hts.tail_of_ne ht, Nat.lt_succ_self _⟩

end Peeks

def Token.assignOp? : Token → Option AssignOp
  | .punct .assign => some .set
  | .punct .plusAssign => some .add
  | .punct .minusAssign => some .sub
  | _ => none

def Token.unaryOp? : Token → Option UnaryOp
  | .punct .bang => some .not
  | .punct .minus => some .neg
  | .punct .plus => some .plus
  | .word w => if w = "typeof" then some .typeOf else none
  | _ => none

def Token.binaryOp? (least : Nat) : Token → Option BinaryOp
  | .punct p => p.operator?.bind fun op => if least ≤ op.strength then some op else none
  | _ => none

theorem peeks_assignOp? : Peeks Level.assignOp? := by
  refine .of_cons Token.assignOp? rfl rfl fun t r => ?_
  cases t with
  | punct p => cases p <;> rfl
  | number | string | word => rfl

theorem peeks_unaryOp? : Peeks Level.unaryOp? := by
  refine .of_cons Token.unaryOp? rfl rfl fun t r => ?_
  cases t with
  | punct p => cases p <;> rfl
  | word w =>
      dsimp only [Level.unaryOp?, Token.unaryOp?]
      split <;> rfl
  | number | string => rfl

theorem peeks_binaryOp? (least : Nat) : Peeks (Level.binaryOp? least) := by
  refine .of_cons (Token.binaryOp? least) rfl rfl fun t r => ?_
  cases t with
  | punct p =>
      dsimp only [Level.binaryOp?, Token.binaryOp?]
      cases p.operator? with
      | none => rfl
      | some op =>
          dsimp only [Option.bind_some]
          split <;> rfl
  | number | string | word => rfl

section after

variable {ts r : List Token}

theorem after?_append (h : ts ≠ []) (p : Punct) (more : List Token) :
    after? p (ts ++ more) = (after? p ts).map (· ++ more) := by
  obtain ⟨t, r, rfl⟩ := List.exists_cons_of_ne_nil h
  cases t with
  | punct q =>
      dsimp only [List.cons_append, after?]
      split <;> rfl
  | number | string | word => rfl

theorem afterWord?_append (h : ts ≠ []) (w : String) (more : List Token) :
    afterWord? w (ts ++ more) = (afterWord? w ts).map (· ++ more) := by
  obtain ⟨t, r, rfl⟩ := List.exists_cons_of_ne_nil h
  cases t with
  | word v =>
      dsimp only [List.cons_append, afterWord?]
      split <;> rfl
  | number | string | punct => rfl

theorem Ended.after? (h : Ended ts) {p : Punct} (hp : p ≠ .semicolon)
    (heq : Reader.after? p ts = some r) : Rest Ended ts.length r := by
  unfold Reader.after? at heq
  split at heq
  · split at heq
    · next hq =>
      cases heq
      refine ⟨h.tail_of_ne fun hsemicolon => ?_, Nat.lt_succ_self _⟩
      exact hp (hq ▸ Token.punct.inj hsemicolon)
    · exact nomatch heq
  · exact nomatch heq

theorem Ended.afterWord? (h : Ended ts) {w : String} (heq : Reader.afterWord? w ts = some r) :
    Rest Ended ts.length r := by
  unfold Reader.afterWord? at heq
  split at heq
  · split at heq
    · cases heq
      exact ⟨h.tail_of_ne fun hword => Token.noConfusion hword, Nat.lt_succ_self _⟩
    · cases heq
  · cases heq

end after

/-- The reader takes a token at least, and no semicolon that ends the tokens; what follows the
semicolon does not matter. -/
def Reader.Local (more : List Token) (read : Reader α) : Prop :=
  ∀ ts, Ended ts → Extends more (Rest Ended ts.length) (read ts) (read (ts ++ more))

theorem local_punct {p : Punct} (hp : p ≠ .semicolon) : Local more (punct p) := by
  intro ts h
  rw [punct, punct, after?_append h.ne_nil]
  cases hafter : after? p ts with
  | none => exact .error _
  | some r => exact .ok (h.after? hp hafter)

theorem length_append_lt_iff {r ts : List Token} :
    (r ++ more).length < (ts ++ more).length ↔ r.length < ts.length := by
  rw [List.length_append, List.length_append, Nat.add_lt_add_iff_right]

theorem local_listUntil {item : Reader α} (hitem : Local more item) (close : Punct)
    (hclose : close ≠ .semicolon) : Local more (listUntil item close) := by
  intro ts h
  induction hn : ts.length using Nat.strong_induction_on generalizing ts with
  | h n ih =>
      subst hn
      rw [listUntil, listUntil, after?_append h.ne_nil]
      cases hafter : after? close ts with
      | some r => exact .ok (h.after? hclose hafter)
      | none =>
          refine (hitem ts h).bind fun a r hr => ?_
          dsimp only [Option.map_none]
          rw [after?_append hr.ends.ne_nil]
          cases hcomma : after? .comma r with
          | none =>
              exact ((local_punct hclose) r hr.ends).bind fun _ r' hr' =>
                .ok (hr'.mono (Nat.le_of_lt hr.lt))
          | some r' =>
              have hr' := hr.ends.after? (by decide) hcomma
              have hlt := Nat.lt_trans hr'.lt hr.lt
              dsimp only [Option.map_some]
              rw [if_pos hlt, if_pos (length_append_lt_iff.2 hlt)]
              exact (ih _ hlt r' hr'.ends rfl).bind fun as r'' hr'' =>
                .ok (hr''.mono (Nat.le_of_lt hlt))

namespace Level

/-- The readers of a level stop in front of a semicolon that ends the tokens. -/
structure Local (more : List Token) (l : Level) : Prop where
  assignment : Reader.Local more l.assignment
  unary : Reader.Local more l.unary
  binary : ∀ least, Reader.Local more (l.binary least)
  operators : ∀ least left ts, Ended ts → Extends more (Rest Ended (ts.length + 1))
    (l.operators least left ts) (l.operators least left (ts ++ more))
  suffixes : ∀ e ts, Ended ts → Extends more (Rest Ended (ts.length + 1))
    (l.suffixes e ts) (l.suffixes e (ts ++ more))

theorem local_primary {assignment : Reader Expr} (h : Reader.Local more assignment) :
    Reader.Local more (primary assignment) := by
  intro ts hts
  obtain ⟨t, r, rfl⟩ := hts.exists_cons
  cases t with
  | number | string => exact .ok ⟨hts.tail_of_ne nofun, Nat.lt_succ_self _⟩
  | word w =>
      dsimp only [primary, List.cons_append]
      split
      · exact .ok ⟨hts.tail_of_ne nofun, Nat.lt_succ_self _⟩
      · exact .error _
  | punct p =>
      cases p with
      | openParen =>
          refine (h r (hts.tail_of_ne nofun)).bind fun e r' hr' => ?_
          exact ((local_punct (by decide)) r' hr'.ends).bind fun _ r'' hr'' =>
            .ok (hr''.mono (Nat.le_trans (Nat.le_of_lt hr'.lt) (Nat.le_succ _)))
      | openBracket =>
          have hitems := local_listUntil h .closeBracket (by decide)
          exact (hitems r (hts.tail_of_ne nofun)).bind fun items r' hr' =>
            .ok (hr'.mono (Nat.le_succ _))
      | _ => exact .error _

theorem Local.conditional {l : Level} (h : l.Local more) : Reader.Local more (conditional l) := by
  intro ts hts
  refine (h.binary 1 ts hts).bind fun test r hr => ?_
  dsimp only
  rw [after?_append hr.ends.ne_nil]
  cases hquestion : after? .question r with
  | none => exact .ok hr
  | some r₁ =>
      have hr₁ := hr.ends.after? (by decide) hquestion
      refine (h.assignment r₁ hr₁.ends).bind fun yes r₂ hr₂ => ?_
      refine ((local_punct (by decide)) r₂ hr₂.ends).bind fun _ r₃ hr₃ => ?_
      refine (h.assignment r₃ hr₃.ends).bind fun no r₄ hr₄ => .ok (hr₄.mono ?_)
      have h₁ := hr.lt
      have h₂ := hr₁.lt
      have h₃ := hr₂.lt
      have h₄ := hr₃.lt
      omega

section levels

variable {below : Option Level} (h : ∀ l, below = some l → l.Local more)
include h

theorem local_assignmentOver : Reader.Local more (assignmentOver below) := by
  intro ts hts
  refine .down fun l hl => ?_
  have hlocal := h l hl
  refine (hlocal.conditional ts hts).bind fun left r hr => ?_
  dsimp only
  rw [peeks_assignOp?.append hr.ends.ne_nil]
  cases hop : assignOp? r with
  | none => exact .ok hr
  | some p =>
      obtain ⟨op, r'⟩ := p
      have hr' := peeks_assignOp?.rest hr.ends hop
      have hvalue := (hlocal.assignment r' hr'.ends).mono fun r'' hr'' =>
        hr''.mono (Nat.le_of_lt (Nat.lt_trans hr'.lt hr.lt))
      cases left with
      | name n => exact hvalue.bind fun value r'' hr'' => .ok hr''
      | member object property => exact hvalue.bind fun value r'' hr'' => .ok hr''
      | _ => exact .error _

theorem local_suffixesOver (e : Expr) (ts : List Token) (hts : Ended ts) :
    Extends more (Rest Ended (ts.length + 1)) (suffixesOver below e ts)
      (suffixesOver below e (ts ++ more)) := by
  obtain ⟨t, r, rfl⟩ := hts.exists_cons
  cases t with
  | number | string | word => exact .ok ⟨hts, Nat.lt_succ_self _⟩
  | punct p =>
      cases p with
      | dot =>
          dsimp only [suffixesOver, List.cons_append]
          refine .down fun l hl => ?_
          have hr := hts.tail_of_ne nofun
          obtain ⟨t, r, rfl⟩ := hr.exists_cons
          cases t with
          | word property =>
              exact ((h l hl).suffixes _ r (hr.tail_of_ne nofun)).mono fun r' hr' =>
                hr'.mono (by simp only [List.length_cons]; omega)
          | number | string | punct => exact .error _
      | openBracket =>
          dsimp only [suffixesOver, List.cons_append]
          refine .down fun l hl => ?_
          have hlocal := h l hl
          refine (hlocal.assignment r (hts.tail_of_ne nofun)).bind fun position r₁ hr₁ => ?_
          refine ((local_punct (by decide)) r₁ hr₁.ends).bind fun _ r₂ hr₂ => ?_
          refine (hlocal.suffixes _ r₂ hr₂.ends).mono fun r₃ hr₃ => hr₃.mono ?_
          have h₁ := hr₁.lt
          have h₂ := hr₂.lt
          rw [List.length_cons]
          omega
      | openParen =>
          dsimp only [suffixesOver, List.cons_append]
          refine .down fun l hl => ?_
          have hlocal := h l hl
          have hargs := local_listUntil hlocal.assignment .closeParen (by decide)
          refine (hargs r (hts.tail_of_ne nofun)).bind fun args r₁ hr₁ => ?_
          refine (hlocal.suffixes _ r₁ hr₁.ends).mono fun r₂ hr₂ => hr₂.mono ?_
          have h₁ := hr₁.lt
          rw [List.length_cons]
          omega
      | _ => exact .ok ⟨hts, Nat.lt_succ_self _⟩

theorem local_unaryOver : Reader.Local more (unaryOver below) := by
  intro ts hts
  rw [unaryOver, unaryOver, peeks_unaryOp?.append hts.ne_nil]
  cases hop : unaryOp? ts with
  | some p =>
      obtain ⟨op, r⟩ := p
      have hr := peeks_unaryOp?.rest hts hop
      have hoperand : Extends more (Rest Ended r.length) (down below unary r)
          (down below unary (r ++ more)) := .down fun l hl => (h l hl).unary r hr.ends
      exact hoperand.bind fun operand r' hr' => .ok (hr'.mono (Nat.le_of_lt hr.lt))
  | none =>
      refine (local_primary (local_assignmentOver h) ts hts).bind fun e r hr => ?_
      exact (local_suffixesOver h e r hr.ends).mono fun r' hr' => hr'.mono hr.lt

theorem local_operatorsOver (least : Nat) (left : Expr) (ts : List Token) (hts : Ended ts) :
    Extends more (Rest Ended (ts.length + 1)) (operatorsOver below least left ts)
      (operatorsOver below least left (ts ++ more)) := by
  rw [operatorsOver, operatorsOver, (peeks_binaryOp? least).append hts.ne_nil]
  cases hop : binaryOp? least ts with
  | none => exact .ok ⟨hts, Nat.lt_succ_self _⟩
  | some p =>
      obtain ⟨op, r⟩ := p
      have hr := (peeks_binaryOp? least).rest hts hop
      refine .down fun l hl => ?_
      refine ((h l hl).binary _ r hr.ends).bind fun right r' hr' => ?_
      refine ((h l hl).operators least _ r' hr'.ends).mono fun r'' hr'' => hr''.mono ?_
      have h₁ := hr.lt
      have h₂ := hr'.lt
      omega

theorem local_above : (above below).Local more where
  assignment := local_assignmentOver h
  unary := local_unaryOver h
  binary least ts hts := (local_unaryOver h ts hts).bind fun left r hr =>
    (local_operatorsOver h least left r hr.ends).mono fun _ hr' => hr'.mono hr.lt
  operators := local_operatorsOver h
  suffixes := local_suffixesOver h

end levels

end Level

theorem level_local (n : Nat) : (level n).Local more := by
  induction n with
  | zero => exact Level.local_above nofun
  | succ n ih =>
      refine Level.local_above fun l hl => ?_
      cases hl
      exact ih

def Whole (ts : List Token) : Prop := ts = [] ∨ Ended ts

theorem skip_semicolon_append {ts : List Token} (h : Ended ts) :
    skip .semicolon (ts ++ more) = skip .semicolon ts ++ more := by
  rw [skip, skip, after?_append h.ne_nil]
  cases after? .semicolon ts <;> rfl

theorem rest_skip_semicolon {n : Nat} {ts : List Token} (h : Rest Ended n ts) :
    Rest Whole n (skip .semicolon ts) := by
  obtain ⟨t, r, rfl⟩ := h.ends.exists_cons
  have hlt := h.lt
  rw [List.length_cons] at hlt
  cases t with
  | punct p =>
      by_cases hp : p = .semicolon
      · have hskip : skip .semicolon (.punct p :: r) = r := by simp [skip, after?, hp]
        rw [hskip]
        exact ⟨h.ends.tail, by omega⟩
      · have hskip : skip .semicolon (.punct p :: r) = .punct p :: r := by simp [skip, after?, hp]
        rw [hskip]
        exact ⟨.inr h.ends, h.lt⟩
  | number | string | word => exact ⟨.inr h.ends, h.lt⟩

/-- A reader of statements takes a token at least, and perhaps the last semicolon; what follows does
not matter. -/
def Reader.StatementLocal (more : List Token) (read : Reader α) : Prop :=
  ∀ ts, Ended ts → Extends more (Rest Whole ts.length) (read ts) (read (ts ++ more))

/-- A semicolon may follow. -/
theorem Extends.skip {β : Type} {n : Nat} {out out' : Except Failure (α × List Token)} {f : α → β}
    (h : Extends more (Rest Ended n) out out') :
    Extends more (Rest Whole n)
      (out >>= fun p => .ok (f p.1, Reader.skip .semicolon p.2))
      (out' >>= fun p => .ok (f p.1, Reader.skip .semicolon p.2)) := by
  refine h.bind fun a r hr => ?_
  dsimp only
  rw [skip_semicolon_append hr.ends]
  exact .ok (rest_skip_semicolon hr)

/-- A block is closed in front of the semicolon that ends the tokens. -/
theorem local_manyUntil {item : Reader α} (hitem : StatementLocal more item) (close : Punct)
    (hclose : close ≠ .semicolon) : Local more (manyUntil item close) := by
  intro ts h
  induction hn : ts.length using Nat.strong_induction_on generalizing ts with
  | h n ih =>
      subst hn
      rw [manyUntil, manyUntil, after?_append h.ne_nil]
      cases hafter : after? close ts with
      | some r => exact .ok (h.after? hclose hafter)
      | none =>
          dsimp only [Option.map_none]
          rw [if_neg h.ne_nil, if_neg (List.append_ne_nil_of_left_ne_nil h.ne_nil more)]
          refine (hitem ts h).bind fun a r hr => ?_
          dsimp only
          rw [if_pos hr.lt, if_pos (length_append_lt_iff.2 hr.lt)]
          rcases hr.ends with rfl | hended
          · obtain ⟨f, hf⟩ : ∃ f, manyUntil item close [] = .error f := by
              rw [manyUntil]
              exact ⟨_, rfl⟩
            rw [hf]
            exact .error _
          · exact (ih _ hr.lt r hended rfl).bind fun as r' hr' =>
              .ok (hr'.mono (Nat.le_of_lt hr.lt))

namespace Stmt

section

variable {l : Level} (hl : l.Local more)
include hl

theorem local_declarations (kind : DeclareKind) : Local more (declarations l kind) := by
  intro ts h
  induction hn : ts.length using Nat.strong_induction_on generalizing ts with
  | h n ih =>
      subst hn
      obtain ⟨t, rest, rfl⟩ := h.exists_cons
      cases t with
      | number | string | punct =>
        unfold declarations
        exact .error _
      | word name =>
        have hrest := h.tail_of_ne nofun
        have hfrom : ∀ (value : Option Expr) (r : List Token), Rest Ended (rest.length + 1) r →
            Extends more (Rest Ended (rest.length + 1))
              (declarationsFrom l kind name value rest r)
              (declarationsFrom l kind name value (rest ++ more) (r ++ more)) := by
          intro value r hr
          rw [declarationsFrom, declarationsFrom, after?_append hr.ends.ne_nil]
          cases hcomma : after? .comma r with
          | none => exact .ok hr
          | some r' =>
              have hr' := hr.ends.after? (by decide) hcomma
              have hlt : r'.length < rest.length :=
                Nat.lt_of_lt_of_le hr'.lt (Nat.le_of_lt_succ hr.lt)
              dsimp only [Option.map_some]
              rw [if_pos hlt, if_pos (length_append_lt_iff.2 hlt)]
              exact (ih _ (Nat.lt_succ_of_lt hlt) r' hr'.ends rfl).bind fun items r'' hr'' =>
                .ok (hr''.mono (Nat.le_succ_of_le (Nat.le_of_lt hlt)))
        rw [List.cons_append]
        unfold declarations
        dsimp only
        split
        · exact .error _
        · rw [after?_append hrest.ne_nil]
          cases hassign : after? .assign rest with
          | some r =>
              have hr := hrest.after? (by decide) hassign
              refine (hl.assignment r hr.ends).bind fun e r' hr' => ?_
              exact hfrom (some e) r' (hr'.mono (Nat.le_succ_of_le (Nat.le_of_lt hr.lt)))
          | none =>
              dsimp only [Option.map_none]
              split
              · exact .error _
              · exact hfrom none rest ⟨hrest, Nat.lt_succ_self _⟩

theorem extends_returned {ts : List Token} (h : Ended ts) :
    Extends more (Rest Ended (ts.length + 1)) (returned l ts) (returned l (ts ++ more)) := by
  rw [returned, returned, after?_append h.ne_nil, after?_append h.ne_nil, Option.isSome_map,
    Option.isSome_map]
  have hne := h.ne_nil
  have hne' := List.append_ne_nil_of_left_ne_nil hne more
  simp only [hne, hne', false_or]
  split
  · exact .ok ⟨h, Nat.lt_succ_self _⟩
  · exact (hl.assignment ts h).bind fun e r hr => .ok (hr.mono (Nat.le_succ _))

variable {inner : Reader Stmt} (hinner : StatementLocal more inner)
  (helse : afterWord? "else" more = none)
include hinner helse

/-- Where the last semicolon is taken by the first branch, no other branch may follow. -/
theorem local_branches : StatementLocal more (branches l inner) := by
  intro ts h
  refine ((local_punct (by decide)) ts h).bind fun _ r₁ hr₁ => ?_
  refine (hl.assignment r₁ hr₁.ends).bind fun test r₂ hr₂ => ?_
  refine ((local_punct (by decide)) r₂ hr₂.ends).bind fun _ r₃ hr₃ => ?_
  refine (hinner r₃ hr₃.ends).bind fun yes r₄ hr₄ => ?_
  have hle : r₄.length < ts.length := by
    have h₁ := hr₁.lt
    have h₂ := hr₂.lt
    have h₃ := hr₃.lt
    have h₄ := hr₄.lt
    omega
  dsimp only
  rcases hr₄.ends with rfl | hended
  · rw [List.nil_append, helse]
    exact .ok ⟨.inl rfl, hle⟩
  · rw [afterWord?_append hended.ne_nil]
    cases hword : afterWord? "else" r₄ with
    | none => exact .ok ⟨.inr hended, hle⟩
    | some r₅ =>
        have hr₅ := hended.afterWord? hword
        exact (hinner r₅ hr₅.ends).bind fun no r₆ hr₆ =>
          .ok (hr₆.mono (Nat.le_of_lt (Nat.lt_trans hr₅.lt hle)))

theorem local_readWith : StatementLocal more (readWith l inner) := by
  intro ts h
  have hexpr : Extends more (Rest Whole ts.length)
      (l.assignment ts >>= fun p => .ok (Stmt.expr p.1, skip .semicolon p.2))
      (l.assignment (ts ++ more) >>= fun p => .ok (Stmt.expr p.1, skip .semicolon p.2)) :=
    (hl.assignment ts h).skip
  obtain ⟨t, r, rfl⟩ := h.exists_cons
  cases t with
  | number | string => exact hexpr
  | punct p =>
      cases p with
      | semicolon => exact .ok ⟨h.tail, Nat.lt_succ_self _⟩
      | openBrace =>
          have hbody := local_manyUntil hinner .closeBrace (by decide)
          exact (hbody r (h.tail_of_ne nofun)).bind fun body r' hr' =>
            .ok ⟨.inr hr'.ends, Nat.lt_succ_of_lt hr'.lt⟩
      | _ => exact hexpr
  | word w =>
      have hr := h.tail_of_ne nofun
      have hle : r.length + 1 ≤ (Token.word w :: r).length := Nat.le_refl _
      dsimp only [List.cons_append, readWith]
      cases declareKind? w with
      | some kind =>
          exact ((local_declarations hl kind r hr).mono fun r' hr' =>
            hr'.mono (Nat.le_of_succ_le hle)).skip (f := Stmt.declare kind)
      | none =>
          dsimp only
          split
          · exact (local_branches hl hinner helse r hr).mono fun r' hr' =>
              hr'.mono (Nat.le_of_succ_le hle)
          · split
            · exact (extends_returned hl hr).skip (f := Stmt.return)
            · exact hexpr

end

/-- Statements that end in a semicolon are read alike in front of anything but an `else`. -/
theorem local_read (helse : afterWord? "else" more = none) (n : Nat) :
    StatementLocal more (read n) := by
  induction n with
  | zero => exact fun ts _ => .error _
  | succ n ih => exact local_readWith (level_local n) ih helse

/-- No statement begins with an `else`. -/
theorem exists_read_else (n : Nat) (r : List Token) :
    ∃ f, read n (.word "else" :: r) = .error f := by
  have hword : Level.ofWord? "else" = none := by simp [Level.ofWord?, isReserved, reservedWords]
  have hunary : ∀ m, ∃ f, (level m).unary (.word "else" :: r) = .error f := by
    intro m
    have hop : Level.unaryOp? (.word "else" :: r) = none := by simp [Level.unaryOp?]
    rw [unary_level, Level.unaryOver, hop]
    simp only [Level.primary, hword]
    exact ⟨_, rfl⟩
  have hassignment : ∀ m, ∃ f, (level m).assignment (.word "else" :: r) = .error f := by
    intro m
    rw [assignment_level]
    cases m with
    | zero => exact ⟨_, rfl⟩
    | succ m =>
        obtain ⟨f, hf⟩ := hunary m
        refine ⟨f, ?_⟩
        change Level.conditional (level m) (.word "else" :: r) >>= _ = _
        rw [Level.conditional, binary_level, hf]
        rfl
  cases n with
  | zero => exact ⟨_, rfl⟩
  | succ n =>
      obtain ⟨f, hf⟩ := hassignment n
      refine ⟨f, ?_⟩
      have hkind : declareKind? "else" = none := by decide
      rw [read, readWith, hkind]
      simp only [hf]
      rfl

end Stmt

theorem afterWord?_eq_some {w : String} {ts r : List Token} (h : afterWord? w ts = some r) :
    ts = .word w :: r := by
  unfold afterWord? at h
  split at h
  · split at h
    · next hw =>
      cases h
      rw [hw]
    · cases h
  · cases h

/-- What is read item by item, from the first one on. -/
theorem many_of_item {item : Reader α} {ts r : List Token} {a : α} (hitem : item ts = .ok (a, r))
    (hlt : r.length < ts.length) : many item ts = (many item r).map (a :: ·) := by
  have hne : ts ≠ [] := by
    rintro rfl
    exact absurd hlt (Nat.not_lt_zero _)
  rw [many, if_neg hne, hitem]
  simp only [bind, Except.bind, if_pos hlt]
  cases many item r <;> rfl

/-- Items that end in a semicolon can be put in front of others. -/
theorem many_append {item : Reader α} (hitem : StatementLocal more item) {ts : List Token}
    {as bs : List α} (hend : Whole ts) (hts : many item ts = .ok as)
    (hmore : many item more = .ok bs) : many item (ts ++ more) = .ok (as ++ bs) := by
  induction hn : ts.length using Nat.strong_induction_on generalizing ts as with
  | h n ih =>
      subst hn
      rcases hend with rfl | hended
      · rw [many, if_pos rfl] at hts
        cases hts
        exact hmore
      · rcases hout : item ts with f | ⟨a, r⟩
        · rw [many, if_neg hended.ne_nil, hout] at hts
          cases hts
        · obtain ⟨hr, hout'⟩ := hitem ts hended a r hout
          rw [many_of_item hout hr.lt] at hts
          obtain ⟨as', hrest, rfl⟩ : ∃ as', many item r = .ok as' ∧ a :: as' = as := by
            cases hm : many item r with
            | error f =>
                rw [hm] at hts
                cases hts
            | ok as' =>
                rw [hm] at hts
                cases hts
                exact ⟨as', rfl, rfl⟩
          rw [many_of_item hout' (length_append_lt_iff.2 hr.lt),
            ih _ hr.lt hr.ends hrest rfl]
          rfl

namespace Program

/-- Programs can be put one after the other where the first is empty or ends in a semicolon: the
statements are those of the first and then those of the second. Both are read with all the levels
that there are. -/
theorem ofTokens_append {s t : List Token} {p q : Program} (hs : ofTokens s = .ok p)
    (hend : s = [] ∨ ∃ front, s = front ++ [.punct .semicolon]) (ht : ofTokens t = .ok q) :
    ofTokens (s ++ t) = .ok (p ++ q) := by
  have helse : afterWord? "else" t = none := by
    cases hword : afterWord? "else" t with
    | none => rfl
    | some r =>
        obtain ⟨f, hf⟩ := Stmt.exists_read_else nestingLimit r
        rw [afterWord?_eq_some hword, ofTokens, many, if_neg (List.cons_ne_nil _ _), hf] at ht
        cases ht
  exact many_append (Stmt.local_read helse nestingLimit) hend hs ht

/-- A program of one statement. -/
theorem ofTokens_of_read {ts : List Token} {s : Stmt} (h : Stmt.read nestingLimit ts = .ok (s, []))
    (hpos : 0 < ts.length) : ofTokens ts = .ok [s] := by
  rw [ofTokens, many_of_item h hpos, many, if_pos rfl]
  rfl

/-- `if (a) b;`. -/
def oneBranch : List Token :=
  [.word "if", .punct .openParen, .word "a", .punct .closeParen, .word "b", .punct .semicolon]

/-- `if (c) d else e`. -/
def twoBranches : List Token :=
  [.word "if", .punct .openParen, .word "c", .punct .closeParen, .word "d", .word "else",
    .word "e"]

/-- The `else` of the second statement stays with it. -/
theorem ofTokens_append_branches :
    ofTokens oneBranch = .ok [.ifElse (.name "a") (.expr (.name "b")) none] ∧
      ofTokens twoBranches =
        .ok [.ifElse (.name "c") (.expr (.name "d")) (some (.expr (.name "e")))] ∧
      ofTokens (oneBranch ++ twoBranches) =
        .ok [.ifElse (.name "a") (.expr (.name "b")) none,
          .ifElse (.name "c") (.expr (.name "d")) (some (.expr (.name "e")))] := by
  have hone : ofTokens oneBranch = .ok [.ifElse (.name "a") (.expr (.name "b")) none] :=
    ofTokens_of_read (by rfl) (by decide)
  have htwo : ofTokens twoBranches =
      .ok [.ifElse (.name "c") (.expr (.name "d")) (some (.expr (.name "e")))] :=
    ofTokens_of_read (by rfl) (by decide)
  have hend : ∃ front, oneBranch = front ++ [.punct .semicolon] :=
    ⟨oneBranch.dropLast, by rfl⟩
  exact ⟨hone, htwo, ofTokens_append hone (.inr hend) htwo⟩

end Program

end Componentry.Script
