import Componentry.Proofs.Script.Height
import Componentry.Proofs.Script.Reading
import Mathlib.Tactic.Ring

/-!
# How deep a program can be

The nesting limit counts the levels that reading goes down. A chain of operators or of suffixes goes
down one level with each link, but the levels are given back at its end, and what stands at the left
end of a chain is read before it. So one chain of full length can stand on top of another, and an
expression that may go `n` levels down grows by `2 * n` at each of them. `tallest` adds that up, and
`Level.Bounded` is what it means for the readers of a level.
-/

namespace Componentry.Script

open Reader

variable {α β : Type}

def Gives (P : α → Prop) (out : Except Failure (α × List Token)) : Prop :=
  ∀ a r, out = .ok (a, r) → P a

namespace Gives

variable {P P' : α → Prop} {Q : β → Prop}

theorem ok {a : α} {r : List Token} (h : P a) : Gives P (.ok (a, r)) := by
  intro b r' heq
  cases heq
  exact h

theorem error (f : Failure) : Gives P (.error f) := fun _ _ heq => nomatch heq

theorem bind {out : Except Failure (α × List Token)}
    {f : α × List Token → Except Failure (β × List Token)} (h : Gives P out)
    (hf : ∀ a r, P a → Gives Q (f (a, r))) : Gives Q (out >>= f) := by
  cases out with
  | error e => exact error e
  | ok p => exact hf p.1 p.2 (h p.1 p.2 rfl)

/-- What was read first does not matter. -/
theorem after {out : Except Failure (α × List Token)}
    {f : α × List Token → Except Failure (β × List Token)} (hf : ∀ a r, Gives Q (f (a, r))) :
    Gives Q (out >>= f) :=
  bind (P := fun _ => True) (fun _ _ _ => trivial) fun a r _ => hf a r

theorem down {below : Option Level} {read : Level → Reader α} {ts : List Token}
    (h : ∀ l, below = some l → Gives P (read l ts)) : Gives P (Level.down below read ts) := by
  cases below with
  | none => exact error _
  | some l => exact h l rfl

section items

variable {item : Reader α} (h : ∀ ts, Gives P (item ts))
include h

/-- All items of a list have what any item has. -/
theorem listUntil (close : Punct) (ts : List Token) :
    Gives (fun as => ∀ a ∈ as, P a) (Reader.listUntil item close ts) := by
  induction hn : ts.length using Nat.strong_induction_on generalizing ts with
  | h n ih =>
      rw [Reader.listUntil]
      split
      · exact ok (by simp)
      · refine (h ts).bind fun a r ha => ?_
        dsimp only
        split
        · exact after fun _ _ => ok (by simpa using ha)
        · next r' _ =>
          split
          · next hlt =>
            refine (ih _ (hn ▸ hlt) r' rfl).bind fun as r has => ok ?_
            simpa using ⟨ha, has⟩
          · exact ok (by simpa using ha)

theorem manyUntil (close : Punct) (ts : List Token) :
    Gives (fun as => ∀ a ∈ as, P a) (Reader.manyUntil item close ts) := by
  induction hn : ts.length using Nat.strong_induction_on generalizing ts with
  | h n ih =>
      rw [Reader.manyUntil]
      split
      · exact ok (by simp)
      · split
        · exact error _
        · refine (h ts).bind fun a r ha => ?_
          dsimp only
          split
          · next hlt =>
            refine (ih _ (hn ▸ hlt) r rfl).bind fun as r has => ok ?_
            simpa using ⟨ha, has⟩
          · exact ok (by simpa using ha)

theorem many (ts : List Token) {as : List α} (has : Reader.many item ts = .ok as) :
    ∀ a ∈ as, P a := by
  induction hn : ts.length using Nat.strong_induction_on generalizing ts as with
  | h n ih =>
      rw [Reader.many] at has
      split at has
      · cases has
        exact fun _ ha => nomatch ha
      · rcases hitem : item ts with f | ⟨a, r⟩
        · rw [hitem] at has
          exact nomatch has
        · have ha : P a := h ts a r hitem
          rw [hitem] at has
          simp only [Bind.bind, Except.bind] at has
          split at has
          · next hlt =>
            split at has
            · exact nomatch has
            · next rest hrest =>
              cases has
              simpa using ⟨ha, ih _ (hn ▸ hlt) r hrest rfl⟩
          · cases has
            simpa using ha

end items

end Gives

/-- The greatest height of an expression that goes `n` levels down: a condition over `n - 1`
operators over `n - 1` suffixes over an array at each level, and a name at the last. -/
def tallest : Nat → Nat
  | 0 => 0
  | 1 => 1
  | n + 2 => tallest (n + 1) + 2 * (n + 2)

theorem tallest_succ {n : Nat} (h : 1 ≤ n) : tallest (n + 1) = tallest n + 2 * (n + 1) := by
  cases n with
  | zero => exact absurd h (by decide)
  | succ n => rfl

theorem tallest_add_one (n : Nat) : tallest (n + 1) + 1 = (n + 1) * (n + 2) := by
  induction n with
  | zero => rfl
  | succ n ih =>
      have hstep : tallest (n + 2) = tallest (n + 1) + 2 * (n + 2) := rfl
      calc
        tallest (n + 1 + 1) + 1 = (tallest (n + 1) + 1) + 2 * (n + 2) := by rw [hstep]; omega
        _ = (n + 1) * (n + 2) + 2 * (n + 2) := by rw [ih]
        _ = (n + 1 + 1) * (n + 1 + 2) := by ring

theorem tallest_lt (n : Nat) : tallest n < tallest (n + 1) := by
  cases n with
  | zero => decide
  | succ n =>
      rw [tallest_succ (Nat.le_add_left 1 n)]
      omega

/-- An operand with all operators that the level allows is no taller than an expression from the
level above, and lower if there is a level below. -/
theorem operators_le_tallest (n : Nat) : n + (n + 1 + tallest n) ≤ tallest (n + 1) := by
  cases n with
  | zero => decide
  | succ n =>
      rw [tallest_succ (Nat.le_add_left 1 n)]
      omega

theorem operators_lt_tallest {n : Nat} (h : 1 ≤ n) :
    n + (n + 1 + tallest n) < tallest (n + 1) := by
  rw [tallest_succ h]
  omega

def Within (b : Nat) (e : Expr) : Prop := e.height ≤ b

theorem Within.mono {b b' : Nat} {e : Expr} (h : Within b e) (hle : b ≤ b') : Within b' e :=
  Nat.le_trans h hle

theorem heightAll_le {b : Nat} {es : List Expr} (h : ∀ e ∈ es, Within b e) :
    Expr.heightAll es ≤ b := by
  induction es with
  | nil => rw [Expr.heightAll]; exact Nat.zero_le b
  | cons e es ih =>
      rw [Expr.heightAll]
      exact Nat.max_le.2 ⟨h e List.mem_cons_self, ih fun e' he => h e' (List.mem_cons_of_mem e he)⟩

/-- How tall the expressions are that the readers of a level give, which may go `n` levels down.
Chains grow from what they are given: the bound on it must leave room for what is read on the
way. -/
structure Level.Bounded (n : Nat) (l : Level) : Prop where
  assignment : ∀ ts, Gives (fun e => 1 ≤ n ∧ Within (tallest n) e) (l.assignment ts)
  unary : ∀ ts, Gives (Within (n + 1 + tallest n)) (l.unary ts)
  binary : ∀ least ts, Gives (Within (n + (n + 1 + tallest n))) (l.binary least ts)
  operators : ∀ b, n + 1 + tallest n ≤ b → ∀ least left ts, Within b left →
    Gives (Within (n + b)) (l.operators least left ts)
  suffixes : ∀ b, tallest n ≤ b → ∀ e ts, Within b e → Gives (Within (n + b)) (l.suffixes e ts)

namespace Level

theorem height_ofWord? {w : String} {e : Expr} (h : ofWord? w = some e) : e.height = 1 := by
  unfold ofWord? at h
  split_ifs at h <;> cases h <;> exact Phrase.height_eq_one rfl

theorem gives_primary {b : Nat} {assignment : Reader Expr}
    (h : ∀ ts, Gives (Within b) (assignment ts)) (ts : List Token) :
    Gives (Within (b + 1)) (primary assignment ts) := by
  have hleaf : ∀ {e : Expr}, e.height = 1 → Within (b + 1) e :=
    fun he => Nat.le_trans (Nat.le_of_eq he) (Nat.le_add_left 1 b)
  unfold primary
  split
  · exact .ok (hleaf (Phrase.height_eq_one rfl))
  · exact .ok (hleaf (Phrase.height_eq_one rfl))
  · split
    · next hword => exact .ok (hleaf (height_ofWord? hword))
    · exact .error _
  · refine (h _).bind fun e r he => .after fun _ _ => .ok ?_
    exact he.mono (Nat.le_succ b)
  · refine (Gives.listUntil h _ _).bind fun items r hitems => .ok ?_
    rw [Within, Expr.height]
    exact Nat.succ_le_succ (heightAll_le hitems)
  · exact .error _

namespace Bounded

variable {n : Nat} {l : Level}

/-- A condition is as tall as an expression from the level above may be: one with branches is read
only where there is a level below. -/
theorem conditional (h : l.Bounded n) (ts : List Token) :
    Gives (Within (tallest (n + 1))) (conditional l ts) := by
  refine (h.binary 1 ts).bind fun test r htest => ?_
  dsimp only
  split
  · exact .ok (htest.mono (operators_le_tallest n))
  · refine (h.assignment _).bind fun yes r hyes => .after fun _ _ => ?_
    refine (h.assignment _).bind fun no r hno => .ok ?_
    have hlt := operators_lt_tallest hyes.1
    dsimp only [Within] at htest hyes hno ⊢
    rw [Expr.height]
    omega

end Bounded

def Below (n : Nat) (below : Option Level) : Prop :=
  ∀ l, below = some l → ∃ m, n = m + 1 ∧ l.Bounded m

namespace Below

variable {n b : Nat} {below : Option Level} {e left : Expr}

theorem assignmentOver (h : Below n below) (ts : List Token) :
    Gives (fun e => 1 ≤ n ∧ Within (tallest n) e) (assignmentOver below ts) := by
  refine Gives.down fun l hl => ?_
  obtain ⟨m, rfl, hl⟩ := h l hl
  have hlt := tallest_lt m
  refine (hl.conditional ts).bind fun left r hleft => ?_
  dsimp only
  split
  · exact .ok ⟨Nat.le_add_left 1 m, hleft⟩
  · split
    · refine (hl.assignment _).bind fun value r hvalue => .ok ⟨Nat.le_add_left 1 m, ?_⟩
      dsimp only [Within] at hvalue ⊢
      rw [Expr.height]
      exact Nat.lt_of_le_of_lt hvalue.2 hlt
    · refine (hl.assignment _).bind fun value r hvalue => .ok ⟨Nat.le_add_left 1 m, ?_⟩
      dsimp only [Within] at hleft hvalue ⊢
      simp only [Expr.height] at hleft ⊢
      exact Nat.max_lt.2 ⟨hleft, Nat.lt_of_le_of_lt hvalue.2 hlt⟩
    · exact .error _

/-- What a suffix makes of an expression is one taller, and the level below may add one less. -/
theorem suffixesOver (h : Below n below) (hb : tallest n ≤ b) (he : Within b e)
    (ts : List Token) : Gives (Within (n + b)) (suffixesOver below e ts) := by
  have hgrow : ∀ l, below = some l → ∃ m, l.Bounded m ∧ tallest m ≤ b ∧
      ∀ e' ts, Within (b + 1) e' → Gives (Within (n + b)) (l.suffixes e' ts) := by
    intro l hl
    obtain ⟨m, rfl, hl⟩ := h l hl
    have hroom := Nat.le_trans (Nat.le_of_lt (tallest_lt m)) hb
    refine ⟨m, hl, hroom, fun e' ts he' => ?_⟩
    rw [Nat.add_right_comm, Nat.add_assoc]
    exact hl.suffixes (b + 1) (Nat.le_succ_of_le hroom) e' ts he'
  unfold Level.suffixesOver
  split
  · refine Gives.down fun l hl => ?_
    obtain ⟨m, -, -, hgrow⟩ := hgrow l hl
    split
    · refine hgrow _ _ ?_
      rw [Within, Expr.height]
      exact Nat.succ_le_succ he
    · exact .error _
  · refine Gives.down fun l hl => ?_
    obtain ⟨m, hl, hroom, hgrow⟩ := hgrow l hl
    refine (hl.assignment _).bind fun position r hposition => .after fun _ _ => hgrow _ _ ?_
    rw [Within, Expr.height]
    exact Nat.succ_le_succ (Nat.max_le.2 ⟨he, Nat.le_trans hposition.2 hroom⟩)
  · refine Gives.down fun l hl => ?_
    obtain ⟨m, hl, hroom, hgrow⟩ := hgrow l hl
    have hargs := Gives.listUntil (fun ts a r heq => (hl.assignment ts a r heq).2) .closeParen
    refine (hargs _).bind fun args r hargs => hgrow _ _ ?_
    rw [Within, Expr.height]
    exact Nat.succ_le_succ (Nat.max_le.2 ⟨he, Nat.le_trans (heightAll_le hargs) hroom⟩)
  · exact .ok (he.mono (Nat.le_add_left b n))

theorem operatorsOver (h : Below n below) (hb : n + 1 + tallest n ≤ b) (least : Nat)
    (hleft : Within b left) (ts : List Token) :
    Gives (Within (n + b)) (operatorsOver below least left ts) := by
  unfold Level.operatorsOver
  split
  · refine Gives.down fun l hl => ?_
    obtain ⟨m, rfl, hl⟩ := h l hl
    have hroom := operators_le_tallest m
    refine (hl.binary _ _).bind fun right r hright => ?_
    rw [Nat.add_right_comm, Nat.add_assoc]
    refine hl.operators (b + 1) (by omega) least _ r ?_
    rw [Within, Expr.height]
    rw [Within] at hleft hright
    omega
  · exact .ok (hleft.mono (Nat.le_add_left b n))

theorem unaryOver (h : Below n below) (ts : List Token) :
    Gives (Within (n + 1 + tallest n)) (unaryOver below ts) := by
  unfold Level.unaryOver
  split
  · have hoperand : ∀ ts, Gives (fun e => e.height + 1 ≤ n + 1 + tallest n)
        (down below unary ts) := by
      refine fun ts => Gives.down fun l hl e r heq => ?_
      obtain ⟨m, rfl, hl⟩ := h l hl
      have hlt := tallest_lt m
      have hheight := hl.unary ts e r heq
      rw [Within] at hheight
      omega
    refine (hoperand _).bind fun operand r hoperand => .ok ?_
    rw [Within, Expr.height]
    exact hoperand
  · have hassignment := fun ts e r heq => (h.assignmentOver ts e r heq).2
    refine (gives_primary hassignment ts).bind fun e r he => ?_
    have hsuffixes := h.suffixesOver (Nat.le_succ _) he r
    rwa [Nat.add_right_comm]

theorem above (h : Below n below) : (above below).Bounded n where
  assignment := h.assignmentOver
  unary := h.unaryOver
  binary _ ts := (h.unaryOver ts).bind fun _ r hleft => h.operatorsOver (Nat.le_refl _) _ hleft r
  operators _ hb least _ ts hleft := h.operatorsOver hb least hleft ts
  suffixes _ hb _ ts he := h.suffixesOver hb he ts

end Below

end Level

theorem level_bounded (n : Nat) : (level n).Bounded n := by
  induction n with
  | zero => exact Level.Below.above nofun
  | succ n ih =>
      refine Level.Below.above fun l hl => ?_
      cases hl
      exact ⟨n, rfl, ih⟩

namespace Stmt

def Within (b : Nat) (s : Stmt) : Prop := s.height ≤ b

theorem heightAll_le {b : Nat} {ss : List Stmt} (h : ∀ s ∈ ss, Within b s) :
    Stmt.heightAll ss ≤ b := by
  induction ss with
  | nil => rw [Stmt.heightAll]; exact Nat.zero_le b
  | cons s ss ih =>
      rw [Stmt.heightAll]
      exact Nat.max_le.2 ⟨h s List.mem_cons_self, ih fun s' hs => h s' (List.mem_cons_of_mem s hs)⟩

/-- Reads what follows the first of some declarations, in front of which `rest` was to be read. -/
def declarationsFrom (l : Level) (kind : DeclareKind) (name : String) (value : Option Expr)
    (rest : List Token) : Reader (List (String × Option Expr)) := fun r =>
  match after? .comma r with
  | none => .ok ([(name, value)], r)
  | some r =>
    if r.length < rest.length then do
      let (items, r) ← declarations l kind r
      .ok ((name, value) :: items, r)
    else .ok ([(name, value)], r)

theorem gives_declarationsFrom {l : Level} {b : Nat} {kind : DeclareKind} {name : String}
    {value : Option Expr} {rest r : List Token} (hvalue : ∀ e ∈ value, Script.Within b e)
    (hnext : ∀ r', r'.length < rest.length →
      Gives (fun items => ∀ e ∈ declaredValues items, Script.Within b e)
        (declarations l kind r')) :
    Gives (fun items => ∀ e ∈ declaredValues items, Script.Within b e)
      (declarationsFrom l kind name value rest r) := by
  have hone : ∀ e ∈ declaredValues [(name, value)], Script.Within b e := by
    simpa [declaredValues] using hvalue
  unfold declarationsFrom
  split
  · exact .ok hone
  · split
    · next r' _ hlt =>
      refine (hnext r' hlt).bind fun items r hitems => .ok fun e he => ?_
      have happend : declaredValues ((name, value) :: items) =
          declaredValues [(name, value)] ++ declaredValues items :=
        List.filterMap_append (l := [(name, value)])
      rw [happend, List.mem_append] at he
      exact he.elim (hone e) (hitems e)
    · exact .ok hone

section

variable {l : Level} {b : Nat} (hl : ∀ ts, Gives (Script.Within b) (l.assignment ts))
include hl

theorem gives_declarations (kind : DeclareKind) (ts : List Token) :
    Gives (fun items => ∀ e ∈ declaredValues items, Script.Within b e)
      (declarations l kind ts) := by
  induction hn : ts.length using Nat.strong_induction_on generalizing ts with
  | h n ih =>
      unfold declarations
      split
      · next name rest =>
        split
        · exact .error _
        · have hrest : ∀ (value : Option Expr) (r : List Token),
              (∀ e ∈ value, Script.Within b e) →
              Gives (fun items => ∀ e ∈ declaredValues items, Script.Within b e)
                (declarationsFrom l kind name value rest r) := by
            refine fun value r hvalue => gives_declarationsFrom hvalue fun r' hlt => ?_
            have hlt' : r'.length < n := by
              rw [← hn, List.length_cons]
              exact Nat.lt_succ_of_lt hlt
            exact ih _ hlt' r' rfl
          dsimp only
          split
          · exact (hl _).bind fun e r he => hrest (some e) r (by simpa using he)
          · split
            · exact .error _
            · exact hrest none rest (by simp)
      · exact .error _

theorem gives_returned (ts : List Token) :
    Gives (fun value => ∀ e ∈ value, Script.Within b e) (returned l ts) := by
  unfold returned
  split
  · exact .ok (by simp)
  · exact (hl _).bind fun e r he => .ok (by simpa using he)

variable {inner : Reader Stmt} (hinner : ∀ ts, Gives (Within b) (inner ts))
include hinner

theorem gives_branches (ts : List Token) : Gives (Within (b + 1)) (branches l inner ts) := by
  refine .after fun _ _ => (hl _).bind fun test r htest => .after fun _ _ => ?_
  refine (hinner _).bind fun yes r hyes => ?_
  dsimp only [Within, Script.Within] at htest hyes ⊢
  split
  · refine .ok ?_
    simp only [Within, Stmt.height]
    exact Nat.succ_le_succ (Nat.max_le.2 ⟨htest, hyes⟩)
  · refine (hinner _).bind fun no r hno => .ok ?_
    dsimp only [Within] at hno ⊢
    rw [Stmt.height]
    exact Nat.succ_le_succ (Nat.max_le.2 ⟨htest, Nat.max_le.2 ⟨hyes, hno⟩⟩)

/-- A statement is one taller than what it is read from. -/
theorem gives_readWith (ts : List Token) : Gives (Within (b + 1)) (readWith l inner ts) := by
  have hexpr : ∀ ts, Gives (Within (b + 1))
      (l.assignment ts >>= fun p => .ok (.expr p.1, skip .semicolon p.2)) := by
    refine fun ts => (hl ts).bind fun e r he => .ok ?_
    dsimp only [Within]
    rw [Stmt.height]
    exact Nat.succ_le_succ he
  unfold readWith
  split
  · refine .ok ?_
    rw [Within, Stmt.height]
    exact Nat.le_add_left 1 b
  · refine (Gives.manyUntil hinner _ _).bind fun body r hbody => .ok ?_
    dsimp only [Within]
    rw [Stmt.height]
    exact Nat.succ_le_succ (heightAll_le hbody)
  · split
    · refine (gives_declarations hl _ _).bind fun items r hitems => .ok ?_
      dsimp only [Within]
      rw [Stmt.height]
      exact Nat.succ_le_succ (Script.heightAll_le hitems)
    · split
      · exact gives_branches hl hinner _
      · split
        · refine (gives_returned hl _).bind fun value r hvalue => .ok ?_
          dsimp only [Within]
          cases value with
          | none => rw [Stmt.height]; exact Nat.le_add_left 1 b
          | some e => rw [Stmt.height]; exact Nat.succ_le_succ (hvalue e rfl)
        · exact hexpr _
  · exact hexpr _

end

/-- A statement is one taller than the expressions that its level allows, whatever statements are
in it. -/
theorem gives_read (n : Nat) (ts : List Token) :
    Gives (Within (tallest (n - 1) + 1)) (read n ts) := by
  induction n generalizing ts with
  | zero => exact .error _
  | succ n ih =>
      refine gives_readWith (fun ts e r heq => ((level_bounded n).assignment ts e r heq).2) ?_ ts
      intro ts s r heq
      cases n with
      | zero => exact nomatch heq
      | succ n => exact Nat.le_trans (ih ts s r heq) (tallest_lt n)

end Stmt

namespace Program

def ReadWithin (n : Nat) (source : String) (p : Program) : Prop :=
  ∃ ls, lexemes source = .ok ls ∧ many (Stmt.read n) (ls.map Lexeme.token) = .ok p

theorem readWithin_nestingLimit {source : String} {p : Program} (h : ofSource source = .ok p) :
    ReadWithin nestingLimit source p := by
  unfold ofSource at h
  rcases hls : lexemes source with e | ls
  · rw [hls] at h
    exact nomatch h
  · rw [hls] at h
    simp only [bind, Except.bind] at h
    split at h
    · next hp =>
      cases h
      exact ⟨ls, hls, hp⟩
    · exact nomatch h

/-- A number of levels bounds the height of programs by its square, not by itself. -/
theorem ReadWithin.height_le {n : Nat} {source : String} {p : Program}
    (h : ReadWithin n source p) (hn : 2 ≤ n) : p.height ≤ n * (n - 1) := by
  obtain ⟨ls, -, hp⟩ := h
  have hle := Stmt.heightAll_le (Gives.many (Stmt.gives_read n) _ hp)
  obtain ⟨m, rfl⟩ := Nat.exists_eq_add_of_le' hn
  have hone : m + 2 - 1 = m + 1 := rfl
  rwa [hone, tallest_add_one, Nat.mul_comm, ← hone] at hle

end Program

end Componentry.Script
