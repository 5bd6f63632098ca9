import Componentry.Proofs.Script.Printing

/-!
# Printed expressions are read back

The tokens of an expression are read as that expression, at whatever level, as long as there are
levels enough; where there are not, reading fails for that reason and no other. `Limited` is an
outcome of that kind. It is kept by each step of a reader, so the success and the failure are proved
at once.

What follows an expression decides where its reading stops: `Stops` says that no suffix and no
operator of some strength comes next, and `Closes` that nothing at all would be taken. `ReadBack`
says what each of the readers of a level makes of the tokens of an expression. A chain is read from
its left end, so a reader that is in the middle of a chain has gone down one level for each link.
-/

namespace Componentry.Script

open Reader

variable {α β : Type}

/-- The outcome is as given where the levels suffice, and else it is that they do not. -/
structure Limited (fits : Prop) (out given : Except Failure α) : Prop where
  eq : fits → out = given
  tooDeep : ¬ fits → ∃ remaining, out = .error ⟨remaining, .tooDeep⟩

namespace Limited

variable {fits fits' : Prop} {out given next : Except Failure α}

theorem of_eq (h : out = given) : Limited True out given := ⟨fun _ => h, fun h => absurd trivial h⟩

theorem congr (h : Limited fits out given) (hiff : fits' ↔ fits) : Limited fits' out given :=
  ⟨fun hf => h.eq (hiff.1 hf), fun hf => h.tooDeep fun h' => hf (hiff.2 h')⟩

theorem trans (h : Limited fits out given) (h' : Limited fits' given next) :
    Limited (fits ∧ fits') out next := by
  constructor
  · rintro ⟨hf, hf'⟩
    rw [h.eq hf, h'.eq hf']
  · intro hnot
    by_cases hf : fits
    · rw [h.eq hf]
      exact h'.tooDeep fun hf' => hnot ⟨hf, hf'⟩
    · exact h.tooDeep hf

/-- What is read first must fit, and then what is read after it. -/
theorem bind {x : Except Failure α} {f : α → Except Failure β} {a : α} {given : Except Failure β}
    (hx : Limited fits x (.ok a)) (hf : Limited fits' (f a) given) :
    Limited (fits ∧ fits') (x >>= f) given := by
  constructor
  · rintro ⟨h, h'⟩
    rw [hx.eq h]
    exact hf.eq h'
  · intro hnot
    by_cases h : fits
    · rw [hx.eq h]
      exact hf.tooDeep fun h' => hnot ⟨h, h'⟩
    · obtain ⟨remaining, hr⟩ := hx.tooDeep h
      exact ⟨remaining, by rw [hr]; rfl⟩

/-- After what fits, a step that always succeeds. -/
theorem bind_eq {x : Except Failure α} {f : α → Except Failure β} {a : α}
    {given : Except Failure β} (hx : Limited fits x (.ok a)) (hf : f a = given) :
    Limited fits (x >>= f) given :=
  (hx.bind (of_eq hf)).congr (by simp)

end Limited

def below? : Nat → Option Level
  | 0 => none
  | n + 1 => some (level n)

theorem level_eq (n : Nat) : level n = .above (below? n) := by cases n <;> rfl

theorem assignment_level (n : Nat) :
    (level n).assignment = Level.assignmentOver (below? n) := by rw [level_eq]; rfl

theorem unary_level (n : Nat) : (level n).unary = Level.unaryOver (below? n) := by
  rw [level_eq]
  rfl

theorem binary_level (n least : Nat) (ts : List Token) :
    (level n).binary least ts =
      (level n).unary ts >>= fun p => (level n).operators least p.1 p.2 := by rw [level_eq]; rfl

theorem operators_level (n : Nat) : (level n).operators = Level.operatorsOver (below? n) := by
  rw [level_eq]
  rfl

theorem suffixes_level (n : Nat) : (level n).suffixes = Level.suffixesOver (below? n) := by
  rw [level_eq]
  rfl

/-- Going down takes one level. -/
theorem Limited.down {read : Level → Reader α} {ts : List Token} {fits : Nat → Prop}
    (given : Nat → Except Failure (α × List Token)) (n : Nat)
    (h : ∀ m, Limited (fits m) (read (level m) ts) (given m)) :
    Limited (1 ≤ n ∧ fits (n - 1)) (Level.down (below? n) read ts) (given (n - 1)) := by
  cases n with
  | zero => exact ⟨fun hf => absurd hf.1 (by decide), fun _ => ⟨ts.length, rfl⟩⟩
  | succ n => exact (h n).congr (by simp)

/-- No suffix comes next, and no operator that binds at least as tightly as given. -/
structure Stops (least : Nat) (ts : List Token) : Prop where
  suffixes : ∀ n e, (level n).suffixes e ts = .ok (e, ts)
  operator : Level.binaryOp? least ts = none

/-- Nothing that comes next would be taken as a part of an expression. -/
structure Closes (ts : List Token) : Prop where
  stops : Stops 1 ts
  question : after? .question ts = none
  assignOp : Level.assignOp? ts = none

namespace Stops

variable {least : Nat} {ts : List Token}

theorem mono (h : Stops least ts) {more : Nat} (hle : least ≤ more) : Stops more ts := by
  refine ⟨h.suffixes, ?_⟩
  have hop := h.operator
  unfold Level.binaryOp? at hop ⊢
  split
  · next p r =>
    cases hp : p.operator? with
    | none => rfl
    | some op =>
        simp only [hp] at hop ⊢
        split at hop
        · exact nomatch hop
        · next hlt => exact if_neg fun hmore => hlt (Nat.le_trans hle hmore)
  · rfl

/-- No operator binds as tightly as a suffix. -/
theorem tight (h : Stops least ts) : Stops Expr.suffixed ts := by
  refine ⟨h.suffixes, ?_⟩
  unfold Level.binaryOp?
  split
  · next p r =>
    cases p.operator? with
    | none => rfl
    | some op => exact if_neg (Nat.not_le_of_lt (Nat.lt_of_le_of_lt (strength_le op) (by decide)))
  · rfl

theorem operators (h : Stops least ts) (n : Nat) (e : Expr) :
    (level n).operators least e ts = .ok (e, ts) := by
  rw [operators_level, Level.operatorsOver, h.operator]

theorem nil (least : Nat) : Stops least [] :=
  ⟨fun n e => by rw [suffixes_level]; rfl, rfl⟩

def suffixPuncts : List Punct := [.dot, .openBracket, .openParen]

theorem suffixes_punct {p : Punct} (h : p ∉ suffixPuncts) (n : Nat) (e : Expr)
    (r : List Token) : (level n).suffixes e (.punct p :: r) = .ok (e, .punct p :: r) := by
  rw [suffixes_level]
  unfold Level.suffixesOver
  split
  · next heq => cases heq; exact absurd (by decide) h
  · next heq => cases heq; exact absurd (by decide) h
  · next heq => cases heq; exact absurd (by decide) h
  · rfl

theorem punct {p : Punct} (h : p ∉ suffixPuncts) (hop : p.operator? = none) (least : Nat)
    (r : List Token) : Stops least (.punct p :: r) :=
  ⟨fun n e => suffixes_punct h n e r, by simp only [Level.binaryOp?, hop]⟩

/-- An operator is left alone by those that bind more tightly. -/
theorem binary (op : BinaryOp) (r : List Token) :
    Stops (op.strength + 1) (.punct (binaryPunct op) :: r) := by
  refine ⟨fun n e => suffixes_punct (by cases op <;> decide) n e r, ?_⟩
  simp only [Level.binaryOp?, operator?_binaryPunct]
  exact if_neg (Nat.not_succ_le_self op.strength)

theorem assign (op : AssignOp) (least : Nat) (r : List Token) :
    Stops least (.punct op.punct :: r) :=
  punct (by cases op <;> decide) (by cases op <;> rfl) least r

end Stops

theorem Closes.nil : Closes [] := ⟨Stops.nil 1, rfl, rfl⟩

def closingPuncts : List Punct := [.comma, .colon, .closeParen, .closeBracket]

theorem Closes.punct {p : Punct} (h : p ∈ closingPuncts) (r : List Token) :
    Closes (.punct p :: r) := by
  simp only [closingPuncts, List.mem_cons, List.not_mem_nil, or_false] at h
  rcases h with rfl | rfl | rfl | rfl <;>
    exact ⟨Stops.punct (by decide) rfl 1 r, rfl, rfl⟩

/-- Reads a punctuator that is there. -/
theorem punct_cons (p : Punct) (r : List Token) : Reader.punct p (.punct p :: r) = .ok ((), r) := by
  simp [Reader.punct, after?]

namespace Expr

def Begins : Token → Prop
  | .number _ => True
  | .string _ => True
  | .word w => w = "typeof" ∨ (Level.ofWord? w).isSome
  | .punct p => p ∈ [Punct.openParen, .openBracket, .bang, .minus, .plus]

theorem exists_begins_grouped {least : Nat} {e : Expr}
    (h : ∃ t ts, e.tokens = t :: ts ∧ Begins t) (r : List Token) :
    ∃ t ts, grouped least e e.tokens ++ r = t :: ts ∧ Begins t := by
  unfold grouped
  split
  · exact ⟨.punct .openParen, _, rfl, by simp [Begins]⟩
  · obtain ⟨t, ts, heq, ht⟩ := h
    exact ⟨t, ts ++ r, by rw [heq]; rfl, ht⟩

/-- The tokens of an expression begin with one that an expression may begin with. -/
theorem exists_begins : ∀ {e : Expr}, e.isPlain = true → ∃ t ts, e.tokens = t :: ts ∧ Begins t
  | .number n, _ => ⟨.number n, [], by rw [tokens], trivial⟩
  | .string s, _ => ⟨.string s, [], by rw [tokens], trivial⟩
  | .bool b, _ => ⟨_, [], by rw [tokens], by cases b <;> simp [Begins, Level.ofWord?]⟩
  | .null, _ => ⟨_, [], by rw [tokens], by simp [Begins, Level.ofWord?]⟩
  | .undefined, _ => ⟨_, [], by rw [tokens], by simp [Begins, Level.ofWord?]⟩
  | .this, _ => ⟨_, [], by rw [tokens], by simp [Begins, Level.ofWord?]⟩
  | .name w, h => by
      rw [isPlain] at h
      exact ⟨_, [], by rw [tokens], by simp [Begins, ofWord?_of_isName h]⟩
  | .array _, _ => ⟨_, _, by rw [tokens], by simp [Begins]⟩
  | .member object _, h => by
      rw [isPlain] at h
      rw [tokens]
      exact exists_begins_grouped (exists_begins h) _
  | .index object _, h => by
      rw [isPlain, Bool.and_eq_true] at h
      rw [tokens]
      exact exists_begins_grouped (exists_begins h.1) _
  | .call callee _, h => by
      rw [isPlain, Bool.and_eq_true] at h
      rw [tokens]
      exact exists_begins_grouped (exists_begins h.1) _
  | .unary op _, _ => ⟨_, _, by rw [tokens], by cases op <;> simp [Begins, unaryToken]⟩
  | .binary _ left _, h => by
      rw [isPlain, Bool.and_eq_true] at h
      rw [tokens]
      exact exists_begins_grouped (exists_begins h.1) _
  | .conditional test _ _, h => by
      rw [isPlain, Bool.and_eq_true, Bool.and_eq_true] at h
      rw [tokens]
      exact exists_begins_grouped (exists_begins h.1.1) _
  | .assignName w _ _, h => by
      rw [isPlain, Bool.and_eq_true] at h
      exact ⟨_, _, by rw [tokens], by simp [Begins, ofWord?_of_isName h.1]⟩
  | .assignMember object _ _ _, h => by
      rw [isPlain, Bool.and_eq_true] at h
      rw [tokens]
      exact exists_begins_grouped (exists_begins h.1) _

theorem strength_le_suffixed (e : Expr) : e.strength ≤ suffixed := by
  cases e with
  | binary op left right => exact Nat.le_trans (strength_le op) (by decide)
  | _ => simp [strength, operand, suffixed]

theorem suffixCount_eq_zero {e : Expr} (h : e.strength < suffixed) : e.suffixCount = 0 := by
  cases e with
  | member | index | call => exact absurd h (Nat.lt_irrefl suffixed)
  | _ => rfl

theorem operatorCount_eq_zero {e : Expr} (h : operand ≤ e.strength) : e.operatorCount = 0 := by
  cases e with
  | binary op left right => exact absurd (Nat.le_trans h (strength_le op)) (by decide)
  | _ => rfl

section clauses

variable (e : Expr)

def SuffixesLeft : Prop := ∀ n r,
  Limited (e.nesting ≤ n) ((level n).unary (e.tokens ++ r))
    ((level (n - e.suffixCount)).suffixes e r)

def UnaryRead : Prop := ∀ n r, Stops suffixed r →
  Limited (e.nesting ≤ n) ((level n).unary (e.tokens ++ r)) (.ok (e, r))

def OperatorsLeft : Prop := ∀ least n r, least ≤ e.strength → Stops (e.strength + 1) r →
  Limited (e.nesting ≤ n) ((level n).binary least (e.tokens ++ r))
    ((level (n - e.operatorCount)).operators least e r)

def AssignmentRead : Prop := ∀ n r, Closes r →
  Limited (e.nesting + 1 ≤ n) ((level n).assignment (e.tokens ++ r)) (.ok (e, r))

/-- What the readers of a level make of the tokens of an expression, each if the expression binds
tightly enough for it. The reader of a chain has gone down a level for each link. -/
structure ReadBack : Prop where
  suffixes : e.strength = suffixed → SuffixesLeft e
  unary : operand ≤ e.strength → UnaryRead e
  operators : 1 ≤ e.strength → OperatorsLeft e
  assignment : AssignmentRead e

end clauses

variable {e : Expr}

theorem SuffixesLeft.unaryRead (h : SuffixesLeft e) : UnaryRead e := by
  intro n r hr
  have hread := h n r
  rwa [hr.suffixes] at hread

theorem UnaryRead.operatorsLeft (h : UnaryRead e) (hle : operand ≤ e.strength) :
    OperatorsLeft e := by
  intro least n r _ hr
  have hread := h n r hr.tight
  rw [operatorCount_eq_zero hle, Nat.sub_zero, binary_level]
  exact hread.bind_eq rfl

/-- Where no assignment operator follows, an expression is read one level down. -/
theorem assignment_of_conditional {ts r : List Token} {fits : Nat → Prop} (hr : Closes r)
    (h : ∀ m, Limited (fits m) (Level.conditional (level m) ts) (.ok (e, r))) (n : Nat) :
    Limited (1 ≤ n ∧ fits (n - 1)) ((level n).assignment ts) (.ok (e, r)) := by
  rw [assignment_level, Level.assignmentOver]
  refine Limited.down (fun _ => .ok (e, r)) n fun m => ?_
  refine (h m).bind_eq ?_
  simp only [hr.assignOp]

/-- An operand and its operators are a condition without branches where no question mark follows. -/
theorem OperatorsLeft.conditional (h : OperatorsLeft e) (hpos : 1 ≤ e.strength) (m : Nat)
    {r : List Token} (hr : Stops 1 r) (hquestion : after? .question r = none) :
    Limited (e.nesting ≤ m) (Level.conditional (level m) (e.tokens ++ r)) (.ok (e, r)) := by
  have hbinary := h 1 m r hpos (hr.mono (Nat.le_add_left 1 _))
  rw [hr.operators] at hbinary
  refine hbinary.bind_eq ?_
  simp only [hquestion]

theorem OperatorsLeft.assignmentRead (h : OperatorsLeft e) (hpos : 1 ≤ e.strength) :
    AssignmentRead e := by
  intro n r hr
  refine (assignment_of_conditional hr
    (fun m => h.conditional hpos m hr.stops hr.question) n).congr ?_
  omega

theorem OperatorsLeft.readBack (h : OperatorsLeft e) (hpos : 1 ≤ e.strength)
    (hlt : e.strength < operand) : ReadBack e where
  suffixes := fun heq => absurd hlt (by rw [heq]; decide)
  unary := fun hle => absurd hlt (Nat.not_lt_of_le hle)
  operators := fun _ => h
  assignment := h.assignmentRead hpos

theorem UnaryRead.readBack (h : UnaryRead e) (heq : e.strength = operand) : ReadBack e :=
  have hpos : 1 ≤ e.strength := by rw [heq]; decide
  have hoperators := h.operatorsLeft (Nat.le_of_eq heq.symm)
  { suffixes := fun hs => absurd (heq.symm.trans hs) (by decide)
    unary := fun _ => h
    operators := fun _ => hoperators
    assignment := hoperators.assignmentRead hpos }

theorem SuffixesLeft.readBack (h : SuffixesLeft e) (heq : e.strength = suffixed) : ReadBack e :=
  have hpos : 1 ≤ e.strength := by rw [heq]; decide
  have hoperators := h.unaryRead.operatorsLeft (by rw [heq]; decide)
  { suffixes := fun _ => h
    unary := fun _ => h.unaryRead
    operators := fun _ => hoperators
    assignment := hoperators.assignmentRead hpos }

theorem AssignmentRead.readBack (h : AssignmentRead e) (heq : e.strength = 0) : ReadBack e where
  suffixes := fun hs => absurd (heq.symm.trans hs) (by decide)
  unary := fun hle => absurd hle (by rw [heq]; decide)
  operators := fun hpos => absurd hpos (by rw [heq]; decide)
  assignment := h

/-- What is in parentheses may have a suffix. -/
theorem AssignmentRead.parentheses (h : AssignmentRead e) (n : Nat) (r : List Token) :
    Limited (e.nesting + 1 ≤ n)
      ((level n).unary (.punct .openParen :: (e.tokens ++ [.punct .closeParen]) ++ r))
      ((level n).suffixes e r) := by
  have hread := h n (.punct .closeParen :: r) (Closes.punct (by decide) r)
  have happend : .punct .openParen :: (e.tokens ++ [.punct .closeParen]) ++ r =
      .punct .openParen :: (e.tokens ++ .punct .closeParen :: r) := by simp
  rw [assignment_level] at hread
  rw [happend, unary_level, suffixes_level]
  have hprimary : Limited (e.nesting + 1 ≤ n)
      (Level.primary (Level.assignmentOver (below? n))
        (.punct .openParen :: (e.tokens ++ .punct .closeParen :: r))) (.ok (e, r)) := by
    refine hread.bind_eq ?_
    simp only [punct_cons]
    rfl
  exact hprimary.bind_eq rfl

namespace ReadBack

/-- An expression in a place that asks for the strength of a suffix. -/
theorem groupedSuffixes (h : ReadBack e) (n : Nat) (r : List Token) :
    Limited (groupedNesting suffixed e e.nesting ≤ n)
      ((level n).unary (grouped suffixed e e.tokens ++ r))
      ((level (n - e.suffixCount)).suffixes e r) := by
  unfold groupedNesting grouped
  by_cases hlt : e.strength < suffixed
  · rw [if_pos hlt, if_pos hlt, suffixCount_eq_zero hlt]
    exact h.assignment.parentheses n r
  · rw [if_neg hlt, if_neg hlt]
    exact h.suffixes (Nat.le_antisymm (strength_le_suffixed e) (Nat.le_of_not_lt hlt)) n r

/-- An expression in a place that asks for the strength of an operand. -/
theorem groupedUnary (h : ReadBack e) (n : Nat) {r : List Token} (hr : Stops suffixed r) :
    Limited (groupedNesting operand e e.nesting ≤ n)
      ((level n).unary (grouped operand e e.tokens ++ r)) (.ok (e, r)) := by
  unfold groupedNesting grouped
  by_cases hlt : e.strength < operand
  · rw [if_pos hlt, if_pos hlt, ← hr.suffixes n]
    exact h.assignment.parentheses n r
  · rw [if_neg hlt, if_neg hlt]
    exact h.unary (Nat.le_of_not_lt hlt) n r hr

/-- An expression in a place that asks for the strength of an operator. -/
theorem groupedOperators (h : ReadBack e) {strength least : Nat} (hpos : 1 ≤ strength)
    (hle : least ≤ strength) (n : Nat) {r : List Token} (hr : Stops (strength + 1) r) :
    Limited (groupedNesting strength e e.nesting ≤ n)
      ((level n).binary least (grouped strength e e.tokens ++ r))
      ((level (n - if e.strength < strength then 0 else e.operatorCount)).operators least e r) := by
  unfold groupedNesting grouped
  by_cases hlt : e.strength < strength
  · rw [if_pos hlt, if_pos hlt, if_pos hlt, Nat.sub_zero]
    have hread := h.assignment.parentheses n r
    rw [hr.suffixes] at hread
    rw [binary_level]
    exact hread.bind_eq rfl
  · rw [if_neg hlt, if_neg hlt, if_neg hlt]
    have hge := Nat.le_of_not_lt hlt
    exact h.operators (Nat.le_trans hpos hge) least n r (Nat.le_trans hle hge)
      (hr.mono (Nat.succ_le_succ hge))

/-- A last operand. -/
theorem groupedBinary (h : ReadBack e) {least : Nat} (hpos : 1 ≤ least) (n : Nat)
    {r : List Token} (hr : Stops least r) :
    Limited (groupedNesting least e e.nesting ≤ n)
      ((level n).binary least (grouped least e e.tokens ++ r)) (.ok (e, r)) := by
  have hread := h.groupedOperators hpos (Nat.le_refl least) n (hr.mono (Nat.le_succ least))
  rwa [hr.operators] at hread

end ReadBack

/-- Expressions with commas between them are read up to a closing parenthesis or bracket. -/
theorem listUntil_tokensAll {close : Punct} (hclose : close = .closeParen ∨ close = .closeBracket)
    {items : List Expr} (h : ∀ e ∈ items, ReadBack e) (hplain : allPlain items = true) (n : Nat)
    (r : List Token) :
    Limited (nestingAll items ≤ n)
      (listUntil (level n).assignment close (tokensAll items ++ .punct close :: r))
      (.ok (items, r)) := by
  have hcloses : Closes (.punct close :: r) := by
    refine Closes.punct ?_ r
    rcases hclose with rfl | rfl <;> decide
  have hcomma : after? .comma (.punct close :: r) = none := by
    rcases hclose with rfl | rfl <;> rfl
  induction items with
  | nil =>
      rw [tokensAll, nestingAll, List.nil_append, listUntil]
      exact (Limited.of_eq (by simp [after?])).congr (by simp)
  | cons e es ih =>
      rw [allPlain, Bool.and_eq_true] at hplain
      have hopen : ∀ r, after? close (e.tokens ++ r) = none := by
        intro r
        obtain ⟨t, ts, ht, hbegins⟩ := exists_begins hplain.1
        rw [ht, List.cons_append]
        cases t with
        | punct p =>
            refine if_neg ?_
            rintro rfl
            rcases hclose with rfl | rfl <;> simp [Begins] at hbegins
        | number | string | word => rfl
      cases es with
      | nil =>
          rw [tokensAll, listUntil, hopen, nestingAll, nestingAll]
          refine ((h e List.mem_cons_self).assignment n _ hcloses).bind_eq ?_ |>.congr (by simp)
          simp only [hcomma, punct_cons]
          rfl
      | cons f es =>
          rw [tokensAll_cons_cons, List.append_assoc, List.cons_append, listUntil, hopen,
            nestingAll]
          have hfirst := (h e List.mem_cons_self).assignment n
            (.punct .comma :: (tokensAll (f :: es) ++ .punct close :: r))
            (Closes.punct (by decide) _)
          have hrest := ih (fun e' he' => h e' (List.mem_cons_of_mem e he')) hplain.2
          refine (hfirst.bind (?_ : Limited (nestingAll (f :: es) ≤ n) _ _)).congr (by omega)
          have hlt : (tokensAll (f :: es) ++ .punct close :: r).length <
              (e.tokens ++ .punct .comma :: (tokensAll (f :: es) ++ .punct close :: r)).length := by
            simp only [List.length_append, List.length_cons]
            omega
          simp only [after?, if_true, if_pos hlt]
          exact hrest.bind_eq rfl

section links

variable {object position left right : Expr} {args : List Expr} {r : List Token} (m : Nat)

/-- One suffix is read, and what follows it one level down. -/
theorem suffixes_member (property : String) :
    Limited (1 ≤ m) ((level m).suffixes object (.punct .dot :: .word property :: r))
      ((level (m - 1)).suffixes (.member object property) r) := by
  rw [suffixes_level m, Level.suffixesOver]
  exact (Limited.down (fun k => (level k).suffixes (.member object property) r) m
    fun _ => Limited.of_eq rfl).congr (and_iff_left trivial).symm

theorem suffixes_index (h : ReadBack position) :
    Limited (1 ≤ m ∧ position.nesting + 1 ≤ m - 1)
      ((level m).suffixes object
        (.punct .openBracket :: (position.tokens ++ .punct .closeBracket :: r)))
      ((level (m - 1)).suffixes (.index object position) r) := by
  rw [suffixes_level m, Level.suffixesOver]
  refine Limited.down (fun k => (level k).suffixes (.index object position) r) m fun k => ?_
  refine (h.assignment k _ (Closes.punct (by decide) r)).bind_eq ?_
  simp only [punct_cons]
  rfl

theorem suffixes_call (h : ∀ e ∈ args, ReadBack e) (hplain : allPlain args = true) :
    Limited (1 ≤ m ∧ nestingAll args ≤ m - 1)
      ((level m).suffixes object
        (.punct .openParen :: (tokensAll args ++ .punct .closeParen :: r)))
      ((level (m - 1)).suffixes (.call object args) r) := by
  rw [suffixes_level m, Level.suffixesOver]
  refine Limited.down (fun k => (level k).suffixes (.call object args) r) m fun k => ?_
  exact (listUntil_tokensAll (Or.inl rfl) h hplain k r).bind_eq rfl

/-- One operator and its right operand are read, and what follows them one level down. -/
theorem operators_binary (h : ReadBack right) {op : BinaryOp} {least : Nat}
    (hle : least ≤ op.strength) (hr : Stops (op.strength + 1) r) :
    Limited (1 ≤ m ∧ groupedNesting (op.strength + 1) right right.nesting ≤ m - 1)
      ((level m).operators least left
        (.punct (binaryPunct op) :: (grouped (op.strength + 1) right right.tokens ++ r)))
      ((level (m - 1)).operators least (.binary op left right) r) := by
  rw [operators_level m, Level.operatorsOver, Level.binaryOp?, operator?_binaryPunct]
  simp only [if_pos hle]
  refine Limited.down (fun k => (level k).operators least (.binary op left right) r) m fun k => ?_
  exact (h.groupedBinary (Nat.le_add_left 1 _) k hr).bind_eq rfl

end links

theorem suffixesLeft_of_primary {e : Expr} (hcount : e.suffixCount = 0)
    (hop : ∀ r, Level.unaryOp? (e.tokens ++ r) = none)
    (h : ∀ n r, Limited (e.nesting ≤ n) (Level.primary (level n).assignment (e.tokens ++ r))
      (.ok (e, r))) : SuffixesLeft e := by
  intro n r
  have hread := h n r
  rw [assignment_level] at hread
  rw [hcount, Nat.sub_zero, unary_level, Level.unaryOver, hop, suffixes_level]
  exact hread.bind_eq rfl

/-- A word is read as what it stands for. -/
theorem suffixesLeft_of_word {e : Expr} {w : String} (htokens : e.tokens = [.word w])
    (hword : Level.ofWord? w = some e) (hcount : e.suffixCount = 0) (hnesting : e.nesting = 0) :
    SuffixesLeft e := by
  refine suffixesLeft_of_primary hcount ?_ ?_
  · intro r
    have hne : w ≠ "typeof" := by
      rintro rfl
      exact absurd hword (by simp [Level.ofWord?, isReserved, reservedWords])
    rw [htokens]
    exact if_neg hne
  · intro n r
    rw [htokens, hnesting]
    refine (Limited.of_eq ?_).congr (by simp)
    simp only [List.cons_append, Level.primary, hword, List.nil_append]

theorem suffixesLeft_array {items : List Expr} (h : ∀ e ∈ items, ReadBack e)
    (hplain : allPlain items = true) : SuffixesLeft (.array items) := by
  refine suffixesLeft_of_primary rfl (fun r => by rw [tokens]; rfl) fun n r => ?_
  rw [tokens, List.cons_append, List.append_assoc, nesting]
  exact (listUntil_tokensAll (Or.inr rfl) h hplain n r).bind_eq rfl

theorem suffixesLeft_member {object : Expr} (h : ReadBack object) (property : String) :
    SuffixesLeft (.member object property) := by
  intro n r
  rw [tokens, List.append_assoc, nesting, suffixCount, ← Nat.sub_sub]
  refine ((h.groupedSuffixes n _).trans (suffixes_member _ property)).congr ?_
  omega

theorem suffixesLeft_index {object position : Expr} (h : ReadBack object)
    (hposition : ReadBack position) : SuffixesLeft (.index object position) := by
  intro n r
  rw [tokens, List.append_assoc, List.cons_append, List.append_assoc, nesting, suffixCount,
    ← Nat.sub_sub]
  refine ((h.groupedSuffixes n _).trans (suffixes_index _ hposition)).congr ?_
  omega

theorem suffixesLeft_call {callee : Expr} {args : List Expr} (h : ReadBack callee)
    (hargs : ∀ e ∈ args, ReadBack e) (hplain : allPlain args = true) :
    SuffixesLeft (.call callee args) := by
  intro n r
  rw [tokens, List.append_assoc, List.cons_append, List.append_assoc, nesting, suffixCount,
    ← Nat.sub_sub]
  refine ((h.groupedSuffixes n _).trans (suffixes_call _ hargs hplain)).congr ?_
  omega

theorem unaryRead_unary {e : Expr} (h : ReadBack e) (op : UnaryOp) : UnaryRead (.unary op e) := by
  intro n r hr
  have hop : ∀ ts, Level.unaryOp? (unaryToken op :: ts) = some (op, ts) := by
    intro ts
    cases op <;> simp [unaryToken, Level.unaryOp?]
  rw [tokens, List.cons_append, nesting, unary_level, Level.unaryOver, hop]
  have hdown := Limited.down (fun _ => .ok (e, r)) n fun m => h.groupedUnary m hr
  refine (hdown.bind_eq rfl).congr ?_
  omega

theorem operatorsLeft_binary {left right : Expr} (hleft : ReadBack left) (hright : ReadBack right)
    (op : BinaryOp) : OperatorsLeft (.binary op left right) := by
  intro least n r hle hr
  rw [tokens, List.append_assoc, List.cons_append, nesting, operatorCount, ← Nat.sub_sub]
  refine ((hleft.groupedOperators (strength_pos op) hle n (Stops.binary op _)).trans
    (operators_binary _ hright hle hr)).congr ?_
  omega

theorem conditional_branches {test yes no : Expr} (htest : ReadBack test) (hyes : ReadBack yes)
    (hno : ReadBack no) {r : List Token} (hr : Closes r) (m : Nat) :
    Limited
      (groupedNesting 1 test test.nesting ≤ m ∧ yes.nesting + 1 ≤ m ∧ no.nesting + 1 ≤ m)
      (Level.conditional (level m) (grouped 1 test test.tokens ++
        .punct .question :: (yes.tokens ++ .punct .colon :: (no.tokens ++ r))))
      (.ok (.conditional test yes no, r)) := by
  refine (htest.groupedBinary (Nat.le_refl 1) m (Stops.punct (by decide) rfl 1 _)).bind ?_
  simp only [after?, if_true]
  refine (hyes.assignment m _ (Closes.punct (by decide) _)).bind ?_
  simp only [punct_cons]
  exact (hno.assignment m r hr).bind_eq rfl

theorem assignmentRead_conditional {test yes no : Expr} (htest : ReadBack test)
    (hyes : ReadBack yes) (hno : ReadBack no) : AssignmentRead (.conditional test yes no) := by
  intro n r hr
  have htokens : tokens (.conditional test yes no) ++ r =
      grouped 1 test test.tokens ++
        .punct .question :: (yes.tokens ++ .punct .colon :: (no.tokens ++ r)) := by
    rw [tokens]
    simp
  rw [htokens, nesting]
  refine (assignment_of_conditional hr (conditional_branches htest hyes hno hr) n).congr ?_
  omega

theorem assignOp?_punct (op : AssignOp) (ts : List Token) :
    Level.assignOp? (.punct op.punct :: ts) = some (op, ts) := by
  cases op <;> rfl

/-- A target is read up to the assignment operator. -/
theorem conditional_target {target : Expr} (h : ReadBack target) (hpos : 1 ≤ target.strength)
    (op : AssignOp) (m : Nat) (ts : List Token) :
    Limited (target.nesting ≤ m)
      (Level.conditional (level m) (target.tokens ++ .punct op.punct :: ts))
      (.ok (target, .punct op.punct :: ts)) :=
  (h.operators hpos).conditional hpos m (Stops.assign op 1 ts) (by cases op <;> rfl)

theorem assignmentRead_assignName {w : String} (h : ReadBack (.name w)) {value : Expr}
    (hvalue : ReadBack value) (op : AssignOp) : AssignmentRead (.assignName w op value) := by
  intro n r hr
  have htokens : tokens (.assignName w op value) ++ r =
      tokens (.name w) ++ .punct op.punct :: (value.tokens ++ r) := by
    rw [tokens, tokens]
    simp
  rw [htokens, assignment_level, Level.assignmentOver, nesting]
  refine (Limited.down (fun _ => .ok (Expr.assignName w op value, r)) n fun m =>
    (conditional_target h (Nat.le_of_ble_eq_true rfl) op m _).bind
      (?_ : Limited (value.nesting + 1 ≤ m) _ _)).congr ?_
  · simp only [assignOp?_punct]
    exact (hvalue.assignment m r hr).bind_eq rfl
  · rw [nesting_name]
    omega

theorem assignmentRead_assignMember {object : Expr} {property : String}
    (h : ReadBack (.member object property)) {value : Expr} (hvalue : ReadBack value)
    (op : AssignOp) : AssignmentRead (.assignMember object property op value) := by
  intro n r hr
  have htokens : tokens (.assignMember object property op value) ++ r =
      tokens (.member object property) ++ .punct op.punct :: (value.tokens ++ r) := by
    rw [tokens, tokens]
    simp
  have hnesting : nesting (.assignMember object property op value) =
      max (nesting (.member object property)) (value.nesting + 1) := by
    rw [nesting, nesting]
  rw [htokens, assignment_level, Level.assignmentOver, hnesting]
  refine (Limited.down (fun _ => .ok (Expr.assignMember object property op value, r)) n fun m =>
    (conditional_target h (Nat.le_of_ble_eq_true rfl) op m _).bind
      (?_ : Limited (value.nesting + 1 ≤ m) _ _)).congr ?_
  · simp only [assignOp?_punct]
    exact (hvalue.assignment m r hr).bind_eq rfl
  · omega

mutual

/-- The tokens of an expression are read back by the readers of each level. -/
theorem readBack : ∀ {e : Expr}, e.isPlain = true → ReadBack e
  | .number n, _ => by
      refine (suffixesLeft_of_primary rfl (fun r => ?_) fun n r => ?_).readBack rfl
      · rw [tokens]
        rfl
      · rw [tokens]
        exact (Limited.of_eq rfl).congr (by simp [nesting])
  | .string s, _ => by
      refine (suffixesLeft_of_primary rfl (fun r => ?_) fun n r => ?_).readBack rfl
      · rw [tokens]
        rfl
      · rw [tokens]
        exact (Limited.of_eq rfl).congr (by simp [nesting])
  | .bool b, _ => by
      refine (suffixesLeft_of_word (by rw [tokens]) ?_ rfl (by simp only [nesting])).readBack rfl
      cases b <;> simp [Level.ofWord?]
  | .null, _ => by
      refine (suffixesLeft_of_word (by rw [tokens]) ?_ rfl (by simp only [nesting])).readBack rfl
      simp [Level.ofWord?]
  | .undefined, _ => by
      refine (suffixesLeft_of_word (by rw [tokens]) ?_ rfl (by simp only [nesting])).readBack rfl
      simp [Level.ofWord?]
  | .this, _ => by
      refine (suffixesLeft_of_word (by rw [tokens]) ?_ rfl (by simp only [nesting])).readBack rfl
      simp [Level.ofWord?]
  | .name w, h => by
      rw [isPlain] at h
      exact (suffixesLeft_of_word (by rw [tokens]) (ofWord?_of_isName h) rfl
        (nesting_name w)).readBack rfl
  | .array items, h => by
      rw [isPlain] at h
      exact (suffixesLeft_array (readBackAll h) h).readBack rfl
  | .member object property, h => by
      rw [isPlain] at h
      exact (suffixesLeft_member (readBack h) property).readBack rfl
  | .index object position, h => by
      rw [isPlain, Bool.and_eq_true] at h
      exact (suffixesLeft_index (readBack h.1) (readBack h.2)).readBack rfl
  | .call callee args, h => by
      rw [isPlain, Bool.and_eq_true] at h
      exact (suffixesLeft_call (readBack h.1) (readBackAll h.2) h.2).readBack rfl
  | .unary op e, h => by
      rw [isPlain] at h
      exact (unaryRead_unary (readBack h) op).readBack rfl
  | .binary op left right, h => by
      rw [isPlain, Bool.and_eq_true] at h
      exact (operatorsLeft_binary (readBack h.1) (readBack h.2) op).readBack (strength_pos op)
        (Nat.lt_succ_of_le (strength_le op))
  | .conditional test yes no, h => by
      rw [isPlain, Bool.and_eq_true, Bool.and_eq_true] at h
      exact (assignmentRead_conditional (readBack h.1.1) (readBack h.1.2)
        (readBack h.2)).readBack rfl
  | .assignName w op value, h => by
      rw [isPlain, Bool.and_eq_true] at h
      have hname : ReadBack (.name w) :=
        (suffixesLeft_of_word (by rw [tokens]) (ofWord?_of_isName h.1) rfl
          (nesting_name w)).readBack rfl
      exact (assignmentRead_assignName hname (readBack h.2) op).readBack rfl
  | .assignMember object property op value, h => by
      rw [isPlain, Bool.and_eq_true] at h
      have hmember := (suffixesLeft_member (readBack h.1) property).readBack rfl
      exact (assignmentRead_assignMember hmember (readBack h.2) op).readBack rfl

/-- So are those of several expressions. -/
theorem readBackAll : ∀ {es : List Expr}, allPlain es = true → ∀ e ∈ es, ReadBack e
  | [], _ => by simp
  | e :: es, h => by
      rw [allPlain, Bool.and_eq_true] at h
      intro e' he
      rcases List.mem_cons.1 he with heq | he
      · exact heq ▸ readBack h.1
      · exact readBackAll h.2 e' he

end

end Expr

end Componentry.Script
