import Componentry.Proofs.Script.Reading

/-!
# Printing and reading a program

A program that is one expression is read back from the tokens of that expression where the nesting
limit allows it. A level of nesting takes a token at least, so that is so for every expression of
fewer tokens than the limit.
-/

namespace Componentry.Script

open Reader

namespace Expr

section lengths

variable {e : Expr} (least : Nat)

theorem nesting_le_groupedNesting : e.nesting ≤ groupedNesting least e e.nesting := by
  unfold groupedNesting
  split <;> omega

/-- Parentheses are two tokens for one level. -/
theorem groupedNesting_lt (h : e.nesting < e.tokens.length) :
    groupedNesting least e e.nesting < (grouped least e e.tokens).length := by
  unfold groupedNesting grouped
  split
  · simp only [List.length_cons, List.length_append, List.length_nil]
    omega
  · exact h

theorem suffixCount_le_nesting : e.suffixCount ≤ e.nesting := by
  cases e <;> simp only [suffixCount, nesting] <;> omega

theorem operatorCount_le_nesting : e.operatorCount ≤ e.nesting := by
  cases e <;> simp only [operatorCount, nesting] <;> omega

end lengths

mutual

/-- Every level that reading goes down has a token of its own. -/
theorem nesting_lt_length : ∀ e : Expr, e.nesting < e.tokens.length
  | .number n => by simp [nesting, tokens]
  | .string s => by simp [nesting, tokens]
  | .bool b => by simp [nesting, tokens]
  | .null => by simp [nesting, tokens]
  | .undefined => by simp [nesting, tokens]
  | .this => by simp [nesting, tokens]
  | .name n => by simp [nesting, tokens]
  | .array items => by
      have hitems := nestingAll_le_length items
      simp only [nesting, tokens, List.length_cons, List.length_append]
      omega
  | .member object property => by
      have hobject := groupedNesting_lt suffixed (nesting_lt_length object)
      have hle := nesting_le_groupedNesting (e := object) suffixed
      have hcount := suffixCount_le_nesting (e := object)
      simp only [nesting, tokens, List.length_cons, List.length_append, List.length_nil]
      omega
  | .index object position => by
      have hobject := groupedNesting_lt suffixed (nesting_lt_length object)
      have hle := nesting_le_groupedNesting (e := object) suffixed
      have hcount := suffixCount_le_nesting (e := object)
      have hposition := nesting_lt_length position
      simp only [nesting, tokens, List.length_cons, List.length_append]
      omega
  | .call callee args => by
      have hcallee := groupedNesting_lt suffixed (nesting_lt_length callee)
      have hle := nesting_le_groupedNesting (e := callee) suffixed
      have hcount := suffixCount_le_nesting (e := callee)
      have hargs := nestingAll_le_length args
      simp only [nesting, tokens, List.length_cons, List.length_append]
      omega
  | .unary op e => by
      have he := groupedNesting_lt operand (nesting_lt_length e)
      simp only [nesting, tokens, List.length_cons]
      omega
  | .binary op left right => by
      have hleft := groupedNesting_lt op.strength (nesting_lt_length left)
      have hle := nesting_le_groupedNesting (e := left) op.strength
      have hcount := operatorCount_le_nesting (e := left)
      have hright := groupedNesting_lt (op.strength + 1) (nesting_lt_length right)
      simp only [nesting, tokens, List.length_cons, List.length_append]
      split <;> omega
  | .conditional test yes no => by
      have htest := groupedNesting_lt 1 (nesting_lt_length test)
      have hyes := nesting_lt_length yes
      have hno := nesting_lt_length no
      simp only [nesting, tokens, List.length_cons, List.length_append]
      omega
  | .assignName w op value => by
      have hvalue := nesting_lt_length value
      simp only [nesting, tokens, List.length_cons]
      omega
  | .assignMember object property op value => by
      have hobject := groupedNesting_lt suffixed (nesting_lt_length object)
      have hle := nesting_le_groupedNesting (e := object) suffixed
      have hcount := suffixCount_le_nesting (e := object)
      have hvalue := nesting_lt_length value
      simp only [nesting, tokens, List.length_cons, List.length_append]
      omega

theorem nestingAll_le_length : ∀ es : List Expr, nestingAll es ≤ (tokensAll es).length
  | [] => by simp [nestingAll]
  | [e] => by
      have he := nesting_lt_length e
      simp only [nestingAll, tokensAll]
      omega
  | e :: f :: es => by
      have he := nesting_lt_length e
      have hrest := nestingAll_le_length (f :: es)
      rw [nestingAll, tokensAll_cons_cons]
      simp only [List.length_cons, List.length_append]
      omega

end

/-- What an expression may begin with begins no other statement. -/
theorem Begins.readWith {t : Token} (h : Begins t) (l : Level) (inner : Reader Stmt)
    (ts : List Token) :
    Stmt.readWith l inner (t :: ts) =
      l.assignment (t :: ts) >>= fun p => .ok (.expr p.1, skip .semicolon p.2) := by
  cases t with
  | number | string => rfl
  | punct p =>
      simp only [Begins, List.mem_cons, List.not_mem_nil, or_false] at h
      rcases h with rfl | rfl | rfl | rfl | rfl <;> rfl
  | word w =>
      have hwords : ∀ v ∈ ["let", "const", "var", "if", "return"], w ≠ v := by
        rintro v hv rfl
        simp only [List.mem_cons, List.not_mem_nil, or_false] at hv
        rcases hv with rfl | rfl | rfl | rfl | rfl <;>
          exact absurd h (by simp [Begins, Level.ofWord?, isReserved, reservedWords])
      have hkind : Stmt.declareKind? w = none := by
        simp [Stmt.declareKind?, hwords "let" (by simp), hwords "const" (by simp),
          hwords "var" (by simp)]
      simp only [Stmt.readWith, hkind, if_neg (hwords "if" (by simp)),
        if_neg (hwords "return" (by simp))]

end Expr

namespace Program

variable {e : Expr}

/-- A program that is one expression is read from its tokens unless it is nested too deep. -/
theorem limited_many (h : e.isPlain = true) (n : Nat) :
    Limited (e.nesting + 2 ≤ n) (many (Stmt.read n) e.tokens) (.ok [.expr e]) := by
  obtain ⟨t, ts, htokens, ht⟩ := Expr.exists_begins h
  have hne : e.tokens ≠ [] := by simp [htokens]
  have hstmt : Limited (e.nesting + 2 ≤ n) (Stmt.read n e.tokens) (.ok (.expr e, [])) := by
    cases n with
    | zero => exact ⟨fun hfits => absurd hfits (Nat.not_succ_le_zero _), fun _ => ⟨_, rfl⟩⟩
    | succ n =>
        have hread := (Expr.readBack h).assignment n [] Closes.nil
        rw [List.append_nil] at hread
        rw [htokens, Stmt.read, ht.readWith, ← htokens]
        exact (hread.bind_eq rfl).congr Nat.succ_le_succ_iff
  rw [many, if_neg hne]
  refine hstmt.bind_eq ?_
  have hshorter : ([] : List Token).length < e.tokens.length := List.length_pos_iff.2 hne
  simp only [if_pos hshorter]
  rw [many, if_pos rfl]
  rfl

theorem limited_ofTokens (h : e.isPlain = true) :
    Limited (e.nesting + 2 ≤ nestingLimit) (ofTokens e.tokens) (.ok [.expr e]) :=
  limited_many h nestingLimit

/-- The tokens of an expression with plain names are read as the program that is that expression,
or else as being nested too deep. They are read exactly where the nesting is within the limit, and
so they are when there are fewer tokens than that. -/
theorem ofTokens_tokens (h : e.isPlain = true) :
    (ofTokens e.tokens = .ok [.expr e] ∨
        ∃ remaining, ofTokens e.tokens = .error ⟨remaining, .tooDeep⟩) ∧
      (ofTokens e.tokens = .ok [.expr e] ↔ e.nesting + 2 ≤ nestingLimit) ∧
      (e.tokens.length < nestingLimit → ofTokens e.tokens = .ok [.expr e]) := by
  have hread := limited_ofTokens h
  have hlength := e.nesting_lt_length
  by_cases hfits : e.nesting + 2 ≤ nestingLimit
  · have hok := hread.eq hfits
    exact ⟨Or.inl hok, iff_of_true hok hfits, fun _ => hok⟩
  · obtain ⟨remaining, herror⟩ := hread.tooDeep hfits
    have hnot : ofTokens e.tokens ≠ .ok [.expr e] := by
      rw [herror]
      exact nofun
    exact ⟨Or.inr ⟨remaining, herror⟩, iff_of_false hnot hfits, fun hlt => absurd hfits (by omega)⟩

/-- `((a ? b : c) - (d - -e[0].f(g, [])) * "h" || i).j += k = !(l == m)`. -/
def mixed : Expr :=
  .assignMember
    (.binary .or
      (.binary .sub (.conditional (.name "a") (.name "b") (.name "c"))
        (.binary .mul
          (.binary .sub (.name "d")
            (.unary .neg
              (.call (.member (.index (.name "e") (.number 0)) "f") [.name "g", .array []])))
          (.string "h")))
      (.name "i"))
    "j" .add (.assignName "k" .set (.unary .not (.binary .eq (.name "l") (.name "m"))))

theorem ofTokens_tokens_mixed :
    mixed.isPlain = true ∧ mixed.nesting = 9 ∧ ofTokens mixed.tokens = .ok [.expr mixed] := by
  have hplain : mixed.isPlain = true := by decide +kernel
  have hnesting : mixed.nesting = 9 := by decide +kernel
  exact ⟨hplain, hnesting, (ofTokens_tokens hplain).2.1.2 (by rw [hnesting]; decide)⟩

end Program

end Componentry.Script
