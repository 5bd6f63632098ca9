import Componentry.Proofs.Script.Depth
import Componentry.Proofs.Script.Spelling

/-!
# The tallest programs

At each of its levels `deepest n` has every chain that the level allows, so it is as tall as an
expression that goes `n` levels down can be, and the bound on the height of programs is reached for
every number of levels (`exists_height_eq`). `line_length_le` says how long the lines of programs
are. The nesting limit, and twice the limit, is exceeded where three chains stand on top of one
another.
-/

namespace Componentry.Script

namespace Expr

def withMembers (e : Expr) : Nat → Expr
  | 0 => e
  | k + 1 => .member (e.withMembers k) "a"

def withOperators (e : Expr) : Nat → Expr
  | 0 => e
  | k + 1 => .binary .add (e.withOperators k) (.name "a")

/-- An expression that goes `n` levels down, with all members and operators that there is room
for. -/
def deepest : Nat → Expr
  | 0 => .name "a"
  | n + 1 =>
    .conditional (((array [deepest n]).withMembers (n + 1)).withOperators (n + 1))
      (.name "a") (.name "a")

def Spelt (e : Expr) : Prop := ∀ t ∈ e.tokens, t.Spelt

theorem height_name (n : String) : (name n).height = 1 := Phrase.height_eq_one rfl

theorem spelt_name : Token.Spelt (.word "a") := by
  refine ⟨by decide, fun c hc => ?_⟩
  cases List.mem_singleton.1 hc
  rfl

section members

variable {e : Expr} (k : Nat)

theorem isPlain_withMembers : (e.withMembers k).isPlain = e.isPlain := by
  induction k with
  | zero => rfl
  | succ k ih => rw [withMembers, isPlain, ih]

theorem height_withMembers : (e.withMembers k).height = e.height + k := by
  induction k with
  | zero => rfl
  | succ k ih => rw [withMembers, height, ih, Nat.add_assoc]

theorem strength_withMembers (h : e.strength = suffixed) :
    (e.withMembers k).strength = suffixed := by
  cases k with
  | zero => exact h
  | succ k => rfl

theorem suffixCount_withMembers (h : e.suffixCount = 0) : (e.withMembers k).suffixCount = k := by
  induction k with
  | zero => exact h
  | succ k ih => rw [withMembers, suffixCount, ih]

theorem nesting_withMembers (h : e.strength = suffixed) (hcount : e.suffixCount = 0) :
    (e.withMembers k).nesting = max e.nesting k := by
  induction k with
  | zero => rw [withMembers, Nat.max_zero]
  | succ k ih =>
      rw [withMembers, nesting, groupedNesting,
        if_neg (Nat.not_lt.2 (strength_withMembers k h).ge), suffixCount_withMembers k hcount, ih]
      omega

theorem spelt_withMembers (h : e.strength = suffixed) (hspelt : e.Spelt) :
    (e.withMembers k).Spelt := by
  induction k with
  | zero => exact hspelt
  | succ k ih =>
      rw [Spelt, withMembers, tokens, grouped,
        if_neg (Nat.not_lt.2 (strength_withMembers k h).ge)]
      intro t ht
      rcases List.mem_append.1 ht with ht | ht
      · exact ih t ht
      · simp only [List.mem_cons, List.not_mem_nil, or_false] at ht
        rcases ht with rfl | rfl
        · trivial
        · exact spelt_name

end members

section operators

variable {e : Expr} (k : Nat)

theorem isPlain_withOperators : (e.withOperators k).isPlain = e.isPlain := by
  induction k with
  | zero => rfl
  | succ k ih =>
      rw [withOperators, isPlain, ih, isPlain]
      exact Bool.and_true _

theorem height_withOperators (h : 1 ≤ e.height) : (e.withOperators k).height = e.height + k := by
  induction k with
  | zero => rfl
  | succ k ih =>
      rw [withOperators, height, ih, height_name]
      omega

/-- Operators of one strength that group to the left need no parentheses. -/
theorem strength_withOperators (h : e.strength = suffixed) :
    ¬ (e.withOperators k).strength < BinaryOp.add.strength := by
  cases k with
  | zero => rw [withOperators, h]; decide
  | succ k => exact Nat.lt_irrefl _

theorem operatorCount_withOperators (h : e.strength = suffixed) :
    (e.withOperators k).operatorCount = k := by
  induction k with
  | zero => exact operatorCount_eq_zero (by rw [withOperators, h]; decide)
  | succ k ih => rw [withOperators, operatorCount, if_neg (strength_withOperators k h), ih]

theorem nesting_withOperators (h : e.strength = suffixed) :
    (e.withOperators k).nesting = max e.nesting k := by
  induction k with
  | zero => rw [withOperators, Nat.max_zero]
  | succ k ih =>
      have hname :
          groupedNesting (BinaryOp.add.strength + 1) (.name "a") (name "a").nesting = 0 := by
        rw [nesting_name]
        rfl
      rw [withOperators, nesting, groupedNesting, if_neg (strength_withOperators k h), hname,
        if_neg (strength_withOperators k h), operatorCount_withOperators k h, ih]
      omega

theorem spelt_withOperators (h : e.strength = suffixed) (hspelt : e.Spelt) :
    (e.withOperators k).Spelt := by
  induction k with
  | zero => exact hspelt
  | succ k ih =>
      rw [Spelt, withOperators, tokens, grouped, if_neg (strength_withOperators k h)]
      intro t ht
      rcases List.mem_append.1 ht with ht | ht
      · exact ih t ht
      · have hright : grouped (BinaryOp.add.strength + 1) (.name "a") (name "a").tokens =
            [.word "a"] := by
          rw [tokens]
          rfl
        rw [hright] at ht
        simp only [List.mem_cons, List.not_mem_nil, or_false] at ht
        rcases ht with rfl | rfl
        · trivial
        · exact spelt_name

end operators

theorem spelt_array {e : Expr} (h : e.Spelt) : (array [e]).Spelt := by
  rw [Spelt, tokens, tokensAll]
  intro t ht
  simp only [List.mem_cons, List.mem_append, List.not_mem_nil, or_false] at ht
  rcases ht with rfl | ht | rfl
  · trivial
  · exact h t ht
  · trivial

theorem spelt_conditional {e : Expr} (hpos : ¬ e.strength < 1) (h : e.Spelt) :
    (conditional e (.name "a") (.name "a")).Spelt := by
  rw [Spelt, tokens, grouped, if_neg hpos, tokens]
  intro t ht
  simp only [List.mem_cons, List.mem_append, List.not_mem_nil, or_false] at ht
  rcases ht with ht | rfl | rfl | rfl | rfl
  · exact h t ht
  · trivial
  · exact spelt_name
  · trivial
  · exact spelt_name

theorem strength_deepest (n : Nat) :
    ¬ (((array [deepest n]).withMembers (n + 1)).withOperators (n + 1)).strength < 1 := by
  rw [withOperators, strength]
  decide

theorem isPlain_deepest (n : Nat) : (deepest n).isPlain = true := by
  have hname : (name "a").isPlain = true := by decide +kernel
  induction n with
  | zero => exact hname
  | succ n ih =>
      simp only [deepest, isPlain, isPlain_withOperators, isPlain_withMembers, allPlain, ih,
        Bool.and_true]
      exact (Bool.and_self _).trans hname

theorem nesting_deepest (n : Nat) : (deepest n).nesting = n := by
  induction n with
  | zero => exact nesting_name "a"
  | succ n ih =>
      have harray : (array [deepest n]).nesting = n + 1 := by
        rw [nesting, nestingAll, nestingAll, ih, Nat.max_zero]
      have hmembers : ((array [deepest n]).withMembers (n + 1)).nesting = n + 1 := by
        rw [nesting_withMembers _ rfl rfl, harray, Nat.max_self]
      rw [deepest, nesting, groupedNesting, if_neg (strength_deepest n),
        nesting_withOperators _ (strength_withMembers _ rfl), hmembers, nesting_name]
      omega

theorem height_deepest (n : Nat) : (deepest n).height = tallest (n + 1) := by
  induction n with
  | zero => exact height_name "a"
  | succ n ih =>
      have harray : (array [deepest n]).height = tallest (n + 1) + 1 := by
        rw [height, heightAll, heightAll, ih, Nat.max_zero]
      have hmembers : ((array [deepest n]).withMembers (n + 1)).height =
          tallest (n + 1) + 1 + (n + 1) := by
        rw [height_withMembers, harray]
      rw [deepest, height, height_withOperators _ (by omega), hmembers, height_name,
        tallest_succ (Nat.le_add_left 1 n)]
      omega

theorem spelt_deepest (n : Nat) : (deepest n).Spelt := by
  induction n with
  | zero =>
      rw [Spelt, deepest, tokens]
      intro t ht
      cases List.mem_singleton.1 ht
      exact spelt_name
  | succ n ih =>
      have hmembers := spelt_withMembers (n + 1) rfl (spelt_array ih)
      exact spelt_conditional (strength_deepest n)
        (spelt_withOperators (n + 1) (strength_withMembers _ rfl) hmembers)

end Expr

namespace Program

theorem height_expr (e : Expr) : height [.expr e] = e.height + 1 := by
  rw [height, Stmt.heightAll, Stmt.heightAll, Stmt.height, Nat.max_zero]

/-- An expression is read from its spelling with as many levels as it is nested. -/
theorem readWithin_spelling {e : Expr} (hplain : e.isPlain = true) (hspelt : e.Spelt) {n : Nat}
    (hfits : e.nesting + 2 ≤ n) : ReadWithin n (spelling e.tokens) [.expr e] := by
  obtain ⟨ls, hls, htokens⟩ := lexemes_spelling hspelt
  exact ⟨ls, hls, htokens ▸ (limited_many hplain n).eq hfits⟩

/-- For each number of levels there is a program as high as that number allows. -/
theorem exists_height_eq {n : Nat} (hn : 2 ≤ n) (hle : n ≤ nestingLimit) :
    ∃ source p, ofSource source = .ok p ∧ ReadWithin n source p ∧ p.height = n * (n - 1) := by
  obtain ⟨m, rfl⟩ := Nat.exists_eq_add_of_le' hn
  have hplain := Expr.isPlain_deepest m
  have hspelt := Expr.spelt_deepest m
  have hfits : (Expr.deepest m).nesting + 2 ≤ m + 2 := by rw [Expr.nesting_deepest]
  have hread := (limited_ofTokens hplain).eq (Nat.le_trans hfits hle)
  refine ⟨_, _, ofSource_spelling hspelt hread, readWithin_spelling hplain hspelt hfits, ?_⟩
  rw [height_expr, Expr.height_deepest, tallest_add_one, Nat.mul_comm]
  rfl

/-- A line down a program is at most as long as the product of the number of levels and that number
less one. So no line is longer than twice the nesting limit where sixteen levels are enough to read
the program, and in general exactly where the program is no higher than that. -/
theorem line_length_le {source : String} {p : Program} (h : ofSource source = .ok p) :
    ((∀ line, p.HasLine line → line.length ≤ 2 * nestingLimit) ↔ p.height ≤ 2 * nestingLimit) ∧
      (∀ n, 2 ≤ n → ReadWithin n source p →
        ∀ line, p.HasLine line → line.length ≤ n * (n - 1)) ∧
      (ReadWithin 16 source p → ∀ line, p.HasLine line → line.length ≤ 2 * nestingLimit) ∧
      ∀ line, p.HasLine line → line.length ≤ nestingLimit * (nestingLimit - 1) := by
  have hlevels : ∀ n, 2 ≤ n → ReadWithin n source p →
      ∀ line, p.HasLine line → line.length ≤ n * (n - 1) :=
    fun n hn hread line hline => Nat.le_trans hline.length_le (hread.height_le hn)
  refine ⟨⟨fun hlines => ?_, fun hheight line hline => ?_⟩, hlevels, fun hread line hline => ?_,
    hlevels nestingLimit (by decide) (readWithin_nestingLimit h)⟩
  · obtain ⟨line, hline, hlength⟩ := exists_line p
    exact hlength ▸ hlines line hline
  · exact Nat.le_trans hline.length_le hheight
  · exact Nat.le_trans (hlevels 16 (by decide) hread line hline) (by decide)

/-- The tallest program of all is too high. -/
theorem line_length_le_tallest :
    ∃ source p, ofSource source = .ok p ∧ p.height = nestingLimit * (nestingLimit - 1) ∧
      ¬ ∀ line, p.HasLine line → line.length ≤ 2 * nestingLimit := by
  obtain ⟨source, p, hp, -, hheight⟩ := exists_height_eq (by decide) (Nat.le_refl nestingLimit)
  refine ⟨source, p, hp, hheight, fun hlines => ?_⟩
  have hle := (line_length_le hp).1.1 hlines
  rw [hheight] at hle
  exact absurd hle (by decide)

/-- `[[a.a.a.a.a].a…a].a…a`, with 4, 125 and 126 members in the chains. -/
def stacked : Expr :=
  (Expr.array [(Expr.array [(Expr.name "a").withMembers 4]).withMembers 125]).withMembers 126

/-- Each chain is within the limit, but the levels that it took are given back at its end. -/
theorem line_stacked :
    ∃ p line, ofSource (spelling stacked.tokens) = .ok p ∧ p.HasLine line ∧
      2 * nestingLimit < line.length := by
  have hspelt : stacked.Spelt := by
    have hname : (Expr.name "a").Spelt := Expr.spelt_deepest 0
    have hinner := Expr.spelt_withMembers 4 rfl hname
    have hmiddle := Expr.spelt_withMembers 125 rfl (Expr.spelt_array hinner)
    exact Expr.spelt_withMembers 126 rfl (Expr.spelt_array hmiddle)
  have hplain : stacked.isPlain = true := by decide +kernel
  have hnesting : stacked.nesting = 126 := by decide +kernel
  have hheight : stacked.height = 258 := by decide +kernel
  have hread := (limited_ofTokens hplain).eq (by rw [hnesting]; decide)
  obtain ⟨line, hline, hlength⟩ := exists_line [.expr stacked]
  refine ⟨_, line, ofSource_spelling hspelt hread, hline, ?_⟩
  rw [hlength, height_expr, hheight]
  decide

end Program

end Componentry.Script
