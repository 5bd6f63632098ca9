import Componentry.Script.Term
import Mathlib.Data.List.Chain
import Mathlib.Logic.Relation

/-!
# How deep a program is

A phrase is an expression or a statement, and its parts are the phrases that stand directly in it.
Running a program goes from phrases to their parts, so it goes as deep as the longest line of
phrases of which each is a part of the one before. `Phrase.height` computes that length from the
tree: no line is longer (`length_le_height`), and one is as long (`exists_line`).
-/

namespace Componentry.Script

namespace Expr

def parts : Expr → List Expr
  | .array items => items
  | .member object _ => [object]
  | .index object position => [object, position]
  | .call callee args => callee :: args
  | .unary _ operand => [operand]
  | .binary _ left right => [left, right]
  | .conditional test yes no => [test, yes, no]
  | .assignName _ _ value => [value]
  | .assignMember object _ _ value => [object, value]
  | _ => []

mutual

/-- The number of expressions in the longest line down an expression. -/
def height : Expr → Nat
  | .array items => heightAll items + 1
  | .member object _ => object.height + 1
  | .index object position => max object.height position.height + 1
  | .call callee args => max callee.height (heightAll args) + 1
  | .unary _ operand => operand.height + 1
  | .binary _ left right => max left.height right.height + 1
  | .conditional test yes no => max test.height (max yes.height no.height) + 1
  | .assignName _ _ value => value.height + 1
  | .assignMember object _ _ value => max object.height value.height + 1
  | _ => 1

def heightAll : List Expr → Nat
  | [] => 0
  | e :: es => max e.height (heightAll es)

end

end Expr

def declaredValues (items : List (String × Option Expr)) : List Expr := items.filterMap Prod.snd

mutual

/-- The number of phrases in the longest line down a statement. -/
def Stmt.height : Stmt → Nat
  | .expr e => e.height + 1
  | .declare _ items => Expr.heightAll (declaredValues items) + 1
  | .ifElse test yes none => max test.height yes.height + 1
  | .ifElse test yes (some no) => max test.height (max yes.height no.height) + 1
  | .return none => 1
  | .return (some e) => e.height + 1
  | .block body => Stmt.heightAll body + 1
  | .empty => 1

def Stmt.heightAll : List Stmt → Nat
  | [] => 0
  | s :: ss => max s.height (Stmt.heightAll ss)

end

def Program.height (p : Program) : Nat := Stmt.heightAll p

inductive Phrase where
  | expr (e : Expr)
  | stmt (s : Stmt)

namespace Phrase

def parts : Phrase → List Phrase
  | .expr e => e.parts.map .expr
  | .stmt (.expr e) => [.expr e]
  | .stmt (.declare _ items) => (declaredValues items).map .expr
  | .stmt (.ifElse test yes no) => .expr test :: .stmt yes :: no.toList.map .stmt
  | .stmt (.return value) => value.toList.map .expr
  | .stmt (.block body) => body.map .stmt
  | .stmt .empty => []

def height : Phrase → Nat
  | .expr e => e.height
  | .stmt s => s.height

def heightAll : List Phrase → Nat
  | [] => 0
  | a :: as => max a.height (heightAll as)

@[simp] theorem heightAll_nil : heightAll [] = 0 := rfl

@[simp] theorem heightAll_cons (a : Phrase) (as : List Phrase) :
    heightAll (a :: as) = max a.height (heightAll as) := rfl

theorem heightAll_map_expr (es : List Expr) : heightAll (es.map .expr) = Expr.heightAll es := by
  induction es with
  | nil => rw [Expr.heightAll, List.map_nil, heightAll_nil]
  | cons e es ih => rw [Expr.heightAll, List.map_cons, heightAll_cons, ih, height]

theorem heightAll_map_stmt (ss : List Stmt) : heightAll (ss.map .stmt) = Stmt.heightAll ss := by
  induction ss with
  | nil => rw [Stmt.heightAll, List.map_nil, heightAll_nil]
  | cons s ss ih => rw [Stmt.heightAll, List.map_cons, heightAll_cons, ih, height]

theorem height_le_heightAll {a : Phrase} {as : List Phrase} (h : a ∈ as) :
    a.height ≤ heightAll as := by
  induction as with
  | nil => exact nomatch h
  | cons b bs ih =>
      rw [heightAll_cons]
      rcases List.mem_cons.1 h with rfl | h
      · exact Nat.le_max_left _ _
      · exact Nat.le_trans (ih h) (Nat.le_max_right _ _)

theorem exists_height_eq {as : List Phrase} (h : as ≠ []) : ∃ a ∈ as, a.height = heightAll as := by
  induction as with
  | nil => exact absurd rfl h
  | cons b bs ih =>
      rw [heightAll_cons]
      by_cases hle : heightAll bs ≤ b.height
      · exact ⟨b, List.mem_cons_self, (Nat.max_eq_left hle).symm⟩
      · have hne : bs ≠ [] := by
          rintro rfl
          exact hle (Nat.zero_le _)
        obtain ⟨a, ha, heq⟩ := ih hne
        exact ⟨a, List.mem_cons_of_mem b ha,
          heq.trans (Nat.max_eq_right (Nat.le_of_not_le hle)).symm⟩

/-- The height is that of the parts and one more. -/
theorem height_eq (a : Phrase) : a.height = heightAll a.parts + 1 := by
  cases a with
  | expr e =>
      cases e with
      | array items | call =>
          simp only [height, parts, Expr.parts, Expr.height, List.map_cons, heightAll_cons,
            heightAll_map_expr]
      | _ =>
          simp only [height, parts, Expr.parts, Expr.height, List.map_cons, List.map_nil,
            heightAll_cons, heightAll_nil, Nat.max_zero]
  | stmt s =>
      cases s with
      | expr e => simp [height, parts, Stmt.height]
      | declare kind items => simp only [height, parts, Stmt.height, heightAll_map_expr]
      | ifElse test yes no => cases no <;> simp [height, parts, Stmt.height]
      | «return» value => cases value <;> simp [height, parts, Stmt.height]
      | block body => simp only [height, parts, Stmt.height, heightAll_map_stmt]
      | empty => simp [height, parts, Stmt.height]

theorem height_eq_one {e : Expr} (h : e.parts = []) : e.height = 1 := by
  have hheight := (Phrase.expr e).height_eq
  rwa [parts, h, List.map_nil, heightAll_nil] at hheight

theorem height_lt_of_mem_parts {a b : Phrase} (h : b ∈ a.parts) : b.height < a.height := by
  rw [a.height_eq]
  exact Nat.lt_succ_of_le (height_le_heightAll h)

/-- Each phrase is a part of the one before. -/
def IsLine (as : List Phrase) : Prop := as.IsChain fun a b => b ∈ a.parts

theorem length_le_height {a : Phrase} {as : List Phrase} (h : IsLine (a :: as)) :
    (a :: as).length ≤ a.height := by
  induction as generalizing a with
  | nil =>
      rw [a.height_eq]
      exact Nat.le_add_left 1 _
  | cons b bs ih =>
      obtain ⟨hb, hbs⟩ := List.isChain_cons_cons.1 h
      exact Nat.lt_of_le_of_lt (ih hbs) (height_lt_of_mem_parts hb)

/-- Some line down a phrase is as long as the phrase is high. -/
theorem exists_line (a : Phrase) : ∃ as, IsLine (a :: as) ∧ (a :: as).length = a.height := by
  induction hn : a.height generalizing a with
  | zero => exact absurd hn (by rw [a.height_eq]; exact Nat.succ_ne_zero _)
  | succ n ih =>
      have hparts : heightAll a.parts = n := Nat.succ.inj (a.height_eq.symm.trans hn)
      by_cases hnil : a.parts = []
      · rw [hnil, heightAll_nil] at hparts
        exact ⟨[], List.isChain_singleton a, by rw [← hparts]; rfl⟩
      · obtain ⟨b, hb, hheight⟩ := exists_height_eq hnil
        obtain ⟨bs, hbs, hlength⟩ := ih b (hheight.trans hparts)
        exact ⟨b :: bs, List.isChain_cons_cons.2 ⟨hb, hbs⟩, congrArg Nat.succ hlength⟩

def In (p : Program) (a : Phrase) : Prop :=
  ∃ s ∈ p, Relation.ReflTransGen (fun a b : Phrase => b ∈ a.parts) (.stmt s) a

theorem In.height_le {p : Program} {a : Phrase} (h : a.In p) : a.height ≤ p.height := by
  obtain ⟨s, hs, hpath⟩ := h
  induction hpath with
  | refl =>
      have hmem : Phrase.stmt s ∈ p.map Phrase.stmt := List.mem_map_of_mem hs
      have hle := height_le_heightAll hmem
      rwa [heightAll_map_stmt] at hle
  | tail _ hpart ih => exact Nat.le_trans (Nat.le_of_lt (height_lt_of_mem_parts hpart)) ih

theorem In.of_mem_parts {p : Program} {a b : Phrase} (h : a.In p) (hb : b ∈ a.parts) : b.In p := by
  obtain ⟨s, hs, hpath⟩ := h
  exact ⟨s, hs, hpath.tail hb⟩

/-- What a line from a phrase of a program goes through stands in the program. -/
theorem IsLine.in {p : Program} {a : Phrase} {as : List Phrase} (h : IsLine (a :: as))
    (ha : a.In p) : ∀ b ∈ a :: as, b.In p := by
  induction as generalizing a with
  | nil =>
      intro b hb
      cases List.mem_singleton.1 hb
      exact ha
  | cons c cs ih =>
      obtain ⟨hc, hcs⟩ := List.isChain_cons_cons.1 h
      intro b hb
      rcases List.mem_cons.1 hb with rfl | hb
      · exact ha
      · exact ih hcs (ha.of_mem_parts hc) b hb

end Phrase

namespace Program

def HasLine (p : Program) (as : List Phrase) : Prop :=
  Phrase.IsLine as ∧ ∀ a ∈ as, a.In p

/-- A program is as high as its longest line. -/
theorem HasLine.length_le {p : Program} {as : List Phrase} (h : p.HasLine as) :
    as.length ≤ p.height := by
  cases as with
  | nil => exact Nat.zero_le _
  | cons a as =>
      exact Nat.le_trans (Phrase.length_le_height h.1) (h.2 a List.mem_cons_self).height_le

theorem exists_line (p : Program) : ∃ as, p.HasLine as ∧ as.length = p.height := by
  have hheight : Phrase.heightAll (p.map .stmt) = p.height := Phrase.heightAll_map_stmt p
  by_cases hnil : p.map Phrase.stmt = []
  · rw [hnil] at hheight
    exact ⟨[], ⟨.nil, nofun⟩, hheight⟩
  · obtain ⟨a, ha, hmax⟩ := Phrase.exists_height_eq hnil
    obtain ⟨s, hs, rfl⟩ := List.mem_map.1 ha
    obtain ⟨as, hline, hlength⟩ := (Phrase.stmt s).exists_line
    exact ⟨_, ⟨hline, hline.in ⟨s, hs, .refl⟩⟩, hlength.trans (hmax.trans hheight)⟩

end Program

end Componentry.Script
