import Componentry.Script.Grammar

/-!
# Printing expressions

`Expr.tokens` prints an expression to tokens, with parentheses only where its place asks for them.
How tightly an expression binds is its `strength`, and every place of an operand asks for a least
strength: an operator for its own on its left side and for one more on its right side, an operator
before its operand for `Expr.operand`, and what has a suffix for `Expr.suffixed`.

`Expr.nesting` counts the levels that reading the tokens goes down. Links of a chain are levels: in
`a + b + c` the second operator stands one level below the first, and so do suffixes.
-/

namespace Componentry.Script

def AssignOp.punct : AssignOp → Punct
  | .set => .assign
  | .add => .plusAssign
  | .sub => .minusAssign

def binaryPunct : BinaryOp → Punct
  | .or => .or
  | .and => .and
  | .eq => .eq
  | .ne => .ne
  | .strictEq => .strictEq
  | .strictNe => .strictNe
  | .lt => .lt
  | .gt => .gt
  | .le => .le
  | .ge => .ge
  | .add => .plus
  | .sub => .minus
  | .mul => .star
  | .div => .slash
  | .mod => .percent

def unaryToken : UnaryOp → Token
  | .not => .punct .bang
  | .neg => .punct .minus
  | .plus => .punct .plus
  | .typeOf => .word "typeof"

theorem operator?_binaryPunct (op : BinaryOp) : (binaryPunct op).operator? = some op := by
  cases op <;> rfl

theorem strength_pos (op : BinaryOp) : 1 ≤ op.strength := by cases op <;> decide

theorem strength_le (op : BinaryOp) : op.strength ≤ 6 := by cases op <;> decide

def literalWords : List String :=
  ["true", "false", "null", "undefined", "this", "NaN", "Infinity"]

def isName (w : String) : Bool := !isReserved w && !literalWords.contains w

theorem ofWord?_of_isName {w : String} (h : isName w = true) :
    Level.ofWord? w = some (.name w) := by
  simp only [isName, literalWords, Bool.and_eq_true, Bool.not_eq_true', List.contains_cons,
    List.contains_nil, Bool.or_eq_false_iff, beq_eq_false_iff_ne] at h
  obtain ⟨hr, h1, h2, h3, h4, h5, h6, h7, -⟩ := h
  simp [Level.ofWord?, hr, h1, h2, h3, h4, h5, h6, h7]

namespace Expr

def operand : Nat := 7

def suffixed : Nat := 8

/-- How tightly an expression binds: not at all where it is a condition or an assignment. -/
def strength : Expr → Nat
  | .conditional .. => 0
  | .assignName .. => 0
  | .assignMember .. => 0
  | .binary op _ _ => op.strength
  | .unary .. => operand
  | _ => suffixed

/-- The tokens of an expression in a place that asks for a strength. -/
def grouped (least : Nat) (e : Expr) (ts : List Token) : List Token :=
  if e.strength < least then .punct .openParen :: (ts ++ [.punct .closeParen]) else ts

mutual

def tokens : Expr → List Token
  | .number n => [.number n]
  | .string s => [.string s]
  | .bool b => [.word (if b then "true" else "false")]
  | .null => [.word "null"]
  | .undefined => [.word "undefined"]
  | .this => [.word "this"]
  | .name n => [.word n]
  | .array items => .punct .openBracket :: (tokensAll items ++ [.punct .closeBracket])
  | .member object property =>
    grouped suffixed object object.tokens ++ [.punct .dot, .word property]
  | .index object position =>
    grouped suffixed object object.tokens ++
      .punct .openBracket :: (position.tokens ++ [.punct .closeBracket])
  | .call callee args =>
    grouped suffixed callee callee.tokens ++
      .punct .openParen :: (tokensAll args ++ [.punct .closeParen])
  | .unary op e => unaryToken op :: grouped operand e e.tokens
  | .binary op left right =>
    grouped op.strength left left.tokens ++
      .punct (binaryPunct op) :: grouped (op.strength + 1) right right.tokens
  | .conditional test yes no =>
    grouped 1 test test.tokens ++
      .punct .question :: (yes.tokens ++ .punct .colon :: no.tokens)
  | .assignName w op value => .word w :: .punct op.punct :: value.tokens
  | .assignMember object property op value =>
    grouped suffixed object object.tokens ++
      .punct .dot :: .word property :: .punct op.punct :: value.tokens

def tokensAll : List Expr → List Token
  | [] => []
  | [e] => e.tokens
  | e :: es => e.tokens ++ .punct .comma :: tokensAll es

end

def suffixCount : Expr → Nat
  | .member object _ => object.suffixCount + 1
  | .index object _ => object.suffixCount + 1
  | .call callee _ => callee.suffixCount + 1
  | _ => 0

/-- The number of operators that stand in an expression one after the other, without the right
operands. -/
def operatorCount : Expr → Nat
  | .binary op left _ => (if left.strength < op.strength then 0 else left.operatorCount) + 1
  | _ => 0

/-- Parentheses take a level. -/
def groupedNesting (least : Nat) (e : Expr) (nesting : Nat) : Nat :=
  if e.strength < least then nesting + 1 else nesting

mutual

def nesting : Expr → Nat
  | .array items => nestingAll items
  | .member object _ =>
    max (groupedNesting suffixed object object.nesting) (object.suffixCount + 1)
  | .index object position =>
    max (groupedNesting suffixed object object.nesting)
      (object.suffixCount + 1 + (position.nesting + 1))
  | .call callee args =>
    max (groupedNesting suffixed callee callee.nesting) (callee.suffixCount + 1 + nestingAll args)
  | .unary _ e => groupedNesting operand e e.nesting + 1
  | .binary op left right =>
    max (groupedNesting op.strength left left.nesting)
      ((if left.strength < op.strength then 0 else left.operatorCount) + 1 +
        groupedNesting (op.strength + 1) right right.nesting)
  | .conditional test yes no =>
    max (groupedNesting 1 test test.nesting) (max (yes.nesting + 1) (no.nesting + 1))
  | .assignName _ _ value => value.nesting + 1
  | .assignMember object _ _ value =>
    max (max (groupedNesting suffixed object object.nesting) (object.suffixCount + 1))
      (value.nesting + 1)
  | _ => 0

def nestingAll : List Expr → Nat
  | [] => 0
  | e :: es => max (e.nesting + 1) (nestingAll es)

end

mutual

def isPlain : Expr → Bool
  | .name n => isName n
  | .array items => allPlain items
  | .member object _ => object.isPlain
  | .index object position => object.isPlain && position.isPlain
  | .call callee args => callee.isPlain && allPlain args
  | .unary _ e => e.isPlain
  | .binary _ left right => left.isPlain && right.isPlain
  | .conditional test yes no => test.isPlain && yes.isPlain && no.isPlain
  | .assignName w _ value => isName w && value.isPlain
  | .assignMember object _ _ value => object.isPlain && value.isPlain
  | _ => true

def allPlain : List Expr → Bool
  | [] => true
  | e :: es => e.isPlain && allPlain es

end

theorem tokensAll_cons_cons (e f : Expr) (es : List Expr) :
    tokensAll (e :: f :: es) = e.tokens ++ .punct .comma :: tokensAll (f :: es) := by
  rw [tokensAll]
  exact nofun

theorem nesting_name (w : String) : nesting (.name w) = 0 := by simp only [nesting]

end Expr

end Componentry.Script
