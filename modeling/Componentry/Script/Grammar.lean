import Componentry.Script.Scan
import Componentry.Script.Term

/-!
# Reading programs

Programs are read from lists of tokens. A reader takes the tokens in front of it, and either gives
what it has read with the tokens that are left, or fails where a number of tokens remain.

Statements and expressions may nest `nestingLimit` deep. The readers of expressions at one depth
make a `Level`; `Level.above` builds it from the level below, so `level n` are the readers that may
go `n` levels further down, and every step down is one step of a recursion on `n`. A chain of
binary operators, and a chain of members, indices and calls, goes down one level with each link.
-/

namespace Componentry.Script

def nestingLimit : Nat := 128

/-- A failure to read: the number of tokens that remained, and the reason. -/
structure Failure where
  remaining : Nat
  fault : SyntaxFault
  deriving Repr

abbrev Reader (α : Type) := List Token → Except Failure (α × List Token)

namespace Reader

variable {α : Type}

def fail (fault : SyntaxFault) : Reader α := fun ts => .error ⟨ts.length, fault⟩

def expected (what : String) : Reader α := fun ts => fail (.expected what ts.head?) ts

def after? (p : Punct) : List Token → Option (List Token)
  | .punct q :: r => if q = p then some r else none
  | _ => none

def afterWord? (w : String) : List Token → Option (List Token)
  | .word v :: r => if v = w then some r else none
  | _ => none

def punct (p : Punct) : Reader Unit := fun ts =>
  match after? p ts with
  | some r => .ok ((), r)
  | none => expected ("'" ++ p.text ++ "'") ts

def skip (p : Punct) (ts : List Token) : List Token := (after? p ts).getD ts

/-- Reads items with commas between them up to a closing punctuator. One more comma may stand after
the last item. -/
def listUntil (item : Reader α) (close : Punct) (ts : List Token) :
    Except Failure (List α × List Token) :=
  match after? close ts with
  | some r => .ok ([], r)
  | none => do
    let (a, r) ← item ts
    match after? .comma r with
    | none =>
      let ((), r) ← punct close r
      .ok ([a], r)
    | some r =>
      if r.length < ts.length then
        let (as, r) ← listUntil item close r
        .ok (a :: as, r)
      else .ok ([a], r)
termination_by ts.length

def manyUntil (item : Reader α) (close : Punct) (ts : List Token) :
    Except Failure (List α × List Token) :=
  match after? close ts with
  | some r => .ok ([], r)
  | none =>
    if ts = [] then expected ("'" ++ close.text ++ "'") ts
    else do
      let (a, r) ← item ts
      if r.length < ts.length then
        let (as, r) ← manyUntil item close r
        .ok (a :: as, r)
      else .ok ([a], r)
termination_by ts.length

def many (item : Reader α) (ts : List Token) : Except Failure (List α) :=
  if ts = [] then .ok []
  else do
    let (a, r) ← item ts
    if r.length < ts.length then
      let as ← many item r
      .ok (a :: as)
    else .ok [a]
termination_by ts.length

end Reader

open Reader

structure Level where
  /-- Reads an expression, an assignment included. -/
  assignment : Reader Expr
  /-- Reads an operand with the operators before it. -/
  unary : Reader Expr
  /-- Reads operands and the operators between them that bind at least as tightly as given. -/
  binary : Nat → Reader Expr
  /-- Reads operators that bind at least as tightly as given, and their right operands, after a
  left operand. -/
  operators : Nat → Expr → Reader Expr
  /-- Reads members, indices and calls after an expression. -/
  suffixes : Expr → Reader Expr

namespace Level

variable {α : Type}

def down (below : Option Level) (read : Level → Reader α) : Reader α := fun ts =>
  match below with
  | some l => read l ts
  | none => fail .tooDeep ts

def assignOp? : List Token → Option (AssignOp × List Token)
  | .punct .assign :: r => some (.set, r)
  | .punct .plusAssign :: r => some (.add, r)
  | .punct .minusAssign :: r => some (.sub, r)
  | _ => none

def unaryOp? : List Token → Option (UnaryOp × List Token)
  | .punct .bang :: r => some (.not, r)
  | .punct .minus :: r => some (.neg, r)
  | .punct .plus :: r => some (.plus, r)
  | .word w :: r => if w = "typeof" then some (.typeOf, r) else none
  | _ => none

/-- The operator at the start of the tokens that binds at least as tightly as given, and what
follows it. -/
def binaryOp? (least : Nat) : List Token → Option (BinaryOp × List Token)
  | .punct p :: r =>
    match p.operator? with
    | some op => if least ≤ op.strength then some (op, r) else none
    | none => none
  | _ => none

def ofWord? (w : String) : Option Expr :=
  if w = "true" then some (.bool true)
  else if w = "false" then some (.bool false)
  else if w = "null" then some .null
  else if w = "undefined" then some .undefined
  else if w = "this" then some .this
  else if w = "NaN" then some (.number Number.nan)
  else if w = "Infinity" then some (.number (Number.infinity false))
  else if isReserved w then none
  else some (.name w)

def primary (assignment : Reader Expr) : Reader Expr
  | .number n :: r => .ok (.number n, r)
  | .string s :: r => .ok (.string s, r)
  | .word w :: r =>
    match ofWord? w with
    | some e => .ok (e, r)
    | none => expected "an expression" (.word w :: r)
  | .punct .openParen :: r => do
    let (e, r) ← assignment r
    let ((), r) ← punct .closeParen r
    .ok (e, r)
  | .punct .openBracket :: r => do
    let (items, r) ← listUntil assignment .closeBracket r
    .ok (.array items, r)
  | ts => expected "an expression" ts

def conditional (l : Level) : Reader Expr := fun ts => do
  let (test, r) ← l.binary 1 ts
  match after? .question r with
  | none => .ok (test, r)
  | some r =>
    let (yes, r) ← l.assignment r
    let ((), r) ← punct .colon r
    let (no, r) ← l.assignment r
    .ok (.conditional test yes no, r)

def assignmentOver (below : Option Level) : Reader Expr := fun ts =>
  down below (fun l ts => do
    let (left, r) ← conditional l ts
    match assignOp? r with
    | none => .ok (left, r)
    | some (op, r) =>
      match left with
      | .name name =>
        let (value, r) ← l.assignment r
        .ok (.assignName name op value, r)
      | .member object property =>
        let (value, r) ← l.assignment r
        .ok (.assignMember object property op value, r)
      | _ => fail .assignmentTarget ts) ts

def suffixesOver (below : Option Level) (e : Expr) : Reader Expr := fun ts =>
  match ts with
  | .punct .dot :: r =>
    down below (fun l _ =>
      match r with
      | .word property :: r => l.suffixes (.member e property) r
      | r => expected "a property name" r) ts
  | .punct .openBracket :: r =>
    down below (fun l _ => do
      let (position, r) ← l.assignment r
      let ((), r) ← punct .closeBracket r
      l.suffixes (.index e position) r) ts
  | .punct .openParen :: r =>
    down below (fun l _ => do
      let (args, r) ← listUntil l.assignment .closeParen r
      l.suffixes (.call e args) r) ts
  | ts => .ok (e, ts)

/-- Reads an operand: operators before it go down one level each. -/
def unaryOver (below : Option Level) : Reader Expr := fun ts =>
  match unaryOp? ts with
  | some (op, r) => do
    let (operand, r) ← down below unary r
    .ok (.unary op operand, r)
  | none => do
    let (e, r) ← primary (assignmentOver below) ts
    suffixesOver below e r

/-- Reads one operator and its right operand after a left operand, and what follows, one level
down. Operators of one strength group to the left. -/
def operatorsOver (below : Option Level) (least : Nat) (left : Expr) : Reader Expr := fun ts =>
  match binaryOp? least ts with
  | some (op, r) =>
    down below (fun l r => do
      let (right, r) ← l.binary (op.strength + 1) r
      l.operators least (.binary op left right) r) r
  | none => .ok (left, ts)

/-- The level above a level, or the last one above none. -/
def above (below : Option Level) : Level where
  assignment := assignmentOver below
  unary := unaryOver below
  binary least := fun ts => do
    let (left, r) ← unaryOver below ts
    operatorsOver below least left r
  operators := operatorsOver below
  suffixes := suffixesOver below

end Level

def level : Nat → Level
  | 0 => .above none
  | n + 1 => .above (some (level n))

namespace Stmt

def declareKind? (w : String) : Option DeclareKind :=
  if w = "let" then some .let
  else if w = "const" then some .const
  else if w = "var" then some .var
  else none

def declarations (l : Level) (kind : DeclareKind) (ts : List Token) :
    Except Failure (List (String × Option Expr) × List Token) :=
  match ts with
  | .word name :: rest =>
    if isReserved name then expected "a variable name" ts
    else do
      let (value, r) ← match after? .assign rest with
        | some r =>
          let (e, r) ← l.assignment r
          Except.ok (some e, r)
        | none =>
          if kind = .const then expected "'=' after const declaration" rest
          else Except.ok (none, rest)
      match after? .comma r with
      | none => .ok ([(name, value)], r)
      | some r =>
        if r.length < rest.length then
          let (items, r) ← declarations l kind r
          .ok ((name, value) :: items, r)
        else .ok ([(name, value)], r)
  | ts => expected "a variable name" ts
termination_by ts.length

def returned (l : Level) : Reader (Option Expr) := fun ts =>
  if ts = [] ∨ (after? .semicolon ts).isSome ∨ (after? .closeBrace ts).isSome then .ok (none, ts)
  else do
    let (e, r) ← l.assignment ts
    .ok (some e, r)

def branches (l : Level) (inner : Reader Stmt) : Reader Stmt := fun ts => do
  let ((), r) ← punct .openParen ts
  let (test, r) ← l.assignment r
  let ((), r) ← punct .closeParen r
  let (yes, r) ← inner r
  match afterWord? "else" r with
  | none => .ok (.ifElse test yes none, r)
  | some r =>
    let (no, r) ← inner r
    .ok (.ifElse test yes (some no), r)

/-- Reads a statement from the readers of its expressions and of the statements in it. A semicolon
may follow all but blocks and conditional statements. -/
def readWith (l : Level) (inner : Reader Stmt) : Reader Stmt
  | .punct .semicolon :: r => .ok (.empty, r)
  | .punct .openBrace :: r => do
    let (body, r) ← manyUntil inner .closeBrace r
    .ok (.block body, r)
  | .word w :: r =>
    match declareKind? w with
    | some kind => do
      let (items, r) ← declarations l kind r
      .ok (.declare kind items, skip .semicolon r)
    | none =>
      if w = "if" then branches l inner r
      else if w = "return" then do
        let (value, r) ← returned l r
        .ok (.return value, skip .semicolon r)
      else do
        let (e, r) ← l.assignment (.word w :: r)
        .ok (.expr e, skip .semicolon r)
  | ts => do
    let (e, r) ← l.assignment ts
    .ok (.expr e, skip .semicolon r)

def read : Nat → Reader Stmt
  | 0 => fail .tooDeep
  | n + 1 => readWith (level n) (read n)

end Stmt

namespace Program

def ofTokens (ts : List Token) : Except Failure Program := many (Stmt.read nestingLimit) ts

/-- The offset of the place in front of which so many lexemes remain; the length of the source when
none does. -/
def offsetAt (source : String) (ls : List Lexeme) (remaining : Nat) : Nat :=
  match ls[ls.length - remaining]? with
  | some l => l.offset
  | none => Text.byteCount source.toList

def ofSource (source : String) : Except ScriptError Program := do
  let ls ← lexemes source
  match ofTokens (ls.map Lexeme.token) with
  | .ok p => .ok p
  | .error f => .error (.malformed (offsetAt source ls f.remaining) f.fault)

end Program

end Componentry.Script
