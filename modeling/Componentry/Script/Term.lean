import Componentry.Value.Operator

/-!
# Expressions and statements

The syntax trees of scripts. An assignment goes to a name or to a member of an expression, which
are the two assignment forms of `Expr`. `Expr.describe` is the short form of an expression in
messages.
-/

namespace Componentry.Script

inductive AssignOp where
  | set
  | add
  | sub
  deriving DecidableEq, Repr

inductive Expr where
  | number (value : Float)
  | string (text : String)
  | bool (truth : Bool)
  | null
  | undefined
  | this
  | name (name : String)
  | array (items : List Expr)
  | member (object : Expr) (property : String)
  | index (object position : Expr)
  | call (callee : Expr) (args : List Expr)
  | unary (op : UnaryOp) (operand : Expr)
  | binary (op : BinaryOp) (left right : Expr)
  | conditional (test yes no : Expr)
  | assignName (name : String) (op : AssignOp) (value : Expr)
  | assignMember (object : Expr) (property : String) (op : AssignOp) (value : Expr)
  deriving Inhabited, Repr

namespace Expr

/-- The expression in short: the path of names and members that leads to it. -/
def describe : Expr → String
  | .this => "this"
  | .name n => n
  | .member object property => object.describe ++ "." ++ property
  | .index object _ => object.describe ++ "[...]"
  | .call callee _ => callee.describe ++ "(...)"
  | _ => "expression"

def isThis : Expr → Bool
  | .this => true
  | _ => false

def name? : Expr → Option String
  | .name n => some n
  | _ => none

end Expr

inductive DeclareKind where
  | let
  | const
  | var
  deriving DecidableEq, Repr

inductive Stmt where
  | expr (value : Expr)
  | declare (kind : DeclareKind) (items : List (String × Option Expr))
  | ifElse (test : Expr) (yes : Stmt) (no : Option Stmt)
  | return (value : Option Expr)
  | block (body : List Stmt)
  | empty
  deriving Inhabited, Repr

namespace Stmt

def isBlock : Stmt → Bool
  | .block _ => true
  | _ => false

/-- Whether the statement leaves the value of a program as it was. -/
def isSilent : Stmt → Bool
  | .declare .. => true
  | .empty => true
  | _ => false

end Stmt

abbrev Program := List Stmt

end Componentry.Script
