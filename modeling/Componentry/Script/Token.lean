import Componentry.Text.Quoted
import Componentry.Value.Operator

/-!
# Tokens of scripts

A token is a number, a string, a word (a name or a keyword) or a punctuator. `Punct.all` lists the
punctuators so that no punctuator stands after one that it extends: the first that fits is the
longest.
-/

namespace Componentry.Script

inductive Punct where
  | strictEq
  | strictNe
  | eq
  | ne
  | le
  | ge
  | and
  | or
  | plusAssign
  | minusAssign
  | plus
  | minus
  | star
  | slash
  | percent
  | lt
  | gt
  | bang
  | assign
  | question
  | colon
  | dot
  | comma
  | semicolon
  | openParen
  | closeParen
  | openBracket
  | closeBracket
  | openBrace
  | closeBrace
  deriving DecidableEq, Repr

namespace Punct

def all : List Punct :=
  [.strictEq, .strictNe, .eq, .ne, .le, .ge, .and, .or, .plusAssign, .minusAssign, .plus, .minus,
   .star, .slash, .percent, .lt, .gt, .bang, .assign, .question, .colon, .dot, .comma,
   .semicolon, .openParen, .closeParen, .openBracket, .closeBracket, .openBrace, .closeBrace]

def text : Punct → String
  | .strictEq => "==="
  | .strictNe => "!=="
  | .eq => "=="
  | .ne => "!="
  | .le => "<="
  | .ge => ">="
  | .and => "&&"
  | .or => "||"
  | .plusAssign => "+="
  | .minusAssign => "-="
  | .plus => "+"
  | .minus => "-"
  | .star => "*"
  | .slash => "/"
  | .percent => "%"
  | .lt => "<"
  | .gt => ">"
  | .bang => "!"
  | .assign => "="
  | .question => "?"
  | .colon => ":"
  | .dot => "."
  | .comma => ","
  | .semicolon => ";"
  | .openParen => "("
  | .closeParen => ")"
  | .openBracket => "["
  | .closeBracket => "]"
  | .openBrace => "\x7b"
  | .closeBrace => "\x7d"

def ofText? (s : String) : Option Punct := all.find? fun p => p.text == s

def operator? : Punct → Option BinaryOp
  | .or => some .or
  | .and => some .and
  | .eq => some .eq
  | .ne => some .ne
  | .strictEq => some .strictEq
  | .strictNe => some .strictNe
  | .lt => some .lt
  | .gt => some .gt
  | .le => some .le
  | .ge => some .ge
  | .plus => some .add
  | .minus => some .sub
  | .star => some .mul
  | .slash => some .div
  | .percent => some .mod
  | _ => none

theorem mem_all (p : Punct) : p ∈ all := by cases p <;> decide

end Punct

inductive Token where
  | number (value : Float)
  | string (text : String)
  | word (name : String)
  | punct (mark : Punct)
  deriving Repr

def reservedWords : List String :=
  ["let", "const", "var", "if", "else", "return", "typeof", "function", "new"]

def isReserved (name : String) : Bool := reservedWords.contains name

def Token.shown : Token → String
  | .number n => Number.plain n
  | .string s => Text.quoted s
  | .word w => w
  | .punct p => p.text

/-- A token and the number of bytes in front of it. -/
structure Lexeme where
  token : Token
  offset : Nat
  deriving Repr

end Componentry.Script
