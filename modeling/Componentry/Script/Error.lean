import Componentry.Script.Token

/-!
# Errors of scripts

What can go wrong when a script is read or run. `SyntaxFault` gives the reasons for which a text is
not a program; `ScriptError` the failures of reading and running, and `ScriptError.message` their
wording.
-/

namespace Componentry.Script

/-- Calls of compiled functions may nest this deep. -/
def callLimit : Nat := 256

inductive SyntaxFault where
  /-- A string that the line or the text ends in. -/
  | unterminatedString
  /-- A character that begins no token. -/
  | unexpectedCharacter (c : Char)
  /-- Another token, or the end, stands where something was expected. -/
  | expected (what : String) (found : Option Token)
  | tooDeep
  /-- The left side of an assignment is neither a name nor a member. -/
  | assignmentTarget
  deriving Repr

def SyntaxFault.message : SyntaxFault → String
  | .unterminatedString => "unterminated string literal"
  | .unexpectedCharacter c => "unexpected character '" ++ String.singleton c ++ "'"
  | .expected what found =>
    "expected " ++ what ++ ", found " ++ (found.map Token.shown).getD "end of input"
  | .tooDeep => "expression nested too deeply"
  | .assignmentTarget => "invalid assignment target"

inductive ScriptError where
  /-- The text is not a program; the fault lies that many bytes into it. -/
  | malformed (offset : Nat) (fault : SyntaxFault)
  /-- A name that is not bound. -/
  | unbound (name : String)
  | notCallable (callee : String)
  /-- A member of undefined or of null, found at `place`. -/
  | noMembers (member : String) (target : Value) (place : String)
  /-- There is no element that `this` could stand for. -/
  | noReceiver
  | invalidAssignment
  /-- An assignment to a constant. -/
  | constant (name : String)
  /-- `this` without a member. -/
  | bareThis
  | callTooDeep
  deriving Repr

def ScriptError.message : ScriptError → String
  | .malformed offset fault => s!"Syntax error at offset {offset}: " ++ fault.message
  | .unbound name => name ++ " is not defined"
  | .notCallable callee => callee ++ " is not a function"
  | .noMembers member target place =>
    "Cannot read '" ++ member ++ "' of " ++ target.display ++ " (" ++ place ++ ")"
  | .noReceiver => "'this' is not available in this context"
  | .invalidAssignment => "Invalid assignment target"
  | .constant name => "Assignment to constant '" ++ name ++ "'"
  | .bareThis => "Unsupported construct: 'this' used as a value"
  | .callTooDeep => s!"Maximum call depth ({callLimit}) exceeded"

end Componentry.Script
