import Componentry.Declaration.Name
import Componentry.Declaration.Parameters
import Componentry.KeyedList
import Componentry.Script.Error

/-!
# Declarations

A declaration gives an element a property, with its value, or a method, with its parameters and its
body. The declarations of one definition are kept by name in the order in which the names came.
-/

namespace Componentry

inductive Member where
  | property (value : Value)
  | method (parameters : List String) (body : String)
  deriving Inhabited, Repr

def Member.isMethod : Member → Bool
  | .property _ => false
  | .method .. => true

structure Declaration where
  name : String
  member : Member
  deriving Inhabited, Repr

abbrev Declarations := KeyedList Declaration

/-- Adds a declaration. A later one of the same name replaces the earlier where it stands. -/
def Declarations.add (ds : Declarations) (d : Declaration) : Declarations := ds.insert d.name d

inductive DeclarationError where
  /-- An attribute of the declaration with a tag looks like a parameter list and is none. -/
  | malformedParameters (tag : String) (fault : ParameterFault)
  | reservedName (name : String)
  /-- There is more than one parameter list. -/
  | ambiguous (name : String) (markers : Nat)
  /-- The value of a property cannot be computed. -/
  | evaluation (name : String) (cause : Script.ScriptError)
  /-- A block is closed under another name than it was opened. -/
  | mismatchedBlock (opening closing : String)
  deriving Repr

namespace DeclarationError

def message : DeclarationError → String
  | .malformedParameters tag fault =>
    "Malformed argument list on <" ++ tag ++ ">: " ++ fault.message
  | .reservedName name => "Declaration '" ++ name ++ "' collides with a reserved name"
  | .ambiguous name markers =>
    "Declaration '" ++ name ++ "' cannot be classified from " ++ toString markers ++ " marker(s)"
  | .evaluation name _ => "Failed to evaluate property '" ++ name ++ "'"
  | .mismatchedBlock opening closing =>
    "Declaration block opened as '" ++ opening ++ "' but closed as '" ++ closing ++ "'"

def cause? : DeclarationError → Option String
  | .malformedParameters _ fault => some fault.message
  | .evaluation _ cause => some cause.message
  | _ => none

end DeclarationError

end Componentry
