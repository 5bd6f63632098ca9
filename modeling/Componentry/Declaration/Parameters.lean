import Componentry.Text.Ascii
import Componentry.Text.Blank

/-!
# Parameter lists

A method is declared by a parameter list among the attributes of its element, as in
`<print (first, second)>`. A marker is an attribute name that begins with `(` or ends with `)`, and
`parameters?` reads the names in it. A list of attributes comes split at blanks, so the pieces of
one list are joined first (`joinMarkers`).
-/

namespace Componentry

open Componentry.Text

inductive ParameterFault where
  | nestedOpening
  | emptyParameter
  | unbalanced
  | missingOpening
  | trailingText
  | invalidName (text : String)
  deriving DecidableEq, Repr

def ParameterFault.message : ParameterFault → String
  | .nestedOpening => "nested opening parenthesis"
  | .emptyParameter => "empty argument"
  | .unbalanced => "unbalanced parentheses"
  | .missingOpening => "missing opening parenthesis"
  | .trailingText => "unexpected input after closing parenthesis"
  | .invalidName text => "invalid parameter name '" ++ text ++ "'"

def beginsWith (c : Char) (s : String) : Bool := s.toList.head? == some c

def endsWith (c : Char) (s : String) : Bool := s.toList.getLast? == some c

def isMarker (name : String) : Bool := beginsWith '(' name || endsWith ')' name

def beginsParameter (c : Char) : Bool := c.isAlpha || c == '_' || c == '$'

def continuesParameter (c : Char) : Bool := c.isAlphanum || c == '_' || c == '$'

def scanParameter? : List Char → Option (List Char × List Char)
  | [] => none
  | c :: r =>
    if beginsParameter c then
      some (c :: r.takeWhile continuesParameter, r.dropWhile continuesParameter)
    else none

def parameterOf (text : List Char) : Except ParameterFault String :=
  match scanParameter? (trimEnd text) with
  | some (p, []) => .ok (String.ofList p)
  | _ => .error (.invalidName (String.ofList (trimEnd text)))

def closeParameters (read : List String) (current : List Char) :
    Except ParameterFault (List String) :=
  if current = [] then .ok read
  else (parameterOf current).map fun p => read ++ [p]

/-- Reads the list after its opening parenthesis. Blanks before a parameter are dropped; any other
character is part of the parameter. -/
def parametersFrom (read : List String) (current : List Char) :
    List Char → Except ParameterFault (List String)
  | [] => .error .unbalanced
  | c :: r =>
    if c = '(' then .error .nestedOpening
    else if c = ',' then
      if current = [] then .error .emptyParameter
      else match parameterOf current with
        | .ok p => parametersFrom (read ++ [p]) [] r
        | .error e => .error e
    else if c = ')' then
      match closeParameters read current with
      | .ok ps => if r.all isAsciiBlank then .ok ps else .error .trailingText
      | .error e => .error e
    else if isAsciiBlank c && current.isEmpty then parametersFrom read current r
    else parametersFrom read (current ++ [c]) r

def openParameters : List Char → Except ParameterFault (List String)
  | [] => .error .missingOpening
  | c :: r =>
    if c = '(' then parametersFrom [] [] r
    else if isAsciiBlank c then openParameters r
    else .error .missingOpening

/-- The parameters that an attribute name lists; none if it is no marker. -/
def parameters? (name : String) : Except ParameterFault (Option (List String)) :=
  if isMarker name then (openParameters name.toList).map some else .ok none

def opensMarker (name : String) : Bool := beginsWith '(' name && !endsWith ')' name

/-- Joins the pieces of a list that has begun, `group`, and of the lists after it. -/
def joinFrom : Option String → List String → List String
  | none, [] => []
  | some group, [] => [group]
  | some group, n :: ns =>
    if endsWith ')' n then (group ++ " " ++ n) :: joinFrom none ns
    else joinFrom (some (group ++ " " ++ n)) ns
  | none, n :: ns =>
    if opensMarker n then joinFrom (some n) ns else n :: joinFrom none ns

/-- Joins the pieces of each parameter list by single blanks and keeps the other names. A list that
is not closed is kept as far as it goes. -/
def joinMarkers (names : List String) : List String := joinFrom none names

end Componentry
