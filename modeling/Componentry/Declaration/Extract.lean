import Componentry.Declaration.Classify
import Componentry.Declaration.Record
import Componentry.Script.Engine
import Componentry.Text.Scan

/-!
# Extracting declarations

`extractDeclarations` takes the declarations out of a definition. The elements that declare methods
and the blocks are removed from its children; an element that declares a property stays. A failing
declaration fails the whole extraction, at the first in document order, and leaves the definition as
it is; what evaluations up to there did to the state of the evaluator remains.

Of one declaration, the name is checked before the parameter lists, these before their number, and
all before the value is computed.
-/

namespace Componentry

open Markup Text

variable {σ : Type}

/-- Computes the value of a property from its text. It may have a state, such as the lines that were
logged. -/
abbrev Evaluator (σ : Type) := String → StateM σ (Except Script.ScriptError Value)

abbrev Extracting (σ : Type) := ExceptT DeclarationError (StateM σ)

def evaluateProperty (evaluate : Evaluator σ) (name text : String) : Extracting σ Value := do
  match ← evaluate text with
  | .ok v => return v
  | .error cause => throw (.evaluation name cause)

def checkedName (tag : String) : Except DeclarationError String :=
  if isReservedName (memberName tag) then .error (.reservedName (memberName tag))
  else .ok (memberName tag)

def markersOf (tag : String) : List String → Except DeclarationError (List (List String))
  | [] => .ok []
  | n :: ns =>
    match parameters? n with
    | .error fault => .error (.malformedParameters tag fault)
    | .ok none => markersOf tag ns
    | .ok (some ps) => (markersOf tag ns).map (ps :: ·)

/-- The declaration of a name with its parameter lists and its text. A hook is a method even
without a list; any other declaration without one is a property. -/
def declarationOf (evaluate : Evaluator σ) (name : String) (markers : List (List String))
    (text : String) : Extracting σ Declaration := do
  match markers with
  | _ :: _ :: _ => throw (.ambiguous name markers.length)
  | [parameters] => return ⟨name, .method parameters text⟩
  | [] =>
    match Lifecycle.ofName? name with
    | some l => return ⟨name, .method l.parameters text⟩
    | none => return ⟨name, .property (← evaluateProperty evaluate name text)⟩

def declare (evaluate : Evaluator σ) (tag : String) (attributes : List String) (text : String) :
    Extracting σ Declaration := do
  let name ← checkedName tag
  let markers ← markersOf tag (joinMarkers attributes)
  declarationOf evaluate name markers text

def declareElement (evaluate : Evaluator σ) (e : Element) : Extracting σ Declaration :=
  declare evaluate e.tag e.attributeNames (trim e.textContent)

structure Block where
  name : String
  attributes : List String
  body : String
  deriving DecidableEq, Repr

def Block.ofText? (text : String) : Option Block :=
  match after? ['<', '@'] (trimStart text.toList) with
  | none => none
  | some s =>
    match breakOn? ['>'] s with
    | none => none
    | some (header, body) =>
      match wordsBy isAsciiBlank header with
      | [] => none
      | name :: attributes =>
        some ⟨String.ofList name, attributes.map String.ofList, String.ofList (trimmed body)⟩

def closingName (marker : String) : String :=
  match marker.toList with
  | '@' :: cs => String.ofList (trimmed cs)
  | cs => String.ofList (trimmed cs)

def Block.tag (block : Block) : String := "on-" ++ block.name

def declareBlock (evaluate : Evaluator σ) (block : Block) (marker : String) :
    Extracting σ Declaration :=
  if sameName block.name (closingName marker) then
    declare evaluate block.tag block.attributes block.body
  else throw (.mismatchedBlock ("@" ++ block.name) marker)

/-- The declaration that a text and the comment after it make; none if the text opens no block. -/
def declarePair (evaluate : Evaluator σ) (text marker : String) :
    Extracting σ (Option Declaration) := do
  match Block.ofText? text with
  | none => return none
  | some block => return some (← declareBlock evaluate block marker)

structure Found where
  declarations : Declarations
  removed : List Nat

def Found.step (evaluate : Evaluator σ) (found : Found) : Classification → Extracting σ Found
  | .element i e => do
    let d ← declareElement evaluate e
    return ⟨found.declarations.add d, if d.member.isMethod then i :: found.removed
      else found.removed⟩
  | .pair i j text marker => do
    match ← declarePair evaluate text marker with
    | some d => return ⟨found.declarations.add d, i :: j :: found.removed⟩
    | none => return found
  | .blank _ => return found
  | .structural _ => return found

def Found.steps (evaluate : Evaluator σ) : Found → List Classification → Extracting σ Found
  | found, [] => return found
  | found, c :: cs => do Found.steps evaluate (← found.step evaluate c) cs

def withoutIndices {α : Type} (removed : List Nat) (index : Nat) : List α → List α
  | [] => []
  | a :: as =>
    if removed.contains index then withoutIndices removed (index + 1) as
    else a :: withoutIndices removed (index + 1) as

abbrev Editing (σ : Type) := ExceptT DeclarationError (StateM (Element × σ))

def Editing.read {α : Type} (m : Extracting σ α) : Editing σ α := fun (definition, s) =>
  ((m s).1, (definition, (m s).2))

/-- Takes the declarations out of a definition where it stands. -/
def extractDeclarations (evaluate : Evaluator σ) (isDefined : String → Bool) :
    Editing σ Declarations := do
  let (definition, _) ← get
  let found ← Editing.read (Found.steps evaluate ⟨.empty, []⟩ (classify isDefined definition))
  modify fun (e, s) => ({ e with children := withoutIndices found.removed 0 e.children }, s)
  return found.declarations

/-- A definition without its methods and blocks, and its declarations. -/
structure Definition where
  element : Element
  declarations : Declarations

def extract (evaluate : Evaluator σ) (isDefined : String → Bool) (definition : Element) :
    Extracting σ Definition := fun s =>
  match extractDeclarations evaluate isDefined (definition, s) with
  | (.error e, (_, s)) => (.error e, s)
  | (.ok declarations, (element, s)) => (.ok ⟨element, declarations⟩, s)

end Componentry
