import Componentry.Text.Ascii
import Componentry.Text.Scan
import Componentry.Text.Upper

/-!
# Names of members and classes

A declaration is named by its tag. The tag `print-two-numbers` declares the member
`printTwoNumbers`, and an element with the tag `my-widget` has the class `MyWidget`. Some names are
reserved, in any spelling with hyphens and letters of either case, and four names select a hook of
the life of an element.
-/

namespace Componentry

open Componentry.Text

/-- The parts of a tag between hyphens, in lower case and without the empty ones. -/
def tagSegments (tag : String) : List (List Char) :=
  ((Text.splitAt '-' tag.toList).filter (· ≠ [])).map (·.map Char.toLower)

def memberName (tag : String) : String :=
  match tagSegments tag with
  | [] => ""
  | first :: rest => String.ofList (first ++ rest.flatMap capitalize)

def className (tag : String) : String := String.ofList ((tagSegments tag).flatMap capitalize)

def foldName (name : String) : List Char :=
  (name.toList.filter (· ≠ '-')).map Char.toLower

def reservedNames : List String :=
  ["constructor", "connected-callback", "disconnected-callback", "attribute-changed-callback",
   "adopted-callback", "observed-attributes", "shadow-root"]

def isReservedName (name : String) : Bool :=
  reservedNames.any fun r => foldName r == foldName name

inductive Lifecycle where
  | connected
  | disconnected
  | adopted
  | attribute
  deriving DecidableEq, Repr

namespace Lifecycle

/-- All of them, in the order in which hooks are compiled. -/
def all : List Lifecycle := [.connected, .disconnected, .adopted, .attribute]

def name : Lifecycle → String
  | .connected => "connected"
  | .disconnected => "disconnected"
  | .adopted => "adopted"
  | .attribute => "attribute"

def ofName? (n : String) : Option Lifecycle := all.find? fun l => l.name == n

/-- The parameters of a hook that declares none. -/
def parameters : Lifecycle → List String
  | .attribute => ["name", "oldValue", "newValue"]
  | _ => []

theorem mem_all (l : Lifecycle) : l ∈ all := by cases l <;> decide

theorem ofName?_name (l : Lifecycle) : ofName? l.name = some l := by cases l <;> decide

theorem ofName?_eq_some_iff {n : String} {l : Lifecycle} :
    ofName? n = some l ↔ n = l.name := by
  constructor
  · intro h
    unfold ofName? at h
    have hl := List.find?_some h
    exact (beq_iff_eq.1 hl).symm
  · rintro rfl
    exact ofName?_name l

end Lifecycle

end Componentry
