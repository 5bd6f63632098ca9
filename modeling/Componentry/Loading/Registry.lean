import Componentry.Element.Instance
import Componentry.Loading.Error

/-!
# The registry

The registry keeps the element types by tag, the definitions they were made from, and the failed
loads by key. Tags are kept in lower case. The first type under a tag stays: a second one is
refused.
-/

namespace Componentry

open Markup

structure Registry where
  defined : KeyedList ElementType
  imported : KeyedList Element
  failed : KeyedList LoadError

namespace Registry

def empty : Registry := ⟨.empty, .empty, .empty⟩

def get? (r : Registry) (tag : String) : Option ElementType := r.defined.find? (Text.lower tag)

def contains (r : Registry) (tag : String) : Bool := r.defined.contains (Text.lower tag)

def names (r : Registry) : List String := r.defined.keys

def define (r : Registry) (t : ElementType) : Except RegistryError Registry :=
  let tag := Text.lower t.tag
  if r.defined.contains tag then .error (.alreadyDefined tag)
  else .ok { r with defined := r.defined.insert tag t }

def create (r : Registry) (tag : String) : Except RegistryError Instance :=
  match r.get? tag with
  | some t => .ok (Instance.ofType t)
  | none => .error (.notDefined (Text.lower tag))

/-- Keeps the definition that a tag was loaded from. -/
def recordImport (r : Registry) (tag : String) (definition : Element) : Registry :=
  { r with imported := r.imported.insert (Text.lower tag) definition }

def imported? (r : Registry) (tag : String) : Option Element := r.imported.find? (Text.lower tag)

def recordFailure (r : Registry) (key : String) (e : LoadError) : Registry :=
  { r with failed := r.failed.insert key e }

def failure? (r : Registry) (key : String) : Option LoadError := r.failed.find? key

end Registry

end Componentry
