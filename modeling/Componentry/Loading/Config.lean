import Componentry.Json.Cursor
import Componentry.Loading.Source

/-!
# Configuration

The configuration of a loader: the address of the document, the tags of the elements that contain
and that make definitions, and whether the loader stops after the first batch. `Config.ofJson` reads
one from JSON, as an object whose keys are the names of the settings or as an array of the settings
in order; what is missing keeps its default and unknown keys are passed over. The format of the log
is a setting of the environment, apart from these.
-/

namespace Componentry

open Json

variable {A : Type}

structure Config (A : Type) where
  /-- The address of the document, to which other addresses are relative. -/
  base : Option A
  /-- The tag of the elements that contain definitions. -/
  containerTag : String
  /-- The tag of the elements that make definitions. -/
  definitionTag : String
  /-- Whether observing stops after the first batch. -/
  oneShot : Bool

namespace Config

def default : Config A := ⟨none, "imports", "component", false⟩

instance : Inhabited (Config A) := ⟨default⟩

def withContainerTag (c : Config A) (tag : String) : Config A :=
  { c with containerTag := Text.lower tag }

def withDefinitionTag (c : Config A) (tag : String) : Config A :=
  { c with definitionTag := Text.lower tag }

def address [Addressing A] : Json.Reader A := fun s =>
  match Json.string s with
  | .error e => .error e
  | .ok (text, r) =>
    match Addressing.read none text with
    | .ok a => .ok (a, r)
    | .error _ => .error .unsuitable

/-- The settings read so far. -/
structure Draft (A : Type) where
  base : Option (Option A)
  containerTag : Option String
  definitionTag : Option String
  oneShot : Option Bool

namespace Draft

def empty : Draft A := ⟨none, none, none, none⟩

def config (d : Draft A) : Config A where
  base := d.base.getD none
  containerTag := d.containerTag.getD (default : Config A).containerTag
  definitionTag := d.definitionTag.getD (default : Config A).definitionTag
  oneShot := d.oneShot.getD (default : Config A).oneShot

inductive Setting where
  | base
  | containerTag
  | definitionTag
  | oneShot
  deriving DecidableEq, Repr

def Setting.ofKey? (key : String) : Option Setting :=
  if key = "base_url" then some .base
  else if key = "container_tag" then some .containerTag
  else if key = "definition_tag" then some .definitionTag
  else if key = "one_shot" then some .oneShot
  else none

def has (d : Draft A) : Setting → Bool
  | .base => d.base.isSome
  | .containerTag => d.containerTag.isSome
  | .definitionTag => d.definitionTag.isSome
  | .oneShot => d.oneShot.isSome

def read [Addressing A] (d : Draft A) (s : List Char) : Setting → Except Fault (Draft A × List Char)
  | .base => (nullable address s).map fun t => ({ d with base := some t.1 }, t.2)
  | .containerTag => (Json.string s).map fun t => ({ d with containerTag := some t.1 }, t.2)
  | .definitionTag => (Json.string s).map fun t => ({ d with definitionTag := some t.1 }, t.2)
  | .oneShot => (Json.bool s).map fun t => ({ d with oneShot := some t.1 }, t.2)

end Draft

def colon : Json.Reader Unit := fun s =>
  match skipBlanks s with
  | ':' :: r => .ok ((), r)
  | [] => .error .truncated
  | _ => .error .malformed

variable [Addressing A]

/-- Reads a key, after its opening quote, and its value. A setting must not come twice. -/
def readMember (d : Draft A) : Json.Reader (Draft A) := fun s => do
  let (key, r) ← stringBody s
  match Draft.Setting.ofKey? key with
  | some setting =>
    if d.has setting then throw .unsuitable
    let (_, r) ← colon r
    d.read r setting
  | none =>
    let (_, r) ← colon r
    let (_, r) ← skipValue r
    return (d, r)

def readMembers : Nat → Bool → Draft A → Json.Reader (Draft A)
  | 0, _, _ => fun _ => .error .malformed
  | fuel + 1, first, d => fun s =>
    let member (s : List Char) : Except Fault (Draft A × List Char) :=
      match s with
      | '"' :: r => do
        let (d, r) ← readMember d r
        readMembers fuel false d r
      | [] => .error .truncated
      | _ => .error .malformed
    match skipBlanks s with
    | [] => .error .truncated
    | '\x7d' :: r => .ok (d, r)
    | ',' :: r => if first then .error .malformed else member (skipBlanks r)
    | s => if first then member s else .error .malformed

def readItems (first : Bool) (d : Draft A) : List Draft.Setting → Json.Reader (Draft A)
  | [], s =>
    match skipBlanks s with
    | ']' :: r => .ok (d, r)
    | [] => .error .truncated
    | _ => .error .malformed
  | setting :: rest, s =>
    let item (s : List Char) : Except Fault (Draft A × List Char) :=
      match s with
      | [] => .error .truncated
      | ']' :: _ => .error .malformed
      | s => do
        let (d, r) ← d.read s setting
        readItems false d rest r
    match skipBlanks s with
    | [] => .error .truncated
    | ']' :: r => .ok (d, r)
    | ',' :: r => if first then item (',' :: r) else item (skipBlanks r)
    | s => if first then item s else .error .malformed

def readDraft : Json.Reader (Draft A) := fun s =>
  match skipBlanks s with
  | '\x7b' :: r => readMembers (r.length + 1) true .empty r
  | '[' :: r => readItems true .empty [.base, .containerTag, .definitionTag, .oneShot] r
  | s => .error (otherType s)

def ofJson (text : String) : Except Fault (Config A) :=
  match readDraft text.toList with
  | .error e => .error e
  | .ok (d, r) => if skipBlanks r = [] then .ok d.config else .error .malformed

end Config

inductive LogFormat where
  | text
  | json
  deriving DecidableEq, Repr

/-- The format that a setting names; text unless it says otherwise. -/
def LogFormat.ofText (value : String) : LogFormat :=
  if Text.lower (Text.trim value) = "json" then .json else .text

end Componentry
