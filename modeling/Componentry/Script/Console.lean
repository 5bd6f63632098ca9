import Componentry.Value.Basic

/-!
# Consoles

A console takes the lines that are logged, and keeps them until they are taken out if it captures.
-/

namespace Componentry.Script

structure Console where
  /-- The lines kept; none if the console does not capture. -/
  kept : Option (List String)
  deriving DecidableEq, Repr

namespace Console

def start (capturing : Bool) : Console := ⟨if capturing then some [] else none⟩

def isCapturing (c : Console) : Bool := c.kept.isSome

def lines (c : Console) : List String := c.kept.getD []

/-- The line for some values: their texts with blanks between them. -/
def lineOf (args : List Value) : String := String.intercalate " " (args.map Value.display)

def log (args : List Value) (c : Console) : Console := ⟨c.kept.map (· ++ [lineOf args])⟩

def take (c : Console) : Console × List String := (⟨c.kept.map fun _ => []⟩, c.lines)

end Console

end Componentry.Script
