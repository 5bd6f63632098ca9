/-!
# Letter case up to ASCII

Tag names, attribute names and tags of configuration are compared without regard to the case of the
26 ASCII letters; every other character, `É` included, stands for itself. `lower` and `upper` fold
a string, and `sameName` compares two strings folded.
-/

namespace Componentry.Text

def lower (s : String) : String := String.ofList (s.toList.map Char.toLower)

def upper (s : String) : String := String.ofList (s.toList.map Char.toUpper)

def sameName (a b : String) : Bool := lower a == lower b

@[simp] theorem toList_lower (s : String) : (lower s).toList = s.toList.map Char.toLower := by
  simp [lower]

@[simp] theorem toList_upper (s : String) : (upper s).toList = s.toList.map Char.toUpper := by
  simp [upper]

theorem sameName_iff {a b : String} : sameName a b = true ↔ lower a = lower b := by
  simp [sameName]

theorem sameName_refl (a : String) : sameName a a = true := by simp [sameName]

end Componentry.Text
