import Componentry.Markup.Entity

/-!
# Percent encoding

A character that a part of an address may not hold is written as its bytes in UTF-8, each as `%`
and two hexadecimal digits. Every part has its own set of such characters; control characters and
those beyond ASCII are in all of them. `decodeBytes` undoes the writing, byte by byte.
-/

namespace Componentry.Url

abbrev EncodeSet := Char → Bool

def controlSet : EncodeSet := fun c => c.toNat < 0x20 || 0x7E < c.toNat

def fragmentSet : EncodeSet := fun c => controlSet c || [' ', '"', '<', '>', '\x60'].contains c

def querySet : EncodeSet := fun c => controlSet c || [' ', '"', '#', '<', '>'].contains c

def specialQuerySet : EncodeSet := fun c => querySet c || c == '\''

def pathSet : EncodeSet := fun c => fragmentSet c || ['#', '?', '\x7b', '\x7d'].contains c

def userSet : EncodeSet := fun c =>
  pathSet c || ['/', ':', ';', '=', '@', '[', '\\', ']', '^', '|'].contains c

def hexDigit (n : Nat) : Char := (Nat.digitChar n).toUpper

def encodeByte (b : UInt8) : List Char := ['%', hexDigit (b.toNat / 16), hexDigit (b.toNat % 16)]

def encodeChar (set : EncodeSet) (c : Char) : List Char :=
  if set c then (String.utf8EncodeChar c).flatMap encodeByte else [c]

def encode (set : EncodeSet) (s : List Char) : List Char := s.flatMap (encodeChar set)

@[simp] theorem encode_nil (set : EncodeSet) : encode set [] = [] := rfl

def decodeByte? : List Char → Option UInt8
  | a :: b :: _ =>
    match Markup.digitValue? 16 a, Markup.digitValue? 16 b with
    | some h, some l => some (UInt8.ofNat (16 * h + l))
    | _, _ => none
  | _ => none

def decodeBytes : List Char → List UInt8
  | [] => []
  | c :: cs =>
    if c = '%' then
      match decodeByte? cs with
      | some b => b :: decodeBytes (cs.drop 2)
      | none => String.utf8EncodeChar c ++ decodeBytes cs
    else String.utf8EncodeChar c ++ decodeBytes cs
termination_by s => s.length
decreasing_by all_goals simp; try omega

/-- The text whose bytes an encoded text gives; none if they are not UTF-8. -/
def decode? (s : List Char) : Option (List Char) :=
  (String.fromUTF8? (decodeBytes s).toByteArray).map String.toList

end Componentry.Url
