import Componentry.Number.Numeral
import Componentry.Script.Error
import Componentry.Text.Units
import Componentry.Text.Letter
import Componentry.Text.Scan

/-!
# Reading tokens

`lexemes` parts the text of a script into tokens, each with its offset in bytes. Between tokens
stand gaps and comments, which are skipped. At each place a number is tried first, then a string, a
word and a punctuator, so a point followed by a digit begins a number.

Every step leaves a shorter rest, which is why reading ends.
-/

namespace Componentry.Script

open Componentry.Text

/-- What follows a comment at the start of a text. A comment that is not closed runs to the end. -/
def afterComment? : List Char → Option (List Char)
  | '/' :: '/' :: r => some (r.dropWhile (· ≠ '\n'))
  | '/' :: '*' :: r =>
    match breakOn? ['*', '/'] r with
    | some parts => some parts.2
    | none => some []
  | _ => none

theorem length_afterComment? {s r : List Char} (h : afterComment? s = some r) :
    r.length < s.length := by
  unfold afterComment? at h
  split at h
  · next t =>
    have := length_dropWhile_le (· ≠ '\n') t
    simp only [Option.some.injEq] at h
    subst h
    simp only [List.length_cons]
    omega
  · next t =>
    split at h
    · next parts hp =>
      have := congrArg List.length (eq_append_of_breakOn? (a := parts.1) (r := parts.2) hp)
      simp only [Option.some.injEq] at h
      subst h
      simp only [List.length_append, List.length_cons, List.length_nil] at this ⊢
      omega
    · simp only [Option.some.injEq] at h
      subst h
      simp
  · simp at h

def skipTrivia (s : List Char) : List Char :=
  match _h : afterComment? s with
  | some r => skipTrivia r
  | none =>
    match s with
    | [] => []
    | c :: r => if isGap c then skipTrivia r else c :: r
termination_by s.length
decreasing_by
  · exact length_afterComment? _h
  · simp

theorem length_skipTrivia (s : List Char) : (skipTrivia s).length ≤ s.length := by
  fun_induction skipTrivia s with
  | case1 s r h ih => exact Nat.le_trans ih (Nat.le_of_lt (length_afterComment? h))
  | case2 => exact Nat.le_refl _
  | case3 c r _ _ ih => exact Nat.le_trans ih (by simp)
  | case4 => exact Nat.le_refl _

def escaped (c : Char) : Char :=
  if c = 'n' then '\n'
  else if c = 't' then '\t'
  else if c = 'r' then '\r'
  else if c = '0' then '\x00'
  else c

/-- The content of a string up to its closing quote, and what follows the quote. A line end or the
end of the text leaves the string open. -/
def closeString? (quote : Char) : List Char → Option (List Char × List Char)
  | [] => none
  | '\\' :: c :: r => (closeString? quote r).map fun parts => (escaped c :: parts.1, parts.2)
  | c :: r =>
    if c = quote then some ([], r)
    else if c = '\n' then none
    else (closeString? quote r).map fun parts => (c :: parts.1, parts.2)

theorem length_closeString? {quote : Char} {s b r : List Char}
    (h : closeString? quote s = some (b, r)) : r.length < s.length := by
  fun_induction closeString? quote s generalizing b r with
  | case1 => simp at h
  | case2 c s ih =>
    simp only [Option.map_eq_some_iff, Prod.exists, Prod.mk.injEq] at h
    obtain ⟨b', r', h, _, rfl⟩ := h
    have := ih h
    simp only [List.length_cons]
    omega
  | case3 =>
    simp only [Option.some.injEq, Prod.mk.injEq] at h
    simp [h.2]
  | case4 => simp at h
  | case5 c s _ _ _ ih =>
    simp only [Option.map_eq_some_iff, Prod.exists, Prod.mk.injEq] at h
    obtain ⟨b', r', h, _, rfl⟩ := h
    have := ih h
    simp only [List.length_cons]
    omega

def beginsWord (c : Char) : Bool := isLetter c || c == '_' || c == '$'

def continuesWord (c : Char) : Bool := isLetterOrNumeral c || c == '_' || c == '$'

def scanWord? : List Char → Option (List Char × List Char)
  | [] => none
  | c :: r =>
    if beginsWord c then some (c :: r.takeWhile continuesWord, r.dropWhile continuesWord) else none

def firstPunct? (s : List Char) : List Punct → Option (Punct × List Char)
  | [] => none
  | p :: ps =>
    match after? p.text.toList s with
    | some r => some (p, r)
    | none => firstPunct? s ps

def scanPunct? (s : List Char) : Option (Punct × List Char) := firstPunct? s Punct.all

def scanToken (s : List Char) : Except SyntaxFault (Token × List Char) :=
  match Number.scan? s with
  | some (n, r) => .ok (.number (n.toFloat false), r)
  | none =>
    match s with
    | [] => .error .unterminatedString
    | c :: cs =>
      if c = '"' ∨ c = '\'' then
        match closeString? c cs with
        | some (b, r) => .ok (.string (String.ofList b), r)
        | none => .error .unterminatedString
      else match scanWord? (c :: cs) with
        | some (w, r) => .ok (.word (String.ofList w), r)
        | none => match scanPunct? (c :: cs) with
          | some (p, r) => .ok (.punct p, r)
          | none => .error (.unexpectedCharacter c)

theorem length_scanFraction (s : List Char) :
    (Number.scanFraction s).2.length + (Number.scanFraction s).1.length ≤ s.length := by
  unfold Number.scanFraction
  split
  · next r =>
    have h := congrArg List.length (List.takeWhile_append_dropWhile (p := Char.isDigit) (l := r))
    simp only [List.length_append, List.length_cons] at h ⊢
    omega
  · simp

theorem length_scanExponent (s : List Char) : (Number.scanExponent s).2.length ≤ s.length := by
  have step (r : List Char) (n : Bool) (h : r.length ≤ s.length) :
      (if r.takeWhile Char.isDigit = [] then ((0 : Int), s)
        else (if n then -(Number.digitsValue (r.takeWhile Char.isDigit) : Int)
          else Number.digitsValue (r.takeWhile Char.isDigit),
          r.dropWhile Char.isDigit)).2.length ≤ s.length := by
    split
    · exact Nat.le_refl _
    · exact Nat.le_trans (length_dropWhile_le _ _) h
  unfold Number.scanExponent
  split
  · split
    · split
      · exact step _ true (by simp only [List.length_cons]; omega)
      · exact step _ false (by simp only [List.length_cons]; omega)
      · exact step _ false (by simp)
    · simp
  · simp

theorem length_scan? {s r : List Char} {n : Number.Numeral} (h : Number.scan? s = some (n, r)) :
    r.length < s.length := by
  simp only [Number.scan?] at h
  split at h
  · simp at h
  · next hne =>
    simp only [Option.some.injEq, Prod.mk.injEq] at h
    obtain ⟨_, rfl⟩ := h
    have h1 := congrArg List.length (List.takeWhile_append_dropWhile (p := Char.isDigit) (l := s))
    have h2 := length_scanFraction (s.dropWhile Char.isDigit)
    have h3 := length_scanExponent (Number.scanFraction (s.dropWhile Char.isDigit)).2
    simp only [List.length_append] at h1
    by_cases hf : s.takeWhile Char.isDigit = []
    · have : (Number.scanFraction (s.dropWhile Char.isDigit)).1 ≠ [] := fun h0 => hne ⟨hf, h0⟩
      have := List.length_pos_iff.2 this
      omega
    · have := List.length_pos_iff.2 hf
      omega

theorem length_scanWord? {s w r : List Char} (h : scanWord? s = some (w, r)) :
    r.length < s.length := by
  cases s with
  | nil => simp [scanWord?] at h
  | cons c cs =>
    simp only [scanWord?] at h
    split at h
    · simp only [Option.some.injEq, Prod.mk.injEq] at h
      have := length_dropWhile_le continuesWord cs
      rw [← h.2]
      simp only [List.length_cons]
      omega
    · simp at h

theorem eq_append_of_firstPunct? {s r : List Char} {p : Punct} {ps : List Punct}
    (h : firstPunct? s ps = some (p, r)) : s = p.text.toList ++ r := by
  induction ps with
  | nil => simp [firstPunct?] at h
  | cons q qs ih =>
    simp only [firstPunct?] at h
    split at h
    · next hq =>
      simp only [Option.some.injEq, Prod.mk.injEq] at h
      obtain ⟨rfl, rfl⟩ := h
      exact after?_eq_some_iff.1 hq
    · exact ih h

theorem length_text_pos (p : Punct) : 0 < p.text.toList.length := by cases p <;> decide

theorem length_scanPunct? {s r : List Char} {p : Punct} (h : scanPunct? s = some (p, r)) :
    r.length < s.length := by
  have h1 := congrArg List.length (eq_append_of_firstPunct? h)
  have h2 := length_text_pos p
  simp only [List.length_append] at h1
  omega

/-- A token takes at least one character. -/
theorem length_scanToken {s r : List Char} {t : Token} (h : scanToken s = .ok (t, r)) :
    r.length < s.length := by
  unfold scanToken at h
  split at h
  · next hn =>
    simp only [Except.ok.injEq, Prod.mk.injEq] at h
    exact h.2 ▸ length_scan? hn
  · split at h
    · simp at h
    · split at h
      · split at h
        · next hc =>
          simp only [Except.ok.injEq, Prod.mk.injEq] at h
          have := length_closeString? hc
          rw [← h.2]
          simp only [List.length_cons]
          omega
        · simp at h
      · split at h
        · next hw =>
          simp only [Except.ok.injEq, Prod.mk.injEq] at h
          exact h.2 ▸ length_scanWord? hw
        · split at h
          · next hp =>
            simp only [Except.ok.injEq, Prod.mk.injEq] at h
            exact h.2 ▸ length_scanPunct? hp
          · simp at h

def lexemesFrom (total : Nat) (s : List Char) : Except ScriptError (List Lexeme) :=
  let s' := skipTrivia s
  if s' = [] then .ok []
  else
    let offset := total - byteCount s'
    match _h : scanToken s' with
    | .error fault => .error (.malformed offset fault)
    | .ok (t, r) =>
      match lexemesFrom total r with
      | .error e => .error e
      | .ok ts => .ok (⟨t, offset⟩ :: ts)
termination_by s.length
decreasing_by exact Nat.lt_of_lt_of_le (length_scanToken _h) (length_skipTrivia s)

def lexemes (source : String) : Except ScriptError (List Lexeme) :=
  lexemesFrom (byteCount source.toList) source.toList

end Componentry.Script
