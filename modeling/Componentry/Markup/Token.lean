import Componentry.Markup.Entity
import Componentry.Markup.Node

/-!
# Tokens of markup

Markup is read leniently: every text is a list of tokens. A `<` that begins no tag, comment or
declaration is text; an end tag whose name does not begin with a letter, and a declaration other
than a document type, is a comment.

A start tag is read in passes: each ends the tag, skips a slash or reads an attribute. Tags and
attribute names end at any blank, but only gaps are skipped between them, so in front of another
blank a pass reads nothing and the tag would never end; `tokens?` has no answer then, and in no
other case.
-/

namespace Componentry.Markup

open Componentry.Text

inductive Token where
  /-- A start tag with its attributes, and whether it ends in a slash. -/
  | startTag (name : String) (attributes : List Attribute) (selfClosing : Bool)
  | endTag (name : String)
  /-- Text in which entities stand for characters. -/
  | text (content : List Char)
  /-- The content of a raw element. -/
  | rawText (content : List Char)
  | comment (content : List Char)
  /-- A document type, or an end tag without a name. -/
  | ignored
  deriving Repr

def untilClose (s : List Char) : List Char × List Char := (breakOn? ['>'] s).getD (s, [])

def continuesTag (c : Char) : Bool := !isBlank c && c != '/' && c != '>'

def continuesName (c : Char) : Bool := continuesTag c && c != '='

def continuesValue (c : Char) : Bool := !isBlank c && c != '>'

def tagName? : List Char → Option (List Char × List Char)
  | [] => none
  | c :: r =>
    if c.isAlpha then some ((c :: r.takeWhile continuesTag).map Char.toLower,
      r.dropWhile continuesTag)
    else none

/-- The attribute value at the start of a text. A quote that is not closed runs to the end. -/
def scanValue : List Char → List Char × List Char
  | '"' :: r => (r.takeWhile (· ≠ '"'), (r.dropWhile (· ≠ '"')).tail)
  | '\'' :: r => (r.takeWhile (· ≠ '\''), (r.dropWhile (· ≠ '\'')).tail)
  | r => (r.takeWhile continuesValue, r.dropWhile continuesValue)

/-- The attribute name at the start of a text; only its first character may be `=`. -/
def scanName : List Char → List Char × List Char
  | '=' :: r => ('=' :: r.takeWhile continuesName, r.dropWhile continuesName)
  | r => (r.takeWhile continuesName, r.dropWhile continuesName)

def scanAttribute (s : List Char) : Attribute × List Char :=
  let (name, r) := scanName s
  match r.dropWhile isGap with
  | '=' :: v =>
    let (value, r) := scanValue (v.dropWhile isGap)
    (⟨String.ofList name, some (String.ofList (decode value))⟩, r)
  | _ => (⟨String.ofList name, none⟩, r)

/-- What one pass through a start tag meets after the gaps. -/
inductive Pass where
  /-- The end of the tag, or of the text. -/
  | close (selfClosing : Bool) (rest : List Char)
  | slash (rest : List Char)
  | attribute (a : Attribute) (rest : List Char)
  deriving Repr

def pass : List Char → Pass
  | [] => .close false []
  | '>' :: r => .close false r
  | '/' :: '>' :: r => .close true r
  | '/' :: r => .slash r
  | s => .attribute (scanAttribute s).1 (scanAttribute s).2

/-- Adds an attribute unless one of that name is there. -/
def addAttribute (attributes : List Attribute) (a : Attribute) : List Attribute :=
  if attributes.any fun b => sameName b.name a.name then attributes else attributes ++ [a]

def attributes? (read : List Attribute) (s : List Char) :
    Option (List Attribute × Bool × List Char) :=
  match _h : pass (s.dropWhile isGap) with
  | .close selfClosing r => some (read, selfClosing, r)
  | .slash r => if r.length < s.length then attributes? read r else none
  | .attribute a r => if r.length < s.length then attributes? (addAttribute read a) r else none
termination_by s.length

def scanDeclaration (s : List Char) : Token × List Char :=
  match after? ['-', '-'] s with
  | some r =>
    match breakOn? ['-', '-', '>'] r with
    | some (body, r) => (.comment body, r)
    | none => (.comment r, [])
  | none =>
    match afterFolded? ['d', 'o', 'c', 't', 'y', 'p', 'e'] s with
    | some r => (.ignored, (untilClose r).2)
    | none => (.comment (untilClose s).1, (untilClose s).2)

def scanEndTag (s : List Char) : Token × List Char :=
  match tagName? s with
  | some (name, r) => (.endTag (String.ofList name), (untilClose r).2)
  | none =>
    (if (untilClose s).1 = [] then .ignored else .comment (untilClose s).1, (untilClose s).2)

def scanMarkup? (s : List Char) : Option (Token × List Char) :=
  match s with
  | '!' :: r => some (scanDeclaration r)
  | '/' :: r => some (scanEndTag r)
  | '?' :: r =>
    match breakOn? ['>'] r with
    | some (body, r) => some (.comment ('?' :: body), r)
    | none => some (.text ['<'], s)
  | _ =>
    match tagName? s with
    | some (name, r) =>
      (attributes? [] r).map fun t => (.startTag (String.ofList name) t.1 t.2.1, t.2.2)
    | none => some (.text ['<'], s)

def scanToken? (c : Char) (s : List Char) : Option (Token × List Char) :=
  if c = '<' then scanMarkup? s
  else some (.text (c :: s.takeWhile (· ≠ '<')), s.dropWhile (· ≠ '<'))

/-- The word that ends the content after a start tag of a raw element. -/
def Token.rawEnd? : Token → Option (List Char)
  | .startTag name _ selfClosing =>
    if !selfClosing && isRaw name then some ('<' :: '/' :: name.toList) else none
  | _ => none

theorem length_untilClose (s : List Char) : (untilClose s).2.length ≤ s.length := by
  unfold untilClose
  cases h : breakOn? ['>'] s with
  | none => simp
  | some parts =>
    have := congrArg List.length (eq_append_of_breakOn? (a := parts.1) (r := parts.2) h)
    simp only [List.length_append, List.length_cons, List.length_nil, Option.getD_some] at this ⊢
    omega

theorem length_tagName? {s n r : List Char} (h : tagName? s = some (n, r)) :
    r.length < s.length := by
  cases s with
  | nil => simp [tagName?] at h
  | cons c cs =>
    simp only [tagName?] at h
    split at h
    · simp only [Option.some.injEq, Prod.mk.injEq] at h
      have := length_dropWhile_le continuesTag cs
      rw [← h.2]
      simp only [List.length_cons]
      omega
    · simp at h

theorem length_pass_close {s r : List Char} {b : Bool} (h : pass s = .close b r) :
    r.length ≤ s.length := by
  unfold pass at h
  split at h <;> simp only [Pass.close.injEq, reduceCtorEq] at h
  · simp [← h.2]
  · simp [← h.2]
  · rw [← h.2]
    simp only [List.length_cons]
    omega

theorem length_attributes? {read as : List Attribute} {s r : List Char} {b : Bool}
    (h : attributes? read s = some (as, b, r)) : r.length ≤ s.length := by
  fun_induction attributes? read s with
  | case1 read s c r' hp =>
    simp only [Option.some.injEq, Prod.mk.injEq] at h
    have := length_pass_close hp
    have := length_dropWhile_le isGap s
    rw [← h.2.2]
    omega
  | case2 read s r' hp hlt ih =>
    have := ih h
    omega
  | case3 => simp at h
  | case4 read s a r' hp hlt ih =>
    have := ih h
    omega
  | case5 => simp at h

theorem length_scanDeclaration (s : List Char) : (scanDeclaration s).2.length ≤ s.length := by
  unfold scanDeclaration
  split
  · next r h =>
    have h1 := congrArg List.length (after?_eq_some_iff.1 h)
    simp only [List.length_append, List.length_cons, List.length_nil] at h1
    split
    · next body r' h' =>
      have h2 := congrArg List.length (eq_append_of_breakOn? h')
      simp only [List.length_append, List.length_cons, List.length_nil] at h2
      show r'.length ≤ s.length
      omega
    · simp
  · split
    · next r h =>
      have h1 := length_afterFolded? h
      have h2 := length_untilClose r
      show (untilClose r).2.length ≤ s.length
      omega
    · exact length_untilClose s

theorem length_scanEndTag (s : List Char) : (scanEndTag s).2.length ≤ s.length := by
  unfold scanEndTag
  split
  · next name r h =>
    have h1 := length_tagName? h
    have h2 := length_untilClose r
    show (untilClose r).2.length ≤ s.length
    omega
  · exact length_untilClose s

theorem length_scanMarkup? {s r : List Char} {t : Token} (h : scanMarkup? s = some (t, r)) :
    r.length ≤ s.length := by
  unfold scanMarkup? at h
  split at h
  · next r' =>
    simp only [Option.some.injEq] at h
    have h1 : r.length ≤ r'.length := by simpa only [h] using length_scanDeclaration r'
    simp only [List.length_cons]
    omega
  · next r' =>
    simp only [Option.some.injEq] at h
    have h1 : r.length ≤ r'.length := by simpa only [h] using length_scanEndTag r'
    simp only [List.length_cons]
    omega
  · next r' =>
    split at h
    · next body r'' hb =>
      have h2 := congrArg List.length (eq_append_of_breakOn? hb)
      simp only [List.length_append, List.length_cons, List.length_nil] at h2
      simp only [Option.some.injEq, Prod.mk.injEq] at h
      rw [← h.2]
      simp only [List.length_cons]
      omega
    · simp only [Option.some.injEq, Prod.mk.injEq] at h
      exact Nat.le_of_eq (congrArg List.length h.2.symm)
  · split at h
    · next name r' hn =>
      simp only [Option.map_eq_some_iff, Prod.mk.injEq] at h
      obtain ⟨⟨as, b, r''⟩, ha, _, rfl⟩ := h
      have h1 := length_tagName? hn
      have h2 := length_attributes? ha
      show r''.length ≤ s.length
      omega
    · simp only [Option.some.injEq, Prod.mk.injEq] at h
      exact Nat.le_of_eq (congrArg List.length h.2.symm)

/-- A token takes at least one character. -/
theorem length_scanToken? {c : Char} {s r : List Char} {t : Token}
    (h : scanToken? c s = some (t, r)) : r.length ≤ s.length := by
  unfold scanToken? at h
  split at h
  · exact length_scanMarkup? h
  · simp only [Option.some.injEq, Prod.mk.injEq] at h
    exact h.2 ▸ length_dropWhile_le _ s

theorem length_breakBeforeFolded (p s : List Char) :
    (breakBeforeFolded p s).2.length ≤ s.length := by
  have := congrArg List.length (breakBeforeFolded_append p s)
  simp only [List.length_append] at this
  omega

/-- The tokens of a text; none if one of its start tags never ends. -/
def tokens? (s : List Char) : Option (List Token) :=
  match s with
  | [] => some []
  | c :: cs =>
    match _h : scanToken? c cs with
    | none => none
    | some (t, r) =>
      match t.rawEnd? with
      | none => (tokens? r).map (t :: ·)
      | some word =>
        let parts := breakBeforeFolded word r
        (tokens? parts.2).map fun ts =>
          t :: if parts.1 = [] then ts else .rawText parts.1 :: ts
termination_by s.length
decreasing_by
  · exact Nat.lt_succ_of_le (length_scanToken? _h)
  · exact Nat.lt_succ_of_le
      (Nat.le_trans (length_breakBeforeFolded _ _) (length_scanToken? _h))

end Componentry.Markup
