import Componentry.Proofs.Text.Blank
import Componentry.Proofs.Text.Words
import Componentry.Script.Scan

/-!
# Rendering tokens

A `Piece` is a way to write a token: a word or a punctuator as it is, a number as a decimal lexeme,
a string in double quotes with the quotes, backslashes and line ends in it escaped. Each piece is
read as its token where a blank or nothing follows (`Piece.reads`), whatever it begins with: no
piece begins a comment, and no piece goes on into the blank. So pieces with single blanks between
them are read as their tokens, each at the offset at which the piece begins (`lexemes_rendering`).
-/

namespace Componentry.Script

open Text

theorem isDigit_eq_false_of_isAlpha {c : Char} (h : c.isAlpha = true) : c.isDigit = false := by
  have hcode := toNat_of_isAlpha h
  rw [← Bool.not_eq_true]
  intro hdigit
  have hrange := Bool.and_eq_true_iff.1 hdigit
  have hhigh : c.toNat ≤ 57 := of_decide_eq_true hrange.2
  omega

theorem toLower_of_isAlpha_eq_false {c : Char} (h : c.isAlpha = false) : c.toLower = c := by
  unfold Char.toLower
  split
  · next hupper =>
    have halpha : c.isAlpha = true := Bool.or_eq_true_iff.2 (.inl (decide_eq_true hupper))
    exact absurd (halpha.symm.trans h) Bool.noConfusion
  · rfl

abbrev AtBlank (s : List Char) : Prop := AtWordEnd (· == ' ') s

theorem AtBlank.cases {s : List Char} (h : AtBlank s) : s = [] ∨ ∃ r, s = ' ' :: r := by
  cases s with
  | nil => exact .inl rfl
  | cons c r => exact .inr ⟨r, by rw [beq_iff_eq.1 (h c rfl)]⟩

section runs

variable {p : Char → Bool} {w s : List Char}

/-- A run of characters ends where a character of another kind comes next, or nothing. -/
theorem takeWhile_append_of_atWordEnd (hw : ∀ c ∈ w, p c = true) (hs : AtWordEnd (!p ·) s) :
    (w ++ s).takeWhile p = w := by
  rw [List.takeWhile_append_of_pos hw]
  cases s with
  | nil => simp
  | cons c s =>
      rw [List.takeWhile_cons_of_neg (by simpa using hs c rfl), List.append_nil]

theorem dropWhile_append_of_atWordEnd (hw : ∀ c ∈ w, p c = true) (hs : AtWordEnd (!p ·) s) :
    (w ++ s).dropWhile p = s := by
  rw [List.dropWhile_append_of_pos hw]
  cases s with
  | nil => rfl
  | cons c s => rw [List.dropWhile_cons_of_neg (by simpa using hs c rfl)]

end runs

theorem skipTrivia_blank (s : List Char) : skipTrivia (' ' :: s) = skipTrivia s := by
  rw [skipTrivia]
  rfl

/-- Nothing is skipped in front of a character that begins neither a comment nor a gap. -/
theorem skipTrivia_eq_self {c : Char} {s : List Char} (hcomment : afterComment? (c :: s) = none)
    (hgap : isGap c = false) : skipTrivia (c :: s) = c :: s := by
  rw [skipTrivia]
  split
  · next hsome =>
    rw [hcomment] at hsome
    cases hsome
  · exact if_neg (ne_true_of_eq_false hgap)

def skippedStarts : List Char := ['/', ' ', '\t', '\n', '\r']

theorem skipTrivia_of_not_mem {c : Char} (h : c ∉ skippedStarts) (s : List Char) :
    skipTrivia (c :: s) = c :: s := by
  simp only [skippedStarts, List.mem_cons, List.not_mem_nil, or_false, not_or] at h
  obtain ⟨hslash, hspace, htab, hline, hreturn⟩ := h
  refine skipTrivia_eq_self ?_ (by simp [isGap, hspace, htab, hline, hreturn])
  unfold afterComment?
  split
  · next heq => exact absurd (List.cons.inj heq).1 hslash
  · next heq => exact absurd (List.cons.inj heq).1 hslash
  · rfl

theorem scan?_eq_none {c : Char} (hdigit : c.isDigit = false) (hdot : c ≠ '.') (s : List Char) :
    Number.scan? (c :: s) = none := by
  have hfront : (c :: s).takeWhile Char.isDigit = [] := by
    rw [List.takeWhile_cons_of_neg (ne_true_of_eq_false hdigit)]
  have hrest : (c :: s).dropWhile Char.isDigit = c :: s := by
    rw [List.dropWhile_cons_of_neg (ne_true_of_eq_false hdigit)]
  have hfraction : Number.scanFraction (c :: s) = ([], c :: s) := by
    rw [Number.scanFraction]
    rintro r ⟨⟩
    exact hdot rfl
  simp only [Number.scan?, hfront, hrest, hfraction, and_self, if_true]

/-- The text `w` is read as a token where a blank or nothing follows, and nothing is skipped in
front of it. -/
structure Reads (w : List Char) (t : Token) : Prop where
  starts : ∀ s, AtBlank s → skipTrivia (w ++ s) = w ++ s
  scans : ∀ s, AtBlank s → scanToken (w ++ s) = .ok (t, s)

/-! ### Numbers -/

def Digits (ds : List Char) : Prop := ∀ d ∈ ds, d.isDigit = true

/-- Digits begin with none of the signs, nor with any other character that is no digit. -/
theorem Digits.append_ne {ds : List Char} (h : Digits ds) (hne : ds ≠ []) {c : Char}
    (hc : c.isDigit = false) (s r : List Char) : ds ++ s ≠ c :: r := by
  obtain ⟨d, ds, rfl⟩ := List.exists_cons_of_ne_nil hne
  intro heq
  have hd := h d List.mem_cons_self
  rw [(List.cons.inj heq).1, hc] at hd
  exact Bool.false_ne_true hd

/-- Digits with at most one point among, before or after them. -/
inductive IsMantissa : List Char → Prop where
  | whole {ds : List Char} : ds ≠ [] → Digits ds → IsMantissa ds
  | pointed {ds fs : List Char} : ds ≠ [] ∨ fs ≠ [] → Digits ds → Digits fs →
      IsMantissa (ds ++ '.' :: fs)

/-- Nothing, or an exponent mark and digits with or without a sign. -/
inductive IsExponent : List Char → Prop where
  | none : IsExponent []
  | unsigned {mark : Char} {ds : List Char} : mark ∈ ['e', 'E'] → ds ≠ [] → Digits ds →
      IsExponent (mark :: ds)
  | signed {mark sign : Char} {ds : List Char} : mark ∈ ['e', 'E'] → sign ∈ ['+', '-'] →
      ds ≠ [] → Digits ds → IsExponent (mark :: sign :: ds)

def IsDecimal (w : List Char) : Prop := ∃ m e, IsMantissa m ∧ IsExponent e ∧ w = m ++ e

theorem isDigit_eq_false_of_mem {c : Char} (h : c ∈ [' ', '.', 'e', 'E', '+', '-']) :
    c.isDigit = false := by
  simp only [List.mem_cons, List.not_mem_nil, or_false] at h
  rcases h with rfl | rfl | rfl | rfl | rfl | rfl <;> decide

theorem atWordEnd_isDigit {c : Char} (h : c ∈ [' ', '.', 'e', 'E', '+', '-']) (s : List Char) :
    AtWordEnd (!Char.isDigit ·) (c :: s) :=
  .cons (by rw [isDigit_eq_false_of_mem h]; rfl) s

/-- What may follow a mantissa ends its digits and has no point. -/
structure EndsMantissa (s : List Char) : Prop where
  digits : AtWordEnd (!Char.isDigit ·) s
  point : ∀ r, s ≠ '.' :: r

theorem AtBlank.endsMantissa {s : List Char} (h : AtBlank s) : EndsMantissa s := by
  rcases h.cases with rfl | ⟨r, rfl⟩
  · exact ⟨.nil, nofun⟩
  · exact ⟨atWordEnd_isDigit (by simp) r, nofun⟩

theorem IsExponent.endsMantissa {e s : List Char} (h : IsExponent e) (hs : AtBlank s) :
    EndsMantissa (e ++ s) := by
  have hmark : ∀ {mark : Char}, mark ∈ ['e', 'E'] → ∀ r, EndsMantissa (mark :: r) := by
    intro mark hmark r
    simp only [List.mem_cons, List.not_mem_nil, or_false] at hmark
    rcases hmark with rfl | rfl <;> exact ⟨atWordEnd_isDigit (by simp) r, nofun⟩
  cases h with
  | none => exact hs.endsMantissa
  | unsigned h => exact hmark h _
  | signed h => exact hmark h _

/-- The digits of a mantissa are read, and what follows it is left. -/
theorem IsMantissa.exists_scan {m : List Char} (h : IsMantissa m) :
    ∃ ds fs, (ds ≠ [] ∨ fs ≠ []) ∧ ∀ s, EndsMantissa s →
      (m ++ s).takeWhile Char.isDigit = ds ∧
        Number.scanFraction ((m ++ s).dropWhile Char.isDigit) = (fs, s) := by
  cases h with
  | @whole ds hne hds =>
      refine ⟨m, [], .inl hne, fun s hs => ⟨takeWhile_append_of_atWordEnd hds hs.digits, ?_⟩⟩
      rw [dropWhile_append_of_atWordEnd hds hs.digits, Number.scanFraction]
      exact hs.point
  | @pointed ds fs hne hds hfs =>
      refine ⟨ds, fs, hne, fun s hs => ?_⟩
      have hpoint := atWordEnd_isDigit (c := '.') (by simp) (fs ++ s)
      rw [List.append_assoc, List.cons_append, takeWhile_append_of_atWordEnd hds hpoint,
        dropWhile_append_of_atWordEnd hds hpoint, Number.scanFraction,
        takeWhile_append_of_atWordEnd hfs hs.digits, dropWhile_append_of_atWordEnd hfs hs.digits]
      exact ⟨rfl, rfl⟩

theorem IsExponent.exists_scan {e : List Char} (h : IsExponent e) :
    ∃ k, ∀ s, AtBlank s → Number.scanExponent (e ++ s) = (k, s) := by
  cases h with
  | none =>
      refine ⟨0, fun s hs => ?_⟩
      rcases hs.cases with rfl | ⟨r, rfl⟩ <;> rfl
  | @unsigned mark ds hmark hne hds =>
      refine ⟨Number.digitsValue ds, fun s hs => ?_⟩
      have hmark' : mark = 'e' ∨ mark = 'E' := by simpa using hmark
      have htake := takeWhile_append_of_atWordEnd hds hs.endsMantissa.digits
      have hdrop := dropWhile_append_of_atWordEnd hds hs.endsMantissa.digits
      rw [List.cons_append]
      unfold Number.scanExponent
      simp only [if_pos hmark', htake, hdrop, if_neg hne]
      split
      · next heq => exact absurd heq (hds.append_ne hne (by decide) s _)
      · next heq => exact absurd heq (hds.append_ne hne (by decide) s _)
      · rfl
  | @signed mark sign ds hmark hsign hne hds =>
      have hmark' : mark = 'e' ∨ mark = 'E' := by simpa using hmark
      refine ⟨if sign = '-' then -(Number.digitsValue ds : Int) else Number.digitsValue ds,
        fun s hs => ?_⟩
      have htake := takeWhile_append_of_atWordEnd hds hs.endsMantissa.digits
      have hdrop := dropWhile_append_of_atWordEnd hds hs.endsMantissa.digits
      rw [List.cons_append, List.cons_append]
      unfold Number.scanExponent
      simp only [List.mem_cons, List.not_mem_nil, or_false] at hsign
      rcases hsign with rfl | rfl <;> simp [hmark', htake, hdrop, hne]

namespace IsDecimal

variable {w : List Char}

theorem exists_cons (h : IsDecimal w) : ∃ c r, w = c :: r ∧ (c.isDigit = true ∨ c = '.') := by
  obtain ⟨m, e, hm, -, rfl⟩ := h
  cases hm with
  | whole hne hds =>
      obtain ⟨d, ds, rfl⟩ := List.exists_cons_of_ne_nil hne
      exact ⟨d, ds ++ e, rfl, .inl (hds d List.mem_cons_self)⟩
  | @pointed ds fs hne hds hfs =>
      cases ds with
      | nil => exact ⟨'.', fs ++ e, rfl, .inr rfl⟩
      | cons d ds => exact ⟨d, _, rfl, .inl (hds d List.mem_cons_self)⟩

theorem exists_scan (h : IsDecimal w) :
    ∃ n, ∀ s, AtBlank s → Number.scan? (w ++ s) = some (n, s) := by
  obtain ⟨m, e, hm, he, rfl⟩ := h
  obtain ⟨ds, fs, hne, hmantissa⟩ := hm.exists_scan
  obtain ⟨k, hexponent⟩ := he.exists_scan
  refine ⟨⟨Number.digitsValue (ds ++ fs), k - fs.length⟩, fun s hs => ?_⟩
  obtain ⟨htake, hfraction⟩ := hmantissa (e ++ s) (he.endsMantissa hs)
  have hsome : ¬ (ds = [] ∧ fs = []) := fun ⟨hds, hfs⟩ => hne.elim (· hds) (· hfs)
  rw [List.append_assoc]
  simp only [Number.scan?, htake, hfraction, if_neg hsome, hexponent s hs]

/-- A decimal lexeme is none of the words for numbers, and has no sign. -/
theorem ofText?_eq (h : IsDecimal w) {n : Number.Numeral} (hn : Number.scan? w = some (n, [])) :
    Number.ofText? w = some (n.toFloat false) := by
  obtain ⟨c, r, rfl, hc⟩ := h.exists_cons
  have halpha : c.isAlpha = false := by
    rcases hc with hdigit | rfl
    · exact Bool.eq_false_iff.2 fun h => absurd hdigit (by simp [isDigit_eq_false_of_isAlpha h])
    · decide
  -- The words begin with a letter, of either case.
  have hword : ∀ (d : Char) (ds : List Char), d.isAlpha = true →
      String.ofList ((c :: r).map Char.toLower) ≠ String.ofList (d :: ds) := by
    intro d ds hd heq
    have hlower : c.toLower = d := (List.cons.inj (String.ofList_injective heq)).1
    rw [← hlower, toLower_of_isAlpha_eq_false halpha, halpha] at hd
    exact Bool.false_ne_true hd
  have hunsigned : Number.ofUnsigned? false (c :: r) = some (n.toFloat false) := by
    have hinfinity : ¬ (String.ofList ((c :: r).map Char.toLower) = "inf" ∨
        String.ofList ((c :: r).map Char.toLower) = "infinity") :=
      not_or.2 ⟨hword 'i' ['n', 'f'] (by decide),
        hword 'i' "nfinity".toList (by decide)⟩
    have hnan : String.ofList ((c :: r).map Char.toLower) ≠ "nan" :=
      hword 'n' ['a', 'n'] (by decide)
    simp only [Number.ofUnsigned?, if_neg hinfinity, if_neg hnan, hn]
  unfold Number.ofText?
  split
  · next heq =>
    cases (List.cons.inj heq).1
    exact absurd hc (by decide)
  · next heq =>
    cases (List.cons.inj heq).1
    exact absurd hc (by decide)
  · exact hunsigned

/-- A decimal lexeme is read as the number that it stands for. -/
theorem exists_reads (h : IsDecimal w) :
    ∃ x, Number.ofText? w = some x ∧ Reads w (.number x) := by
  obtain ⟨n, hn⟩ := h.exists_scan
  have hself := hn [] .nil
  rw [List.append_nil] at hself
  refine ⟨n.toFloat false, h.ofText?_eq hself, ⟨fun s hs => ?_, fun s hs => ?_⟩⟩
  · obtain ⟨c, r, rfl, hc⟩ := h.exists_cons
    refine skipTrivia_of_not_mem (fun hmem => ?_) _
    simp only [skippedStarts, List.mem_cons, List.not_mem_nil, or_false] at hmem
    rcases hmem with rfl | rfl | rfl | rfl | rfl <;> exact absurd hc (by decide)
  · unfold scanToken
    simp only [hn s hs]

end IsDecimal

/-! ### Strings -/

def withEscape (c : Char) : List Char :=
  if c = '\\' ∨ c = '"' then ['\\', c] else if c = '\n' then ['\\', 'n'] else [c]

def inQuotes (s : List Char) : List Char := '"' :: (s.flatMap withEscape ++ ['"'])

/-- What is written between the quotes is read as the string that it was written for. -/
theorem closeString?_withEscape (s r : List Char) :
    closeString? '"' (s.flatMap withEscape ++ '"' :: r) = some (s, r) := by
  induction s with
  | nil => simp [closeString?]
  | cons c s ih =>
      rw [List.flatMap_cons, List.append_assoc]
      generalize s.flatMap withEscape ++ '"' :: r = tail at ih
      unfold withEscape
      split
      · next hc =>
        have hescaped : escaped c = c := by rcases hc with rfl | rfl <;> rfl
        simp [closeString?, ih, hescaped]
      · next hc =>
        obtain ⟨hbackslash, hquote⟩ := not_or.1 hc
        split
        · next hline => simp [hline, closeString?, ih, escaped]
        · next hline => simp [closeString?, ih, hbackslash, hquote, hline]

theorem reads_inQuotes (s : String) : Reads (inQuotes s.toList) (.string s) where
  starts r _ := skipTrivia_of_not_mem (by decide) _
  scans r _ := by
    have hnumber := scan?_eq_none (c := '"') (by decide) (by decide)
      (s.toList.flatMap withEscape ++ '"' :: r)
    have hquotes : inQuotes s.toList ++ r = '"' :: (s.toList.flatMap withEscape ++ '"' :: r) := by
      simp [inQuotes]
    rw [hquotes]
    unfold scanToken
    simp only [hnumber, true_or, if_true, closeString?_withEscape, String.ofList_toList]

/-! ### Punctuators and words -/

/-- With a blank after it, no punctuator begins a comment or a number. -/
theorem reads_punct (p : Punct) : Reads p.text.toList (.punct p) where
  starts s hs := by
    rcases hs.cases with rfl | ⟨r, rfl⟩
    · cases p <;> exact skipTrivia_eq_self rfl rfl
    · cases p <;> exact skipTrivia_eq_self rfl rfl
  scans s hs := by
    rcases hs.cases with rfl | ⟨r, rfl⟩
    · cases p <;> rfl
    · cases p <;> rfl

def IsWord (w : List Char) : Prop := scanWord? w = some (w, [])

section words

variable {c : Char} (h : beginsWord c = true)
include h

/-- What a word begins with begins nothing else. -/
theorem ne_of_beginsWord {d : Char} (hd : beginsWord d = false) : c ≠ d := by
  rintro rfl
  exact absurd (h.symm.trans hd) Bool.noConfusion

theorem isDigit_eq_false_of_beginsWord : c.isDigit = false := by
  rw [← Bool.not_eq_true]
  intro hdigit
  have hrange := Bool.and_eq_true_iff.1 hdigit
  have hlow : 48 ≤ c.toNat := of_decide_eq_true hrange.1
  have hhigh : c.toNat ≤ 57 := of_decide_eq_true hrange.2
  simp only [beginsWord, Bool.or_eq_true, beq_iff_eq] at h
  rcases h with (hletter | rfl) | rfl
  · rw [isLetter, if_pos (by omega)] at hletter
    exact absurd hdigit (by simp [isDigit_eq_false_of_isAlpha hletter])
  · exact absurd hdigit (by decide)
  · exact absurd hdigit (by decide)

end words

theorem IsWord.exists_cons {w : List Char} (h : IsWord w) :
    ∃ c cs, w = c :: cs ∧ beginsWord c = true ∧ ∀ d ∈ cs, continuesWord d = true := by
  cases w with
  | nil => cases h
  | cons c cs =>
      rw [IsWord, scanWord?] at h
      split at h
      · next hc =>
        have hcs : cs.takeWhile continuesWord = cs :=
          (List.cons.inj (Prod.mk.inj (Option.some.inj h)).1).2
        refine ⟨c, cs, rfl, hc, fun d hd => ?_⟩
        rw [← hcs] at hd
        exact List.all_eq_true.1 List.all_takeWhile d hd
      · cases h

theorem IsWord.reads {w : List Char} (h : IsWord w) : Reads w (.word (String.ofList w)) := by
  obtain ⟨c, cs, rfl, hc, hcs⟩ := h.exists_cons
  refine ⟨fun s _ => skipTrivia_of_not_mem (fun hmem => ?_) _, fun s hs => ?_⟩
  · simp only [skippedStarts, List.mem_cons, List.not_mem_nil, or_false] at hmem
    rcases hmem with hd | hd | hd | hd | hd <;> exact ne_of_beginsWord hc (by decide) hd
  · have hnumber := scan?_eq_none (isDigit_eq_false_of_beginsWord hc)
      (ne_of_beginsWord hc (d := '.') (by decide)) (cs ++ s)
    have hquote : ¬ (c = '"' ∨ c = '\'') :=
      not_or.2 ⟨ne_of_beginsWord hc (by decide), ne_of_beginsWord hc (by decide)⟩
    have hend : AtWordEnd (!continuesWord ·) s := by
      rcases hs.cases with rfl | ⟨r, rfl⟩
      · exact .nil
      · exact .cons (by decide +kernel) r
    have hword : scanWord? (c :: (cs ++ s)) = some (c :: cs, s) := by
      rw [scanWord?, if_pos hc, takeWhile_append_of_atWordEnd hcs hend,
        dropWhile_append_of_atWordEnd hcs hend]
    rw [List.cons_append]
    unfold scanToken
    simp only [hnumber, if_neg hquote, hword]

/-! ### Pieces one after the other -/

inductive Piece where
  | word (w : List Char) (isWord : IsWord w)
  | punct (p : Punct)
  | string (s : String)
  | number (w : List Char) (isDecimal : IsDecimal w)

theorem IsDecimal.isSome_ofText? {w : List Char} (h : IsDecimal w) :
    (Number.ofText? w).isSome = true := by
  obtain ⟨x, hx, -⟩ := h.exists_reads
  rw [hx]
  rfl

namespace Piece

def text : Piece → List Char
  | word w _ => w
  | punct p => p.text.toList
  | string s => inQuotes s.toList
  | number w _ => w

/-- The token that a piece is for. A number has the value that its lexeme stands for. -/
def token : Piece → Token
  | word w _ => .word (String.ofList w)
  | punct p => .punct p
  | string s => .string s
  | number w h => .number ((Number.ofText? w).get h.isSome_ofText?)

theorem reads (p : Piece) : Reads p.text p.token := by
  cases p with
  | word w h => exact h.reads
  | punct p => exact reads_punct p
  | string s => exact reads_inQuotes s
  | number w h =>
      obtain ⟨x, hx, hreads⟩ := h.exists_reads
      have hvalue : (number w h).token = .number x := by simp only [token, hx, Option.get_some]
      rw [hvalue]
      exact hreads

def rendering (ps : List Piece) : String := String.ofList (joined (ps.map text))

/-- The tokens of pieces that stand with single blanks between them, the first of them `n` bytes
into a text, each with the offset at which its piece begins. -/
def placed (n : Nat) : List Piece → List Lexeme
  | [] => []
  | p :: ps => ⟨p.token, n⟩ :: placed (n + byteCount p.text + 1) ps

end Piece

/-- A token is read behind what is skipped, at the place where it stands. -/
theorem lexemesFrom_of_skipTrivia {total : Nat} {s s' r : List Char} {t : Token}
    {ls : List Lexeme} (hskip : skipTrivia s = s') (hscan : scanToken s' = .ok (t, r))
    (hls : lexemesFrom total r = .ok ls) :
    lexemesFrom total s = .ok (⟨t, total - byteCount s'⟩ :: ls) := by
  subst hskip
  have hne : skipTrivia s ≠ [] := by
    intro hnil
    rw [hnil] at hscan
    cases hscan
  rw [lexemesFrom]
  simp only [if_neg hne]
  split
  · next heq =>
    rw [hscan] at heq
    cases heq
  · next heq =>
    rw [hscan] at heq
    cases heq
    rw [hls]

theorem Reads.lexemesFrom_eq {w s : List Char} {t : Token} (h : Reads w t) (hs : AtBlank s)
    {total : Nat} {ls : List Lexeme} (hls : lexemesFrom total s = .ok ls) :
    lexemesFrom total (w ++ s) = .ok (⟨t, total - byteCount (w ++ s)⟩ :: ls) :=
  lexemesFrom_of_skipTrivia (h.starts s hs) (h.scans s hs) hls

theorem lexemesFrom_nil (total : Nat) : lexemesFrom total [] = .ok [] := by
  have hskip : skipTrivia [] = [] := by
    rw [skipTrivia]
    rfl
  rw [lexemesFrom, if_pos hskip]

theorem lexemesFrom_blank (total : Nat) (s : List Char) :
    lexemesFrom total (' ' :: s) = lexemesFrom total s := by
  rw [lexemesFrom, skipTrivia_blank, ← lexemesFrom]

theorem Piece.lexemesFrom_joined (ps : List Piece) (n : Nat) :
    lexemesFrom (n + byteCount (joined (ps.map text))) (joined (ps.map text)) =
      .ok (placed n ps) := by
  induction ps generalizing n with
  | nil => exact lexemesFrom_nil _
  | cons p ps ih =>
      -- What follows the first piece: nothing, or a blank and the other pieces.
      obtain ⟨s, hs, hjoined, hrest⟩ : ∃ s, AtBlank s ∧
          joined ((p :: ps).map text) = p.text ++ s ∧
          lexemesFrom (n + byteCount (p.text ++ s)) s =
            .ok (placed (n + byteCount p.text + 1) ps) := by
        cases ps with
        | nil => exact ⟨[], .nil, by simp, lexemesFrom_nil _⟩
        | cons q ps =>
            refine ⟨' ' :: joined ((q :: ps).map text), .cons rfl _, joined_cons_cons _ _ _, ?_⟩
            have htotal : n + byteCount (p.text ++ ' ' :: joined ((q :: ps).map text)) =
                n + byteCount p.text + 1 + byteCount (joined ((q :: ps).map text)) := by
              have hblank : ' '.utf8Size = 1 := rfl
              rw [byteCount_append, byteCount_cons, hblank]
              omega
            rw [lexemesFrom_blank, htotal, ih]
      rw [hjoined, p.reads.lexemesFrom_eq hs hrest, Nat.add_sub_cancel]
      rfl

/-- Pieces with single blanks between them are read as their tokens, each at the place at which the
piece begins. -/
theorem lexemes_rendering (ps : List Piece) :
    lexemes (Piece.rendering ps) = .ok (Piece.placed 0 ps) := by
  have hread := Piece.lexemesFrom_joined ps 0
  rw [Nat.zero_add] at hread
  rw [lexemes, Piece.rendering, String.toList_ofList, hread]

example : Piece.rendering [.punct .slash, .string "\"\n", .punct .dot, .string "é"] =
    "/ \"\\\"\\n\" . \"é\"" := by
  decide

end Componentry.Script
