import Componentry.Proofs.Script.Rendering
import Componentry.Proofs.Text.Breaking
import Componentry.Proofs.Text.Bytes
import Componentry.Script.Grammar

/-!
# Places in a source

A `Layout` takes the beginning of a source apart: in front of every lexeme stand gaps and comments
(`Skipped`), and the lexeme takes at least one character. A source that is read has such a layout
with nothing but gaps and comments behind it, so the offsets of its lexemes increase and lie between
characters. A fault in a program is placed at a lexeme, at the end, or where the layout cannot go on
because no token can be read (`FaultAt`); each of these is a place between two characters as well.
-/

namespace Componentry.Script

open Text

variable {s r after : List Char}

/-! ### Tokens take a beginning of the text -/

theorem suffix_scanFraction (s : List Char) : (Number.scanFraction s).2 <:+ s := by
  unfold Number.scanFraction
  split
  · exact (List.dropWhile_suffix _).trans (List.suffix_cons _ _)
  · exact List.suffix_refl _

theorem suffix_scanExponent (s : List Char) : (Number.scanExponent s).2 <:+ s := by
  -- The digits behind a mark and a sign; without any, nothing is taken.
  have digits (r : List Char) (n : Bool) (h : r <:+ s) :
      (if r.takeWhile Char.isDigit = [] then ((0 : Int), s)
        else (if n then -(Number.digitsValue (r.takeWhile Char.isDigit) : Int)
          else Number.digitsValue (r.takeWhile Char.isDigit),
          r.dropWhile Char.isDigit)).2 <:+ s := by
    split
    · exact List.suffix_refl _
    · exact (List.dropWhile_suffix _).trans h
  unfold Number.scanExponent
  split
  · split
    · split
      · exact digits _ true ((List.suffix_cons _ _).trans (List.suffix_cons _ _))
      · exact digits _ false ((List.suffix_cons _ _).trans (List.suffix_cons _ _))
      · exact digits _ false (List.suffix_cons _ _)
    · exact List.suffix_refl _
  · exact List.suffix_refl _

theorem suffix_scan? {n : Number.Numeral} (h : Number.scan? s = some (n, r)) : r <:+ s := by
  simp only [Number.scan?] at h
  split at h
  · cases h
  · cases h
    exact (suffix_scanExponent _).trans ((suffix_scanFraction _).trans (List.dropWhile_suffix _))

theorem suffix_closeString? {quote : Char} {b : List Char}
    (h : closeString? quote s = some (b, r)) : r <:+ s := by
  fun_induction closeString? quote s generalizing b with
  | case1 => cases h
  | case2 c s ih =>
    obtain ⟨parts, hparts, heq⟩ := Option.map_eq_some_iff.1 h
    cases heq
    exact (ih hparts).trans ((List.suffix_cons _ _).trans (List.suffix_cons _ _))
  | case3 =>
    cases h
    exact List.suffix_cons _ _
  | case4 => cases h
  | case5 c s _ _ _ ih =>
    obtain ⟨parts, hparts, heq⟩ := Option.map_eq_some_iff.1 h
    cases heq
    exact (ih hparts).trans (List.suffix_cons _ _)

theorem suffix_scanWord? {w : List Char} (h : scanWord? s = some (w, r)) : r <:+ s := by
  cases s with
  | nil => cases h
  | cons c s =>
    rw [scanWord?] at h
    split at h
    · cases h
      exact (List.dropWhile_suffix _).trans (List.suffix_cons _ _)
    · cases h

theorem suffix_scanToken {t : Token} (h : scanToken s = .ok (t, r)) : r <:+ s := by
  unfold scanToken at h
  split at h
  · next hnumber =>
    cases h
    exact suffix_scan? hnumber
  · split at h
    · cases h
    · split at h
      · split at h
        · next hstring =>
          cases h
          exact (suffix_closeString? hstring).trans (List.suffix_cons _ _)
        · cases h
      · split at h
        · next hword =>
          cases h
          exact suffix_scanWord? hword
        · split at h
          · next hpunct =>
            cases h
            exact ⟨_, (eq_append_of_firstPunct? hpunct).symm⟩
          · cases h

/-- Where no token can be read for want of a closing quote, the opening quote comes first. -/
theorem exists_quote_of_scanToken (hne : s ≠ [])
    (h : scanToken s = .error .unterminatedString) :
    ∃ quote body, s = quote :: body ∧ (quote = '"' ∨ quote = '\'') ∧
      closeString? quote body = none := by
  unfold scanToken at h
  split at h
  · cases h
  · split at h
    · exact absurd rfl hne
    · next c cs _ =>
      split at h
      · next hquote =>
        split at h
        · cases h
        · next hopen => exact ⟨c, cs, rfl, hquote, hopen⟩
      · split at h
        · cases h
        · split at h <;> cases h

/-! ### Gaps and comments -/

/-- A comment in front of the text `after`. A comment that begins with two slashes ends with its
line, any other with its closing mark; the end of the text ends both. -/
inductive Comment (after : List Char) : List Char → Prop where
  | line {body : List Char} : '\n' ∉ body → AtWordEnd (· == '\n') after →
      Comment after ('/' :: '/' :: body)
  | block {body : List Char} : ¬ ['*', '/'] <:+: body →
      Comment after ('/' :: '*' :: (body ++ ['*', '/']))
  | unclosed {body : List Char} : ¬ ['*', '/'] <:+: body → after = [] →
      Comment after ('/' :: '*' :: body)

inductive Skipped (after : List Char) : List Char → Prop where
  | nil : Skipped after []
  | gap {c : Char} {s : List Char} : isGap c = true → Skipped after s → Skipped after (c :: s)
  | comment {s s' : List Char} : Comment (s' ++ after) s → Skipped after s' →
      Skipped after (s ++ s')

def Solid (s : List Char) : Prop := ∀ gap r, s = gap ++ r → Skipped r gap → gap = []

theorem Comment.afterComment?_ne_none (h : Comment after s) :
    afterComment? (s ++ after) ≠ none := by
  cases h with
  | line => exact Option.some_ne_none _
  | block | unclosed =>
      simp only [List.cons_append, afterComment?]
      split <;> exact Option.some_ne_none _

theorem exists_comment (h : afterComment? s = some r) : ∃ w, s = w ++ r ∧ Comment r w := by
  unfold afterComment? at h
  split at h
  · next t =>
    cases h
    refine ⟨'/' :: '/' :: t.takeWhile (· ≠ '\n'), ?_, .line ?_ ?_⟩
    · rw [List.cons_append, List.cons_append, List.takeWhile_append_dropWhile]
    · intro hmem
      simpa using List.all_eq_true.1 List.all_takeWhile '\n' hmem
    · intro c hc
      have hhead := List.head?_dropWhile_not (· ≠ '\n') t
      rw [Option.mem_def.1 hc] at hhead
      simpa using hhead
  · next t =>
    split at h
    · next parts hbreak =>
      cases h
      refine ⟨'/' :: '*' :: (parts.1 ++ ['*', '/']), ?_,
        .block (not_infix_of_breakOn? (List.cons_ne_nil _ _) hbreak)⟩
      rw [List.cons_append, List.cons_append, ← eq_append_of_breakOn? hbreak]
    · next hbreak =>
      cases h
      exact ⟨'/' :: '*' :: t, (List.append_nil _).symm,
        .unclosed (not_infix_of_breakOn?_eq_none hbreak) rfl⟩
  · cases h

theorem solid_nil : Solid [] := fun _ _ h _ => (List.append_eq_nil_iff.1 h.symm).1

theorem solid_cons {c : Char} (hcomment : afterComment? (c :: s) = none) (hgap : isGap c = false) :
    Solid (c :: s) := by
  intro gap r heq hskipped
  cases hskipped with
  | nil => rfl
  | gap hc =>
      rw [(List.cons.inj heq).1, hc] at hgap
      cases hgap
  | comment hc =>
      rw [heq, List.append_assoc] at hcomment
      exact absurd hcomment hc.afterComment?_ne_none

/-- What is skipped in front of a text are gaps and comments, and all of them. -/
theorem exists_skipped (h : skipTrivia s = r) :
    ∃ gap, s = gap ++ r ∧ Skipped r gap ∧ Solid r := by
  subst h
  fun_induction skipTrivia s with
  | case1 s r h ih =>
    obtain ⟨gap, heq, hskipped, hsolid⟩ := ih
    obtain ⟨w, rfl, hcomment⟩ := exists_comment h
    refine ⟨w ++ gap, ?_, .comment ?_ hskipped, hsolid⟩
    · rw [List.append_assoc, ← heq]
    · rwa [← heq]
  | case2 => exact ⟨[], rfl, .nil, solid_nil⟩
  | case3 c r _ hgap ih =>
    obtain ⟨gap, heq, hskipped, hsolid⟩ := ih
    exact ⟨c :: gap, by rw [List.cons_append, ← heq], .gap hgap hskipped, hsolid⟩
  | case4 c r hcomment hgap =>
    exact ⟨[], rfl, .nil, solid_cons hcomment (Bool.eq_false_iff.2 hgap)⟩

/-! ### Layouts -/

/-- The text `s`, which begins `n` bytes into a source, consists of lexemes with gaps and comments
in front of each, up to a place `m` bytes into the source that the text `rest` follows. -/
inductive Layout : Nat → List Char → List Lexeme → Nat → List Char → Prop where
  | done (n : Nat) (s : List Char) : Layout n s [] n s
  | lexeme {n m : Nat} {gap w s rest : List Char} {t : Token} {ls : List Lexeme} :
      Skipped (w ++ s) gap → Solid (w ++ s) → w ≠ [] → scanToken (w ++ s) = .ok (t, s) →
      Layout (n + byteCount gap + byteCount w) s ls m rest →
      Layout n (gap ++ (w ++ s)) (⟨t, n + byteCount gap⟩ :: ls) m rest

namespace Layout

variable {n m : Nat} {rest : List Char} {ls : List Lexeme}

theorem exists_front (h : Layout n s ls m rest) :
    ∃ front, s = front ++ rest ∧ m = n + byteCount front := by
  induction h with
  | done n s => exact ⟨[], rfl, rfl⟩
  | @lexeme n m gap w s rest t ls _ _ _ _ _ ih =>
      obtain ⟨front, rfl, rfl⟩ := ih
      refine ⟨gap ++ (w ++ front), by simp only [List.append_assoc], ?_⟩
      rw [byteCount_append, byteCount_append]
      omega

/-- In front of the offset of a lexeme stands a beginning of the text, and something behind it. -/
theorem exists_front_of_mem (h : Layout n s ls m rest) {l : Lexeme} (hl : l ∈ ls) :
    ∃ front back, s = front ++ back ∧ back ≠ [] ∧ l.offset = n + byteCount front := by
  induction h with
  | done => cases hl
  | @lexeme n m gap w s rest t ls _ _ hne _ _ ih =>
      rcases List.mem_cons.1 hl with rfl | hl
      · exact ⟨gap, w ++ s, rfl, List.append_ne_nil_of_left_ne_nil hne s, rfl⟩
      · obtain ⟨front, back, rfl, hback, hoffset⟩ := ih hl
        refine ⟨gap ++ (w ++ front), back, by simp only [List.append_assoc], hback, ?_⟩
        rw [hoffset, byteCount_append, byteCount_append]
        omega

theorem pairwise_offset (h : Layout n s ls m rest) :
    (ls.map Lexeme.offset).Pairwise (· < ·) := by
  induction h with
  | done => exact .nil
  | @lexeme n m gap w s rest t ls _ _ hne _ hrest ih =>
      refine .cons (fun offset hmem => ?_) ih
      obtain ⟨l, hl, rfl⟩ := List.mem_map.1 hmem
      obtain ⟨front, back, -, -, hoffset⟩ := hrest.exists_front_of_mem hl
      have hpos := byteCount_pos hne
      change n + byteCount gap < l.offset
      omega

end Layout

/-- In the text `s`, which begins `n` bytes into a source, no token can be read at the offset,
though everything in front of it is read. For want of a closing quote this is where the opening
quote stands. -/
inductive StopsAt (n : Nat) (s : List Char) (fault : SyntaxFault) : Nat → Prop where
  | intro {m : Nat} {ls : List Lexeme} {gap rest : List Char} :
      Layout n s ls m (gap ++ rest) → Skipped rest gap → Solid rest → rest ≠ [] →
      scanToken rest = .error fault →
      (fault = .unterminatedString → ∃ quote body, rest = quote :: body ∧
        (quote = '"' ∨ quote = '\'') ∧ closeString? quote body = none) →
      StopsAt n s fault (m + byteCount gap)

/-- The outcome of reading the text `s`, which begins `n` bytes into a source: its lexemes, or the
place where no token can be read. -/
inductive TakenApart (n : Nat) (s : List Char) : Except ScriptError (List Lexeme) → Prop where
  | ok {m : Nat} {ls : List Lexeme} {last : List Char} :
      Layout n s ls m last → Skipped [] last → TakenApart n s (.ok ls)
  | error {offset : Nat} {fault : SyntaxFault} :
      StopsAt n s fault offset → TakenApart n s (.error (.malformed offset fault))

/-- A lexeme in front is one more lexeme of the outcome. -/
theorem TakenApart.lexeme {n : Nat} {gap w : List Char} {t : Token}
    {result : Except ScriptError (List Lexeme)} (hgap : Skipped (w ++ s) gap)
    (hsolid : Solid (w ++ s)) (hne : w ≠ []) (hscan : scanToken (w ++ s) = .ok (t, s))
    (h : TakenApart (n + byteCount gap + byteCount w) s result) :
    TakenApart n (gap ++ (w ++ s)) (result.map (⟨t, n + byteCount gap⟩ :: ·)) := by
  cases h with
  | ok hlayout hlast => exact .ok (.lexeme hgap hsolid hne hscan hlayout) hlast
  | error hstops =>
      obtain ⟨hlayout, hgap', hsolid', hne', hfault, hquote⟩ := hstops
      have hlayout' := Layout.lexeme hgap hsolid hne hscan hlayout
      exact .error (.intro hlayout' hgap' hsolid' hne' hfault hquote)

/-- The lexeme that the rest of a source begins with, and the outcome of reading on behind it. -/
theorem takenApart_of_scanToken {n total : Nat} {rest : List Char} {t : Token}
    {result : Except ScriptError (List Lexeme)} (htotal : n + byteCount s = total)
    (hskip : skipTrivia s = rest) (hscan : scanToken rest = .ok (t, r))
    (ih : ∀ n, n + byteCount r = total → TakenApart n r result) :
    TakenApart n s (result.map (⟨t, total - byteCount rest⟩ :: ·)) := by
  obtain ⟨gap, rfl, hgap, hsolid⟩ := exists_skipped hskip
  obtain ⟨w, rfl⟩ := suffix_scanToken hscan
  have hne : w ≠ [] := by
    rintro rfl
    exact absurd (length_scanToken hscan) (Nat.lt_irrefl _)
  rw [byteCount_append, byteCount_append] at htotal
  have hoffset : total - byteCount (w ++ r) = n + byteCount gap := by
    rw [byteCount_append]
    omega
  rw [hoffset]
  exact .lexeme hgap hsolid hne hscan (ih _ (by omega))

/-- The rest of a source of `total` bytes is taken apart. -/
theorem takenApart_lexemesFrom (total : Nat) (s : List Char) (n : Nat)
    (htotal : n + byteCount s = total) : TakenApart n s (lexemesFrom total s) := by
  fun_induction lexemesFrom total s generalizing n with
  | case1 s rest hend =>
    obtain ⟨last, rfl, hlast, -⟩ := exists_skipped (r := []) hend
    rw [List.append_nil]
    exact .ok (.done n last) hlast
  | case2 s rest hne offset fault hscan =>
    obtain ⟨gap, heq, hgap, hsolid⟩ := exists_skipped (s := s) (r := rest) rfl
    have hoffset : offset = n + byteCount gap := by
      rw [heq, byteCount_append] at htotal
      omega
    have hlayout : Layout n s [] n (gap ++ rest) := by
      rw [← heq]
      exact .done n s
    rw [hoffset]
    refine .error (.intro hlayout hgap hsolid hne hscan ?_)
    rintro rfl
    exact exists_quote_of_scanToken hne hscan
  | case3 s rest hne t r hscan e hr ih =>
    rw [hr] at ih
    exact takenApart_of_scanToken htotal rfl hscan ih
  | case4 s rest hne offset t r hscan ls hr ih =>
    rw [hr] at ih
    exact takenApart_of_scanToken htotal rfl hscan ih

theorem takenApart_lexemes (source : String) :
    TakenApart 0 source.toList (lexemes source) :=
  takenApart_lexemesFrom _ _ 0 (Nat.zero_add _)

/-! ### Places of a program -/

/-- The lexemes of a source have increasing offsets, each at a character of the source, and only
gaps and comments stand around them. -/
structure Placed (source : String) (ls : List Lexeme) : Prop where
  increasing : (ls.map Lexeme.offset).Pairwise (· < ·)
  boundary : ∀ l ∈ ls, (⟨l.offset⟩ : String.Pos.Raw).IsValid source
  below : ∀ l ∈ ls, l.offset < source.utf8ByteSize
  layout : ∃ m last, Layout 0 source.toList ls m last ∧ Skipped [] last

/-- The places that a fault in a source may have: a lexeme, the place where no token can be read,
and the end. -/
inductive FaultAt (source : String) (fault : SyntaxFault) : Nat → Prop where
  | lexeme {ls : List Lexeme} {l : Lexeme} : lexemes source = .ok ls → l ∈ ls →
      FaultAt source fault l.offset
  | stop {offset : Nat} : lexemes source = .error (.malformed offset fault) →
      StopsAt 0 source.toList fault offset → FaultAt source fault offset
  | finish {ls : List Lexeme} : lexemes source = .ok ls → FaultAt source fault source.utf8ByteSize

theorem placed_of_lexemes {source : String} {ls : List Lexeme} (h : lexemes source = .ok ls) :
    Placed source ls := by
  have htaken := takenApart_lexemes source
  rw [h] at htaken
  cases htaken with
  | @ok m _ last hlayout hlast =>
      refine ⟨hlayout.pairwise_offset, fun l hl => ?_, fun l hl => ?_, m, last, hlayout, hlast⟩
      · obtain ⟨front, back, hfront, -, hoffset⟩ := hlayout.exists_front_of_mem hl
        rw [hoffset, Nat.zero_add]
        exact isValid_byteCount hfront
      · obtain ⟨front, back, hfront, hback, hoffset⟩ := hlayout.exists_front_of_mem hl
        have hpos := byteCount_pos hback
        rw [hoffset, ← byteCount_toList, hfront, byteCount_append]
        omega

theorem FaultAt.isValid {source : String} {fault : SyntaxFault} {offset : Nat}
    (h : FaultAt source fault offset) : (⟨offset⟩ : String.Pos.Raw).IsValid source := by
  cases h with
  | lexeme h hl => exact (placed_of_lexemes h).boundary _ hl
  | stop _ h =>
      obtain ⟨hlayout, -, -, -, -, -⟩ := h
      obtain ⟨front, hfront, rfl⟩ := hlayout.exists_front
      rw [Nat.zero_add, ← byteCount_append]
      exact isValid_byteCount (hfront.trans (List.append_assoc _ _ _).symm)
  | finish =>
      rw [← byteCount_toList]
      exact isValid_byteCount (List.append_nil _).symm

theorem faultAt_offsetAt {source : String} {ls : List Lexeme} (h : lexemes source = .ok ls)
    (fault : SyntaxFault) (remaining : Nat) :
    FaultAt source fault (Program.offsetAt source ls remaining) := by
  unfold Program.offsetAt
  split
  · next l hl => exact .lexeme h (List.mem_of_getElem? hl)
  · rw [byteCount_toList]
    exact .finish h

namespace Program

/-- Offsets are places in the source: those of its lexemes, and that of the fault for which it is
no program. -/
theorem offsets_in_source (source : String) :
    (∀ ls, lexemes source = .ok ls → Placed source ls) ∧
      ∀ e, ofSource source = .error e → ∃ offset fault, e = .malformed offset fault ∧
        FaultAt source fault offset ∧ (⟨offset⟩ : String.Pos.Raw).IsValid source := by
  refine ⟨fun ls => placed_of_lexemes, fun e he => ?_⟩
  obtain ⟨offset, fault, rfl, hfault⟩ :
      ∃ offset fault, e = .malformed offset fault ∧ FaultAt source fault offset := by
    have htaken := takenApart_lexemes source
    unfold ofSource at he
    cases hread : lexemes source with
    | error e' =>
        rw [hread] at he htaken
        cases he
        cases htaken with
        | error hstops => exact ⟨_, _, rfl, .stop hread hstops⟩
    | ok ls =>
        rw [hread] at he
        simp only [bind, Except.bind] at he
        split at he
        · cases he
        · cases he
          exact ⟨_, _, rfl, faultAt_offsetAt hread _ _⟩
  exact ⟨offset, fault, rfl, hfault, hfault.isValid⟩

/-- A text in which a bracket stands where a value is expected, with a comment in front of the
sign. -/
theorem offsets_in_source_bracket :
    lexemes "x /* ü */ = ]" =
        .ok [⟨.word "x", 0⟩, ⟨.punct .assign, 11⟩, ⟨.punct .closeBracket, 13⟩] ∧
      Placed "x /* ü */ = ]" [⟨.word "x", 0⟩, ⟨.punct .assign, 11⟩, ⟨.punct .closeBracket, 13⟩] ∧
      ofSource "x /* ü */ = ]" = .error (.malformed 13
        (.expected "an expression" (some (.punct .closeBracket)))) ∧
      FaultAt "x /* ü */ = ]" (.expected "an expression" (some (.punct .closeBracket))) 13 := by
  have hbracket : lexemesFrom 14 " ]".toList = .ok [⟨.punct .closeBracket, 13⟩] :=
    lexemesFrom_of_skipTrivia (t := .punct .closeBracket)
      (show skipTrivia " ]".toList = "]".toList by decide +kernel) rfl (lexemesFrom_nil 14)
  have hsign : lexemesFrom 14 " /* ü */ = ]".toList =
      .ok [⟨.punct .assign, 11⟩, ⟨.punct .closeBracket, 13⟩] :=
    lexemesFrom_of_skipTrivia (t := .punct .assign)
      (show skipTrivia " /* ü */ = ]".toList = "= ]".toList by decide +kernel) rfl hbracket
  have hread : lexemes "x /* ü */ = ]" =
      .ok [⟨.word "x", 0⟩, ⟨.punct .assign, 11⟩, ⟨.punct .closeBracket, 13⟩] :=
    lexemesFrom_of_skipTrivia (t := .word "x")
      (show skipTrivia "x /* ü */ = ]".toList = "x /* ü */ = ]".toList by decide +kernel) rfl hsign
  have hfault : ofSource "x /* ü */ = ]" = .error (.malformed 13
      (.expected "an expression" (some (.punct .closeBracket)))) := by
    rw [ofSource, hread]
    with_unfolding_all rfl
  refine ⟨hread, (offsets_in_source _).1 _ hread, hfault, ?_⟩
  obtain ⟨offset, fault, heq, h, -⟩ := (offsets_in_source _).2 _ hfault
  cases heq
  exact h

end Program

end Componentry.Script
