import Componentry.Markup.Tree
import Componentry.Proofs.Markup.StartTag
import Componentry.Proofs.Markup.WrittenTokens

/-!
# Tokens one at a time

A `Cursor` is a place between two tokens of a text: what is left, and the word that ends the content
of a raw element if one has just been opened. `Cursor.next?` gives the next token with the place
behind it, and this takes at least one character (`Cursor.exists_append_of_next?`). `Yields` takes
token after token up to the end of the text, and so gives what `tokens?` gives
(`Cursor.yields_iff`). Only a start tag can keep a token from coming, and `startTag_progress` says
where.
-/

namespace Componentry.Markup

open Text

variable {s : List Char} {t : Token}

structure Cursor where
  left : List Char
  /-- The word that ends the content of the raw element that has been opened. -/
  rawEnd : Option (List Char)

def scanNext? : List Char → Option (Token × Cursor)
  | [] => none
  | c :: cs => (scanToken? c cs).map fun scanned => (scanned.1, ⟨scanned.2, scanned.1.rawEnd?⟩)

namespace Cursor

/-- The next token and the place behind it. There is none at the end of the text, and none if a
start tag comes that never ends. -/
def next? : Cursor → Option (Token × Cursor)
  | ⟨s, none⟩ => scanNext? s
  | ⟨s, some word⟩ =>
    if (breakBeforeFolded word s).1 = [] then scanNext? s
    else some (.rawText (breakBeforeFolded word s).1, ⟨(breakBeforeFolded word s).2, none⟩)

inductive Yields : Cursor → List Token → Prop where
  | done {rawEnd : Option (List Char)} : Yields ⟨[], rawEnd⟩ []
  | next {k k' : Cursor} {t : Token} {ts : List Token} :
      k.next? = some (t, k') → Yields k' ts → Yields k (t :: ts)

def tokens? : Cursor → Option (List Token)
  | ⟨s, none⟩ => Markup.tokens? s
  | ⟨s, some word⟩ =>
    (Markup.tokens? (breakBeforeFolded word s).2).map fun ts =>
      if (breakBeforeFolded word s).1 = [] then ts
      else .rawText (breakBeforeFolded word s).1 :: ts

end Cursor

section scanning

variable {k : Cursor}

theorem exists_append_of_scanNext? (h : scanNext? s = some (t, k)) :
    ∃ front, front ≠ [] ∧ s = front ++ k.left := by
  cases s with
  | nil => cases h
  | cons c cs =>
      obtain ⟨scanned, hscan, heq⟩ := Option.map_eq_some_iff.1 h
      cases heq
      obtain ⟨front, hfront⟩ := suffix_scanToken? hscan
      exact ⟨c :: front, List.cons_ne_nil c front, congrArg (c :: ·) hfront.symm⟩

theorem exists_scanNext? (h : Spaced s) (hne : s ≠ []) : ∃ t k, scanNext? s = some (t, k) := by
  obtain ⟨c, cs, rfl⟩ := List.exists_cons_of_ne_nil hne
  obtain ⟨t, r, hscan⟩ := exists_scanToken? (h.of_suffix (List.suffix_cons c cs)) c
  rw [scanNext?, hscan]
  exact ⟨_, _, rfl⟩

theorem tokens?_of_scanNext? (h : scanNext? s = some (t, k)) :
    tokens? s = k.tokens?.map (t :: ·) := by
  cases s with
  | nil => cases h
  | cons c cs =>
      obtain ⟨scanned, hscan, heq⟩ := Option.map_eq_some_iff.1 h
      cases heq
      cases hraw : scanned.1.rawEnd? with
      | none => exact tokens?_cons_of_plain hscan hraw
      | some word => rw [tokens?_cons_of_raw hscan hraw, Cursor.tokens?, Option.map_map]; rfl

theorem tokens?_of_scanNext?_eq_none (hne : s ≠ []) (h : scanNext? s = none) :
    tokens? s = none := by
  obtain ⟨c, cs, rfl⟩ := List.exists_cons_of_ne_nil hne
  have hscan : scanToken? c cs = none := Option.map_eq_none_iff.1 h
  rw [tokens?]
  split
  · rfl
  · next hsome => cases hscan.symm.trans hsome

end scanning

namespace Cursor

variable {k k' : Cursor}

/-- A token takes at least one character. -/
theorem exists_append_of_next? (h : k.next? = some (t, k')) :
    ∃ front, front ≠ [] ∧ k.left = front ++ k'.left := by
  unfold next? at h
  split at h
  · exact exists_append_of_scanNext? h
  · next s word =>
    split at h
    · exact exists_append_of_scanNext? h
    · next hbody =>
      cases h
      exact ⟨_, hbody, (breakBeforeFolded_append word s).symm⟩

theorem exists_next? (h : Spaced k.left) (hne : k.left ≠ []) :
    ∃ t k', k.next? = some (t, k') := by
  unfold next?
  split
  · exact exists_scanNext? h hne
  · split
    · exact exists_scanNext? h hne
    · exact ⟨_, _, rfl⟩

theorem tokens?_of_left_eq_nil (h : k.left = []) : k.tokens? = some [] := by
  obtain ⟨s, rawEnd⟩ := k
  cases h
  cases rawEnd with
  | none => rw [tokens?, Markup.tokens?]
  | some word => rw [tokens?, breakBeforeFolded, Markup.tokens?]; rfl

/-- No content comes before the word that ends a raw element. -/
theorem tokens?_of_body_eq_nil {word : List Char} (h : (breakBeforeFolded word s).1 = []) :
    tokens? ⟨s, some word⟩ = Markup.tokens? s := by
  have hrest : (breakBeforeFolded word s).2 = s := by
    have happend := breakBeforeFolded_append word s
    rwa [h, List.nil_append] at happend
  rw [tokens?, hrest]
  simp [h]

theorem tokens?_of_next? (h : k.next? = some (t, k')) : k.tokens? = k'.tokens?.map (t :: ·) := by
  unfold next? at h
  split at h
  · exact tokens?_of_scanNext? h
  · split at h
    · next hbody => rw [tokens?_of_body_eq_nil hbody, tokens?_of_scanNext? h]
    · next hbody =>
      cases h
      rw [tokens?, tokens?]
      simp [hbody]

theorem tokens?_of_next?_eq_none (hne : k.left ≠ []) (h : k.next? = none) : k.tokens? = none := by
  unfold next? at h
  split at h
  · exact tokens?_of_scanNext?_eq_none hne h
  · split at h
    · next hbody =>
      rw [tokens?_of_body_eq_nil hbody, tokens?_of_scanNext?_eq_none hne h]
    · cases h

/-- Taking token after token gives the tokens of the text, and comes to an end as often. -/
theorem yields_iff {ts : List Token} : Yields k ts ↔ k.tokens? = some ts := by
  constructor
  · intro h
    induction h with
    | done => exact tokens?_of_left_eq_nil rfl
    | next hnext _ ih => rw [tokens?_of_next? hnext, ih]; rfl
  · intro h
    induction hn : k.left.length using Nat.strong_induction_on generalizing k ts with
    | _ n ih =>
        by_cases hnil : k.left = []
        · obtain ⟨s, rawEnd⟩ := k
          cases hnil
          cases (tokens?_of_left_eq_nil rfl).symm.trans h
          exact .done
        · cases hnext : k.next? with
          | none => exact nomatch (tokens?_of_next?_eq_none hnil hnext).symm.trans h
          | some found =>
              obtain ⟨t, k'⟩ := found
              obtain ⟨front, hfront, happend⟩ := exists_append_of_next? hnext
              rw [tokens?_of_next? hnext] at h
              obtain ⟨rest, hrest, rfl⟩ := Option.map_eq_some_iff.1 h
              have hlt : k'.left.length < n := by
                rw [← hn, happend, List.length_append]
                exact Nat.lt_add_of_pos_left (List.length_pos_iff.2 hfront)
              exact .next hnext (ih _ hlt hrest rfl)

end Cursor

/-- Behind the gaps, a pass through a start tag ends it or takes something, except in front of a
blank that is no gap, where it takes nothing. So a text whose blanks are gaps is read to the end:
every start tag ends, every token takes at least one character, and the text has a forest. -/
theorem startTag_progress :
    (∀ s : List Char,
      ((pass (s.dropWhile isGap)).Closes ∨
          (pass (s.dropWhile isGap)).rest.length < (s.dropWhile isGap).length ↔
        ¬ AtStrayBlank (s.dropWhile isGap)) ∧
      (AtStrayBlank (s.dropWhile isGap) → (pass (s.dropWhile isGap)).rest = s.dropWhile isGap)) ∧
    ∀ s : List Char, Spaced s →
      (∀ read, ∃ out, Ends read s out) ∧
      (∀ rawEnd, s ≠ [] → ∃ t k front, Cursor.next? ⟨s, rawEnd⟩ = some (t, k) ∧ front ≠ [] ∧
        s = front ++ k.left) ∧
      ∃ ts, Cursor.Yields ⟨s, none⟩ ts ∧ forest? (String.ofList s) = some (forestOf ts) := by
  refine ⟨fun s => ⟨closes_or_length_lt_iff s, fun h => ?_⟩, fun s h => ⟨exists_ends h, ?_, ?_⟩⟩
  · rw [pass_of_atStrayBlank h]
    rfl
  · intro rawEnd hne
    obtain ⟨t, k, hnext⟩ := Cursor.exists_next? (k := ⟨s, rawEnd⟩) h hne
    obtain ⟨front, hfront, happend⟩ := Cursor.exists_append_of_next? hnext
    exact ⟨t, k, front, hnext, hfront, happend⟩
  · obtain ⟨ts, hts⟩ := exists_tokens? h
    refine ⟨ts, Cursor.yields_iff.2 hts, ?_⟩
    rw [forest?, String.toList_ofList, hts]
    rfl

/-- A start tag with slashes, equals signs and quotes out of place, and one with a vertical tab. -/
theorem startTag_progress_malformed :
    Spaced " /=b \"c' == d='e".toList ∧ (∃ out, Ends [] " /=b \"c' == d='e".toList out) ∧
      (pass (" \x0bb>".toList.dropWhile isGap)).rest = "\x0bb>".toList ∧
      ¬ ∃ out, Ends [] " \x0bb>".toList out := by
  have hspaced : Spaced " /=b \"c' == d='e".toList := by decide
  have hstray : AtStrayBlank (" \x0bb>".toList.dropWhile isGap) :=
    ⟨'\x0b', rfl, by decide, by decide⟩
  exact ⟨hspaced, (startTag_progress.2 _ hspaced).1 [], (startTag_progress.1 _).2 hstray,
    fun ⟨_, hends⟩ => not_ends_of_atStrayBlank hstray hends⟩

end Componentry.Markup
