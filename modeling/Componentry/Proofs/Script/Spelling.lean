import Componentry.Proofs.Script.Rendering
import Componentry.Proofs.Script.RoundTrip

/-!
# Spelling tokens

`spelling` writes tokens with a blank after each. Where the tokens are words of letters and
punctuators it is read as the same tokens (`lexemes_spelling`), so a program that is read from
tokens is also read from a text.
-/

namespace Componentry.Script

open Text

def spelling (ts : List Token) : String :=
  String.ofList (ts.flatMap fun t => t.shown.toList ++ [' '])

def Token.Spelt : Token → Prop
  | .word w => w ≠ "" ∧ ∀ c ∈ w.toList, c.isAlpha = true
  | .punct _ => True
  | _ => False

theorem isWord_of_isAlpha {w : List Char} (hne : w ≠ []) (h : ∀ c ∈ w, c.isAlpha = true) :
    IsWord w := by
  have hletter : ∀ c ∈ w, isLetter c = true := by
    intro c hc
    have hcode := toNat_of_isAlpha (h c hc)
    rw [isLetter, if_pos (by omega), h c hc]
  have hcontinues : ∀ c ∈ w, continuesWord c = true := by
    intro c hc
    rw [continuesWord, isLetterOrNumeral_of_isLetter (hletter c hc)]
    rfl
  obtain ⟨c, cs, rfl⟩ := List.exists_cons_of_ne_nil hne
  have hbegins : beginsWord c = true := by
    rw [beginsWord, hletter c List.mem_cons_self]
    rfl
  have hcs : ∀ d ∈ cs, continuesWord d = true :=
    fun d hd => hcontinues d (List.mem_cons_of_mem c hd)
  have htake := takeWhile_append_of_atWordEnd hcs .nil
  have hdrop := dropWhile_append_of_atWordEnd hcs .nil
  rw [List.append_nil] at htake hdrop
  rw [IsWord, scanWord?, if_pos hbegins, htake, hdrop]

theorem Token.Spelt.reads {t : Token} (h : t.Spelt) : Reads t.shown.toList t := by
  cases t with
  | word w =>
      have hreads := (isWord_of_isAlpha (mt String.toList_eq_nil_iff.1 h.1) h.2).reads
      rwa [String.ofList_toList] at hreads
  | punct p => exact reads_punct p
  | number | string => exact nomatch h

/-- Words of letters and punctuators are read as they are spelled. -/
theorem lexemes_spelling {ts : List Token} (h : ∀ t ∈ ts, t.Spelt) :
    ∃ ls, lexemes (spelling ts) = .ok ls ∧ ls.map Lexeme.token = ts := by
  rw [lexemes, spelling, String.toList_ofList]
  generalize byteCount _ = total
  induction ts with
  | nil => exact ⟨[], lexemesFrom_nil total, rfl⟩
  | cons t ts ih =>
      obtain ⟨ls, hls, htokens⟩ := ih fun t ht => h t (List.mem_cons_of_mem _ ht)
      rw [← lexemesFrom_blank] at hls
      have hread := (h t List.mem_cons_self).reads.lexemesFrom_eq (.cons rfl _) hls
      rw [List.flatMap_cons, List.append_assoc]
      exact ⟨_, hread, by rw [List.map_cons, htokens]⟩

namespace Program

theorem ofSource_spelling {ts : List Token} {p : Program} (h : ∀ t ∈ ts, t.Spelt)
    (hp : ofTokens ts = .ok p) : ofSource (spelling ts) = .ok p := by
  obtain ⟨ls, hls, htokens⟩ := lexemes_spelling h
  rw [ofSource, hls]
  simp only [bind, Except.bind, htokens, hp]

end Program

end Componentry.Script
