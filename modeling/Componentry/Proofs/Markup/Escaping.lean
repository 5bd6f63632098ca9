import Componentry.Markup.Written
import Componentry.Markup.Entity
import Componentry.Proofs.Text.Breaking

/-!
# Escaping is undone by decoding

Texts and attribute values escape different characters, but both write a character either as itself,
if it is no ampersand, or as an entity that stands for it. `Escaping` is that property of a
way to write characters, and `decode_flatMap` says that it is enough: the written text decodes to
the text.
-/

namespace Componentry.Markup

open Componentry.Text

/-- Up to its first ampersand a text stands for itself. -/
theorem decode_append_of_not_mem {s : List Char} (h : '&' ∉ s) (r : List Char) :
    decode (s ++ r) = s ++ decode r := by
  induction s with
  | nil => rfl
  | cons c s ih =>
      rw [List.mem_cons, not_or] at h
      rw [List.cons_append, decode_cons_of_ne (Ne.symm h.1), ih h.2]
      rfl

/-- Each character is written as itself, if it is no ampersand, or as an entity of its own. -/
def Escaping (write : Char → List Char) : Prop :=
  ∀ c, (c ≠ '&' ∧ write c = [c]) ∨
    ∃ name, ';' ∉ name ∧ entity? name = some c ∧ write c = '&' :: name ++ [';']

theorem decode_entity {name : List Char} {c : Char} (hname : ';' ∉ name)
    (hc : entity? name = some c) (s : List Char) :
    decode ('&' :: name ++ ';' :: s) = c :: decode s := by
  have hbreak : breakOn? [';'] (name ++ ';' :: s) = some (name, s) :=
    breakOn?_singleton_append hname s
  rw [List.cons_append, decode.eq_def]
  simp only [↓reduceIte]
  split
  · next name' rest h =>
      rw [hbreak] at h
      cases h
      rw [hc]
  · next h =>
      rw [hbreak] at h
      cases h

theorem Escaping.decode_append {write : Char → List Char} (h : Escaping write) (c : Char)
    (s : List Char) : decode (write c ++ s) = c :: decode s := by
  rcases h c with ⟨hne, hw⟩ | ⟨name, hname, hc, hw⟩
  · rw [hw]
    exact decode_cons_of_ne hne s
  · rw [hw, List.append_assoc]
    exact decode_entity hname hc s

/-- What is written with escapes decodes to itself. -/
theorem Escaping.decode_flatMap {write : Char → List Char} (h : Escaping write)
    (s : List Char) : decode (s.flatMap write) = s := by
  induction s with
  | nil => exact decode_nil
  | cons c s ih => rw [List.flatMap_cons, h.decode_append, ih]

theorem escaping_escapeChar : Escaping escapeChar := by
  intro c
  unfold escapeChar
  split
  · next h => exact .inr ⟨['a', 'm', 'p'], by decide, by rw [h]; decide, rfl⟩
  split
  · next h => exact .inr ⟨['l', 't'], by decide, by rw [h]; decide, rfl⟩
  split
  · next h => exact .inr ⟨['g', 't'], by decide, by rw [h]; decide, rfl⟩
  · next hamp _ _ => exact .inl ⟨hamp, rfl⟩

theorem escaping_escapeQuotedChar : Escaping escapeQuotedChar := by
  intro c
  unfold escapeQuotedChar
  split
  · next h => exact .inr ⟨['a', 'm', 'p'], by decide, by rw [h]; decide, rfl⟩
  split
  · next h => exact .inr ⟨['q', 'u', 'o', 't'], by decide, by rw [h]; decide, rfl⟩
  · next hamp _ => exact .inl ⟨hamp, rfl⟩

theorem decode_escape (s : String) : decode (escape s) = s.toList :=
  escaping_escapeChar.decode_flatMap s.toList

theorem decode_escapeQuoted (s : String) : decode (escapeQuoted s) = s.toList :=
  escaping_escapeQuotedChar.decode_flatMap s.toList

/-- No tag begins in an escaped text. -/
theorem not_mem_escape (s : String) : '<' ∉ escape s := by
  intro h
  obtain ⟨c, -, hc⟩ := List.mem_flatMap.1 h
  unfold escapeChar at hc
  split at hc
  · exact absurd hc (by decide)
  split at hc
  · exact absurd hc (by decide)
  split at hc
  · exact absurd hc (by decide)
  · next _ hlt _ => exact hlt (List.mem_singleton.1 hc).symm

/-- An escaped attribute value does not end before its quote. -/
theorem not_mem_escapeQuoted (s : String) : '"' ∉ escapeQuoted s := by
  intro h
  obtain ⟨c, -, hc⟩ := List.mem_flatMap.1 h
  unfold escapeQuotedChar at hc
  split at hc
  · exact absurd hc (by decide)
  split at hc
  · exact absurd hc (by decide)
  · next _ hq => exact hq (List.mem_singleton.1 hc).symm

theorem escapeChar_ne_nil (c : Char) : escapeChar c ≠ [] := by
  rcases escaping_escapeChar c with ⟨-, h⟩ | ⟨name, -, -, h⟩ <;> simp [h]

theorem escape_ne_nil {s : String} (h : s ≠ "") : escape s ≠ [] := by
  unfold escape
  cases hs : s.toList with
  | nil => exact absurd (String.toList_eq_nil_iff.1 hs) h
  | cons c cs => simp [escapeChar_ne_nil]

end Componentry.Markup
