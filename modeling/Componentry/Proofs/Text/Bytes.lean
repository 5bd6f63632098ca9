import Componentry.Text.Units

/-!
# Bytes of strings

`byteCount` counts the bytes of a string, and a text that is parted between two characters is
parted at a position of the string that lies between two characters too.
-/

namespace Componentry.Text

theorem byteCount_eq (cs : List Char) : byteCount cs = (String.ofList cs).utf8ByteSize := by
  induction cs with
  | nil => rfl
  | cons c cs ih =>
      rw [byteCount_cons, ih, String.ofList_cons, String.utf8ByteSize_append,
        String.utf8ByteSize_singleton]

theorem byteCount_toList (s : String) : byteCount s.toList = s.utf8ByteSize := by
  rw [byteCount_eq, String.ofList_toList]

theorem byteCount_pos {cs : List Char} (h : cs ≠ []) : 0 < byteCount cs := by
  obtain ⟨c, cs, rfl⟩ := List.exists_cons_of_ne_nil h
  rw [byteCount_cons]
  exact Nat.add_pos_left c.utf8Size_pos _

/-- The bytes of a beginning of a string end between two of its characters. -/
theorem isValid_byteCount {s : String} {front back : List Char} (h : s.toList = front ++ back) :
    (⟨byteCount front⟩ : String.Pos.Raw).IsValid s := by
  have hs : s = String.ofList front ++ String.ofList back := by
    rw [← String.ofList_append, ← h, String.ofList_toList]
  refine String.Pos.Raw.isValid_iff_exists_append.2 ⟨_, _, hs, ?_⟩
  rw [String.Pos.Raw.ext_iff, String.byteIdx_rawEndPos, byteCount_eq]

end Componentry.Text
