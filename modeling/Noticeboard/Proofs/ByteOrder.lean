import Mathlib.Data.String.Basic
import Noticeboard.Text.Utf8

/-!
# The order of texts is the order of their bytes

A character with a greater code has a greater first byte, or the same first bytes and a greater
one after them.  So two texts stand in the order of their characters exactly when their written
forms stand in the order of their bytes.
-/

namespace Noticeboard.Text.Utf8

def charBytes (c : Char) : List Nat :=
  (String.utf8EncodeChar c).map UInt8.toNat

theorem charBytes_eq (c : Char) :
    charBytes c =
      if c.toNat ≤ 127 then [c.toNat]
      else if c.toNat ≤ 2047 then [c.toNat / 64 + 192, c.toNat % 64 + 128]
      else if c.toNat ≤ 65535 then
        [c.toNat / 4096 + 224, c.toNat / 64 % 64 + 128, c.toNat % 64 + 128]
      else
        [c.toNat / 262144 + 240, c.toNat / 4096 % 64 + 128, c.toNat / 64 % 64 + 128,
          c.toNat % 64 + 128] := by
  have hcode : c.toNat < 0x110000 := by
    rcases c.valid with hlow | hhigh
    · exact Nat.lt_trans hlow (by decide)
    · exact hhigh.2
  have hval : c.val.toNat = c.toNat := rfl
  simp only [charBytes, String.utf8EncodeChar, hval]
  split_ifs <;> simp <;> omega

theorem charBytes_ne_nil (c : Char) : charBytes c ≠ [] := by
  simp [charBytes]

/-- Whatever follows, the characters decide. -/
theorem charBytes_append_lt {c d : Char} (h : c < d) (l m : List Nat) :
    charBytes c ++ l < charBytes d ++ m := by
  have hcodes : c.toNat < d.toNat := h
  rw [charBytes_eq, charBytes_eq]
  generalize c.toNat = small at *
  generalize d.toNat = great at *
  split_ifs <;> simp [List.cons_lt_cons_iff] <;> omega

theorem toList_loop_eq (bytes : ByteArray) (i : Nat) (l : List UInt8) :
    ByteArray.toList.loop bytes i l = l.reverse ++ bytes.data.toList.drop i := by
  fun_induction ByteArray.toList.loop bytes i l with
  | case1 i l h ih =>
      have hi : i < bytes.data.toList.length := by simpa using h
      rw [ih, List.drop_eq_getElem_cons hi]
      simp [ByteArray.get!, h]
  | case2 i l h =>
      have hi : bytes.data.toList.length ≤ i := by simpa using Nat.le_of_not_lt h
      simp [List.drop_eq_nil_of_le hi]

theorem encode_eq (text : String) : encode text = text.toList.flatMap charBytes := by
  have hbytes : text.toByteArray = text.toList.utf8Encode := String.utf8Encode_toList.symm
  have hlist : text.toList.utf8Encode.toList = text.toList.flatMap String.utf8EncodeChar := by
    simp [ByteArray.toList, toList_loop_eq, List.utf8Encode]
  have hcodes (l : List Char) :
      (l.flatMap String.utf8EncodeChar).map UInt8.toNat = l.flatMap charBytes := by
    rw [List.map_flatMap]
    rfl
  rw [encode, String.toUTF8_eq_toByteArray, hbytes, hlist, hcodes]

theorem flatMap_charBytes_lt {l m : List Char} (h : l < m) :
    l.flatMap charBytes < m.flatMap charBytes := by
  induction m generalizing l with
  | nil => simp at h
  | cons d m ih =>
      cases l with
      | nil =>
          obtain ⟨first, rest, hbytes⟩ := List.exists_cons_of_ne_nil (charBytes_ne_nil d)
          simp [hbytes]
      | cons c l =>
          simp only [List.flatMap_cons]
          rcases List.cons_lt_cons_iff.mp h with hless | ⟨rfl, hrest⟩
          · exact charBytes_append_lt hless _ _
          · exact List.append_left_lt (ih hrest)

theorem encode_lt_iff {s t : String} : encode s < encode t ↔ s < t := by
  have hmono {s t : String} (h : s < t) : encode s < encode t := by
    rw [encode_eq, encode_eq]
    exact flatMap_charBytes_lt (String.lt_iff.mp h)
  refine ⟨fun h => ?_, hmono⟩
  rcases lt_trichotomy s t with hless | rfl | hgreater
  · exact hless
  · exact absurd h (lt_irrefl _)
  · exact absurd (hmono hgreater) (lt_asymm h)

theorem encode_le_iff {s t : String} : encode s ≤ encode t ↔ s ≤ t := by
  rw [← not_lt, ← not_lt, encode_lt_iff]

theorem compare_isLE_iff {s t : String} :
    (Ord.compare s t).isLE = true ↔ encode s ≤ encode t := by
  rw [encode_le_iff]
  exact isLE_compareOfLessAndEq String.le_antisymm String.not_le String.le_total

end Noticeboard.Text.Utf8
