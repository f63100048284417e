import Mathlib.Data.String.Basic
import Mathlib.Tactic.SplitIfs

/-!
# Order of texts by their bytes

Texts are compared character by character. The bytes of their UTF-8 forms, compared one by one, come
in the same order. The first byte of a form grows with the length of the form, and among forms of
one length the bytes hold the digits of the character to base 64, the highest one first.

* `encode_append_lt`: of two characters the smaller one has the smaller form, whatever follows.
* `bytes_lt_iff`, `bytes_le_iff`: texts are in the order of their bytes.
-/

namespace CloudNet.Text

/-- The bytes of a text in UTF-8. -/
def bytes (s : String) : List UInt8 := s.toUTF8.data.toList

/-- The bytes of a text are those of its characters. -/
theorem bytes_eq (s : String) : bytes s = s.toList.flatMap String.utf8EncodeChar := by
  unfold bytes
  rw [String.toUTF8_eq_toByteArray, ← String.utf8Encode_toList, List.utf8Encode,
    List.data_toByteArray]

/-! ## Characters -/

/-- Numbers are in the order of their digits to base 64. -/
theorem digits_lt {m n : Nat} (h : m < n) :
    m / 262144 < n / 262144 ∨ m / 262144 = n / 262144 ∧
      (m / 4096 % 64 < n / 4096 % 64 ∨ m / 4096 % 64 = n / 4096 % 64 ∧
        (m / 64 % 64 < n / 64 % 64 ∨ m / 64 % 64 = n / 64 % 64 ∧ m % 64 < n % 64)) := by
  omega

theorem val_lt (c : Char) : c.val.toNat < 1114112 := by
  have hc : c.val.toNat = c.toNat := rfl
  obtain hlow | ⟨-, hhigh⟩ := c.valid
  · omega
  · omega

/-- **Of two characters the smaller one has the smaller form**, whatever follows. -/
theorem encode_append_lt {c d : Char} (h : c < d) (x y : List UInt8) :
    String.utf8EncodeChar c ++ x < String.utf8EncodeChar d ++ y := by
  have hlt : c.val.toNat < d.val.toNat := UInt32.lt_iff_toNat_lt.mp h
  have hdigits := digits_lt hlt
  have hd := val_lt d
  unfold String.utf8EncodeChar
  generalize c.val.toNat = m at hlt hdigits
  generalize d.val.toNat = n at hlt hdigits hd
  dsimp only
  -- one case for each pair of lengths; in none of them a byte overflows
  split_ifs <;>
    simp (disch := omega) only [List.cons_append, List.nil_append, List.cons_lt_cons_iff,
      UInt8.lt_iff_toNat_lt, ← UInt8.toNat_inj, UInt8.toNat_ofNat', Nat.reducePow,
      Nat.mod_eq_of_lt] <;>
    omega

theorem encode_ne_nil (c : Char) : String.utf8EncodeChar c ≠ [] := by
  rw [← List.length_pos_iff, String.length_utf8EncodeChar]
  exact c.utf8Size_pos

/-! ## Texts -/

theorem flatMap_encode_lt {cs ds : List Char} (h : cs < ds) :
    cs.flatMap String.utf8EncodeChar < ds.flatMap String.utf8EncodeChar := by
  induction h with
  | @nil d ds =>
    rw [List.flatMap_nil, List.flatMap_cons]
    obtain ⟨b, bs, hform⟩ := List.exists_cons_of_ne_nil (encode_ne_nil d)
    rw [hform]
    exact List.nil_lt_cons _ _
  | @cons c cs ds _ ih =>
    rw [List.flatMap_cons, List.flatMap_cons]
    exact List.append_left_lt ih
  | @rel c cs d ds hcd =>
    rw [List.flatMap_cons, List.flatMap_cons]
    exact encode_append_lt hcd _ _

/-- **Texts are in the order of their bytes.** -/
theorem bytes_lt_iff {s t : String} : bytes s < bytes t ↔ s < t := by
  have hmono : ∀ {s t : String}, s < t → bytes s < bytes t := by
    intro s t h
    rw [bytes_eq, bytes_eq]
    exact flatMap_encode_lt (String.lt_iff_toList_lt.mp h)
  refine ⟨fun h => ?_, hmono⟩
  rcases lt_trichotomy s t with hlt | rfl | hgt
  · exact hlt
  · exact absurd h (List.lt_irrefl _)
  · exact absurd h (List.lt_asymm (hmono hgt))

theorem bytes_le_iff {s t : String} : bytes s ≤ bytes t ↔ s ≤ t := by
  rw [← not_lt, ← bytes_lt_iff]
  rfl

end CloudNet.Text
