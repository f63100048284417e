import CloudNet.Text.Numeral

/-!
# Texts by their bytes

A text is kept as the bytes of its characters, one to four for each. The offset of a character is
the number of bytes before it, and the text can be cut at an offset only if no character has bytes
on both sides of it.

The integer that a text starts with can be read by offsets. The characters are scanned together with
their offsets, and the text is cut behind the last one that is taken.

* `takeBytes?_eq_some_iff`: where a text can be cut, and what is before the cut.
-/

namespace CloudNet.Text

/-- The characters of a text with their offsets, where the first one has the offset `n`. -/
def offsetsFrom : Nat → List Char → List (Nat × Char)
  | _, [] => []
  | n, c :: s => (n, c) :: offsetsFrom (n + c.utf8Size) s

/-- The first `n` bytes of a text; `none` if they end within a character or are too many. -/
def takeBytes? (s : String) (n : Nat) : Option String :=
  if h : String.Pos.Raw.IsValid s ⟨n⟩ then some (s.sliceTo ⟨⟨n⟩, h⟩).copy else none

/-- A sign in front of a numeral. -/
def isSign (c : Char) : Bool := c = '-' || c = '+'

/-- Part of the numeral that a text starts with: a digit, or a sign at the offset zero. -/
def inNumeral (entry : Nat × Char) : Bool :=
  isDigit entry.2 || (entry.1 = 0 && isSign entry.2)

/-- The offset behind the numeral that a text starts with. -/
def numeralEnd (s : String) : Nat :=
  let taken := (offsetsFrom 0 s.toList).takeWhile inNumeral
  (taken.map fun entry => entry.1 + entry.2.utf8Size).getLast?.getD 0

/-- The integer the trimmed text starts with, cut off at an offset; zero where there is none or it
is out of range, and `none` if the cut goes through a character. -/
def leadingIntByOffset? (s : String) : Option Int32 := do
  let numeral ← takeBytes? (trim s) (numeralEnd (trim s))
  return (int32? numeral.toList).getD 0

/-! ## Laws -/

/-- **A text can be cut** between its characters and at its ends, and nowhere else. -/
theorem takeBytes?_eq_some_iff {s t : String} {n : Nat} :
    takeBytes? s n = some t ↔ n = t.utf8ByteSize ∧ ∃ rest, s = t ++ rest := by
  unfold takeBytes?
  constructor
  · intro h
    split at h
    · next hvalid =>
      obtain rfl := Option.some.inj h
      have hcut := (⟨⟨n⟩, hvalid⟩ : s.Pos).splits
      exact ⟨congrArg String.Pos.Raw.byteIdx hcut.offset_eq_rawEndPos, _, hcut.eq_append⟩
    · exact absurd h (Option.some_ne_none t).symm
  · rintro ⟨rfl, rest, rfl⟩
    have hvalid : String.Pos.Raw.IsValid (t ++ rest) ⟨t.utf8ByteSize⟩ :=
      String.Pos.Raw.isValid_iff_exists_append.2 ⟨t, rest, rfl, rfl⟩
    rw [dif_pos hvalid, Option.some_inj, String.copy_sliceTo_eq_iff_exists_splits]
    exact ⟨rest, rfl, rfl⟩

end CloudNet.Text
