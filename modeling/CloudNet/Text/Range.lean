/-!
# Ranges of characters

Classes of characters beyond ASCII, given by ranges of code points.
-/

namespace CloudNet.Text

/-- A range of code points by its ends, which belong to it. -/
abbrev CharRange := Nat × Nat

/-- The character lies in one of the ranges. -/
def inRanges (ranges : List CharRange) (c : Char) : Bool :=
  ranges.any fun (lo, hi) => lo ≤ c.toNat && c.toNat ≤ hi

/-- A character of a class lies in one of its ranges. -/
theorem inRanges_iff {ranges : List CharRange} {c : Char} :
    inRanges ranges c = true ↔ ∃ r ∈ ranges, r.1 ≤ c.toNat ∧ c.toNat ≤ r.2 := by
  simp [inRanges]

end CloudNet.Text
