/-!
# Blanks, trimming and words

Text is cut at white space in the sense of Unicode's `White_Space` property: 25 characters, six
of them ASCII. All operations work on lists of characters; `Text.trim` is their form on strings.

* `trim` drops the blanks at either end; `trimStart_trimStart`: once is enough.
* `words` cuts at runs of blanks and keeps no empty word (`ne_nil_of_mem_words`).
* `cutAt` cuts at the first separator: `cutAt_eq_some`, `cutAt_eq_none_iff`.
-/

namespace CloudNet.Text

/-- The characters with the Unicode property `White_Space`. -/
def isBlank (c : Char) : Bool :=
  let n := c.toNat
  (0x9 ≤ n && n ≤ 0xD) || n == 0x20 || n == 0x85 || n == 0xA0 || n == 0x1680 ||
    (0x2000 ≤ n && n ≤ 0x200A) || n == 0x2028 || n == 0x2029 || n == 0x202F || n == 0x205F ||
    n == 0x3000

/-- The text without the blanks it starts with. -/
def trimStart (s : List Char) : List Char := s.dropWhile isBlank

/-- The text without the blanks it ends with. -/
def trimEnd (s : List Char) : List Char := (s.reverse.dropWhile isBlank).reverse

/-- The text without the blanks at either end. -/
def trimChars (s : List Char) : List Char := trimEnd (trimStart s)

/-- The string without the blanks at either end. -/
def trim (s : String) : String := String.ofList (trimChars s.toList)

/-- The string consists of blanks only. -/
def isBlankText (s : String) : Bool := s.toList.all isBlank

/-- The maximal runs of non-blank characters, in order. -/
def words (s : List Char) : List (List Char) :=
  (s.splitOnP isBlank).filter (· ≠ [])

/-- The text before and after the first `sep`, if there is one. -/
def cutAt (sep : Char) : List Char → Option (List Char × List Char)
  | [] => none
  | c :: rest =>
    if c = sep then some ([], rest)
    else (cutAt sep rest).map fun parts => (c :: parts.1, parts.2)

/-- `parts` one after the other with `sep` between neighbours. -/
def joinWith (sep : String) (parts : List String) : String := sep.intercalate parts

/-! ## Laws -/

/-- Each of core's blanks is a blank here. -/
theorem isBlank_of_isWhitespace {c : Char} (h : c.isWhitespace = true) : isBlank c = true := by
  simp only [Char.isWhitespace, Bool.or_eq_true, decide_eq_true_eq] at h
  rcases h with ((rfl | rfl) | rfl) | rfl <;> decide

/-- A text that loses nothing at its start does not start with a blank. -/
theorem trimStart_cons_of_not_blank {c : Char} {s : List Char} (h : isBlank c = false) :
    trimStart (c :: s) = c :: s := by
  simp [trimStart, h]

theorem trimStart_trimStart (s : List Char) : trimStart (trimStart s) = trimStart s := by
  induction s with
  | nil => rfl
  | cons c s ih =>
    cases h : isBlank c
    · simp [trimStart, h]
    · simpa [trimStart, h] using ih

/-- The two parts and the separator make up the text, and the first part has no separator. -/
theorem cutAt_eq_some {sep : Char} {s before after : List Char}
    (h : cutAt sep s = some (before, after)) : s = before ++ sep :: after ∧ sep ∉ before := by
  induction s generalizing before with
  | nil => simp [cutAt] at h
  | cons c s ih =>
    by_cases hc : c = sep
    · simp only [cutAt, hc, if_true, Option.some.injEq, Prod.mk.injEq] at h
      obtain ⟨rfl, rfl⟩ := h
      simp [hc]
    · simp only [cutAt, hc, if_false, Option.map_eq_some_iff, Prod.mk.injEq] at h
      obtain ⟨⟨b, a⟩, hb, rfl, rfl⟩ := h
      obtain ⟨rfl, hn⟩ := ih hb
      exact ⟨rfl, by simp [Ne.symm hc, hn]⟩

/-- There is no cut exactly where there is no separator. -/
theorem cutAt_eq_none_iff {sep : Char} {s : List Char} : cutAt sep s = none ↔ sep ∉ s := by
  induction s with
  | nil => simp [cutAt]
  | cons c s ih =>
    by_cases hc : c = sep
    · simp [cutAt, hc]
    · simp [cutAt, hc, ih, Ne.symm hc]

/-- No word is empty. -/
theorem ne_nil_of_mem_words {s w : List Char} (h : w ∈ words s) : w ≠ [] := by
  simpa using (List.mem_filter.1 h).2

end CloudNet.Text
