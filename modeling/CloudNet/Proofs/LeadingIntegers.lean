import CloudNet.Proofs.Numerals
import CloudNet.Text.Offset
import Mathlib.Data.List.Forall2
import Mathlib.Data.List.TakeWhile
import Mathlib.Data.Nat.Digits.Defs
import Mathlib.Data.String.Basic

/-!
# The integer that a text starts with

Numbers in documents may have anything behind them. What is read of such a text is the longest of
its beginnings that is an integer: digits, with a sign in front of them or none. The scan for it
takes a sign only at the very start and digits from there on. So it ends where the integer does, or
behind a sign without digits, which is no integer.

* `integer?_eq_some_iff`, `int32?_eq_some_iff`: the texts that are read as numbers.
* `IntegerText.leadingNumeral_append`, `leadsWith_iff`: the scan finds the integer at the start.
* `takeBytes?_numeralEnd`, `leadingIntByOffset?_eq`: scanning by offsets cuts no character and reads
  the same number.
* `leadingInt_exact`: what is read of any text.
-/

namespace CloudNet.Text

/-! ## Integers -/

/-- The character is the decimal digit of the value. -/
def DecimalDigit (c : Char) (v : Nat) : Prop := (c, v) ∈ "0123456789".toList.zipIdx

instance (c : Char) (v : Nat) : Decidable (DecimalDigit c v) := inferInstanceAs (Decidable (_ ∈ _))

/-- One or more digits of a number to base ten, the highest one first. -/
def DigitRun (s : List Char) (n : Nat) : Prop :=
  s ≠ [] ∧ ∃ vs, List.Forall₂ DecimalDigit s vs ∧ n = Nat.ofDigits 10 vs.reverse

/-- The text of an integer: a run of digits, with a sign in front of it or none. -/
inductive IntegerText : List Char → Int → Prop where
  | unsigned {s : List Char} {n : Nat} (h : DigitRun s n) : IntegerText s n
  | plus {s : List Char} {n : Nat} (h : DigitRun s n) : IntegerText ('+' :: s) n
  | minus {s : List Char} {n : Nat} (h : DigitRun s n) : IntegerText ('-' :: s) (-n)

/-- The longest beginning of the text that is an integer is the text of `z`. -/
def LeadsWith (s : List Char) (z : Int) : Prop :=
  ∃ numeral, numeral <+: s ∧ IntegerText numeral z ∧
    ∀ p v, p <+: s → IntegerText p v → p.length ≤ numeral.length

/-! ## Digits -/

theorem exists_decimalDigit {c : Char} (h : isDigit c = true) : ∃ v, DecimalDigit c v := by
  obtain ⟨hlo, hhi⟩ := toNat_of_isDigit h
  have hdigits : ∀ k < 10, DecimalDigit (Char.ofNat (48 + k)) k := by decide
  have hc := hdigits (c.toNat - 48) (by omega)
  rw [Nat.add_sub_cancel' hlo, Char.ofNat_toNat] at hc
  exact ⟨_, hc⟩

/-- **The digits to base ten** are the decimal digits. -/
theorem digitIn?_ten_eq_some_iff {c : Char} {v : Nat} :
    digitIn? 10 c = some v ↔ DecimalDigit c v := by
  constructor
  · intro h
    have hdigits : ∀ d < 10, DecimalDigit (Nat.digitChar d) d := by decide
    rw [← digitChar_of_digitIn? h]
    exact hdigits v (lt_of_digitIn? h)
  · intro h
    have hdigits : ∀ d ∈ "0123456789".toList.zipIdx, digitIn? 10 d.1 = some d.2 := by decide
    exact hdigits (c, v) h

/-- Digits are read one after the other onto the number before them. -/
theorem digitsOnto?_eq_some_iff {s : List Char} {acc n : Nat} :
    digitsOnto? 10 acc s = some n ↔
      ∃ vs, List.Forall₂ DecimalDigit s vs ∧ n = vs.foldl (fun m v => v + 10 * m) acc := by
  induction s generalizing acc with
  | nil =>
    simp only [digitsOnto?, List.forall₂_nil_left_iff, exists_eq_left, List.foldl_nil,
      Option.some_inj, eq_comm]
  | cons c s ih =>
    unfold digitsOnto?
    rw [Option.bind_eq_some_iff]
    constructor
    · rintro ⟨v, hv, hrest⟩
      obtain ⟨vs, hvs, hn⟩ := ih.1 hrest
      rw [Nat.mul_comm, Nat.add_comm] at hn
      exact ⟨v :: vs, .cons (digitIn?_ten_eq_some_iff.1 hv) hvs, hn⟩
    · rintro ⟨_, hdigits, hn⟩
      obtain ⟨v, vs, hv, hvs, rfl⟩ := List.forall₂_cons_left_iff.1 hdigits
      refine ⟨v, digitIn?_ten_eq_some_iff.2 hv, ih.2 ⟨vs, hvs, ?_⟩⟩
      rw [Nat.mul_comm, Nat.add_comm]
      exact hn

/-- **Runs of digits** are what is read as a natural number. -/
theorem natural?_eq_some_iff {s : List Char} {n : Nat} :
    natural? 10 s = some n ↔ DigitRun s n := by
  have hvalue : ∀ vs : List Nat,
      Nat.ofDigits 10 vs.reverse = vs.foldl (fun m v => v + 10 * m) 0 := fun vs => by
    rw [Nat.ofDigits_eq_foldr, List.foldr_reverse]
    rfl
  unfold natural? DigitRun
  simp only [hvalue, ← digitsOnto?_eq_some_iff]
  rw [Option.ite_none_left_eq_some]

/-- The characters of a run of digits. -/
theorem DigitRun.forall_isDigit {s : List Char} {n : Nat} (h : DigitRun s n) :
    ∀ c ∈ s, isDigit c = true := fun _ =>
  isDigit_of_mem_natural? (natural?_eq_some_iff.2 h)

/-- Digits are the digits of some number. -/
theorem exists_digitRun {s : List Char} (hne : s ≠ []) (h : ∀ c ∈ s, isDigit c = true) :
    ∃ n, DigitRun s n := by
  suffices hvalues : ∃ vs, List.Forall₂ DecimalDigit s vs by
    obtain ⟨vs, hvs⟩ := hvalues
    exact ⟨_, hne, vs, hvs, rfl⟩
  clear hne
  induction s with
  | nil => exact ⟨[], .nil⟩
  | cons c s ih =>
    obtain ⟨v, hv⟩ := exists_decimalDigit (h c List.mem_cons_self)
    obtain ⟨vs, hvs⟩ := ih fun d hd => h d (List.mem_cons_of_mem c hd)
    exact ⟨v :: vs, .cons hv hvs⟩

/-- With more digits behind it a run of digits is another one. -/
theorem DigitRun.append {s ds : List Char} {n : Nat} (h : DigitRun s n)
    (hds : ∀ c ∈ ds, isDigit c = true) : ∃ m, DigitRun (s ++ ds) m :=
  exists_digitRun (List.append_ne_nil_of_left_ne_nil h.1 ds)
    (List.forall_mem_append.2 ⟨h.forall_isDigit, hds⟩)

/-! ## What is read as a number -/

/-- **The texts of integers** are what is read as an integer. -/
theorem integer?_eq_some_iff {s : List Char} {z : Int} :
    integer? s = some z ↔ IntegerText s z := by
  constructor
  · intro h
    cases s with
    | nil => exact absurd h (Option.some_ne_none z).symm
    | cons c s =>
      by_cases hminus : c = '-'
      · rw [hminus, integer?_cons_minus] at h
        obtain ⟨n, hn, rfl⟩ := Option.map_eq_some_iff.1 h
        exact hminus ▸ .minus (natural?_eq_some_iff.1 hn)
      · by_cases hplus : c = '+'
        · rw [hplus, integer?_cons_plus] at h
          obtain ⟨n, hn, rfl⟩ := Option.map_eq_some_iff.1 h
          exact hplus ▸ .plus (natural?_eq_some_iff.1 hn)
        · rw [integer?_cons_of_ne hminus hplus] at h
          obtain ⟨n, hn, rfl⟩ := Option.map_eq_some_iff.1 h
          exact .unsigned (natural?_eq_some_iff.1 hn)
  · intro h
    cases h with
    | unsigned h =>
      obtain ⟨c, s, rfl⟩ := List.exists_cons_of_ne_nil h.1
      obtain ⟨hminus, hplus⟩ := ne_sign_of_isDigit (h.forall_isDigit c List.mem_cons_self)
      rw [integer?_cons_of_ne hminus hplus, natural?_eq_some_iff.2 h]
      rfl
    | plus h =>
      rw [integer?_cons_plus, natural?_eq_some_iff.2 h]
      rfl
    | minus h =>
      rw [integer?_cons_minus, natural?_eq_some_iff.2 h]
      rfl

theorem fitsInt32_iff {z : Int} : fitsInt32 z = true ↔ -2 ^ 31 ≤ z ∧ z < 2 ^ 31 := by
  unfold fitsInt32
  simp only [Bool.and_eq_true, decide_eq_true_eq]
  omega

/-- A number of 32 bits is an integer in their range. -/
theorem map_toInt_int32? (s : List Char) :
    (int32? s).map Int32.toInt = (integer? s).filter fitsInt32 := by
  unfold int32?
  cases h : (integer? s).filter fitsInt32 with
  | none => rfl
  | some z =>
    obtain ⟨hlo, hhi⟩ := fitsInt32_iff.1 (Option.filter_eq_some_iff.1 h).2
    exact congrArg some (Int32.toInt_ofInt_of_le hlo hhi)

/-- **A number of 32 bits** is read from the text of an integer in their range. -/
theorem int32?_eq_some_iff {s : List Char} {z : Int} :
    (int32? s).map Int32.toInt = some z ↔ IntegerText s z ∧ -2 ^ 31 ≤ z ∧ z < 2 ^ 31 := by
  rw [map_toInt_int32?, Option.filter_eq_some_iff, integer?_eq_some_iff, fitsInt32_iff]

/-! ## The numeral at the start of a text -/

/-- **A numeral goes on with digits** behind its first character, which may be a sign. -/
theorem leadingNumeral_cons (c : Char) (s : List Char) : leadingNumeral (c :: s) =
    if isDigit c || isSign c then c :: s.takeWhile isDigit else [] := by
  unfold leadingNumeral
  split
  · next h =>
    obtain ⟨rfl, rfl⟩ := List.cons_eq_cons.1 h
    rfl
  · next h =>
    obtain ⟨rfl, rfl⟩ := List.cons_eq_cons.1 h
    rfl
  · next hminus hplus =>
    have hsign : isSign c = false := by
      unfold isSign
      simp only [Bool.or_eq_false_iff, decide_eq_false_iff_not]
      exact ⟨fun h => hminus s (h ▸ rfl), fun h => hplus s (h ▸ rfl)⟩
    rw [List.takeWhile_cons, hsign, Bool.or_false]

theorem leadingNumeral_isPrefix (s : List Char) : leadingNumeral s <+: s := by
  cases s with
  | nil => exact List.nil_prefix
  | cons c s =>
    rw [leadingNumeral_cons]
    split
    · exact List.cons_prefix_cons.2 ⟨rfl, List.takeWhile_prefix _⟩
    · exact List.nil_prefix

/-- **An integer is taken together with the digits behind it.** -/
theorem IntegerText.leadingNumeral_append {p : List Char} {z : Int} (h : IntegerText p z)
    (rest : List Char) : leadingNumeral (p ++ rest) = p ++ rest.takeWhile isDigit := by
  cases h with
  | unsigned h =>
    obtain ⟨c, s, rfl⟩ := List.exists_cons_of_ne_nil h.1
    obtain ⟨hc, hs⟩ := List.forall_mem_cons.1 h.forall_isDigit
    rw [List.cons_append, leadingNumeral_cons, hc, Bool.true_or, if_pos rfl,
      List.takeWhile_append_of_pos hs, List.cons_append]
  | plus h => exact congrArg ('+' :: ·) (List.takeWhile_append_of_pos h.forall_isDigit)
  | minus h => exact congrArg ('-' :: ·) (List.takeWhile_append_of_pos h.forall_isDigit)

/-- With more digits behind it an integer is another one. -/
theorem IntegerText.append {p ds : List Char} {z : Int} (h : IntegerText p z)
    (hds : ∀ c ∈ ds, isDigit c = true) : ∃ v, IntegerText (p ++ ds) v := by
  cases h with
  | unsigned h =>
    obtain ⟨m, hm⟩ := h.append hds
    exact ⟨_, .unsigned hm⟩
  | plus h =>
    obtain ⟨m, hm⟩ := h.append hds
    exact ⟨_, .plus hm⟩
  | minus h =>
    obtain ⟨m, hm⟩ := h.append hds
    exact ⟨_, .minus hm⟩

/-- **The integer that a text starts with** is the numeral that is scanned. -/
theorem leadsWith_iff {s : List Char} {z : Int} :
    LeadsWith s z ↔ IntegerText (leadingNumeral s) z := by
  constructor
  · rintro ⟨numeral, ⟨rest, rfl⟩, hz, hlongest⟩
    -- what is scanned is an integer as well, so it is no longer than the longest one
    obtain ⟨v, hv⟩ := hz.append fun c hc => List.mem_takeWhile_imp (l := rest) hc
    rw [← hz.leadingNumeral_append rest] at hv
    have hlength := hlongest _ v (leadingNumeral_isPrefix _) hv
    rw [hz.leadingNumeral_append rest] at hlength ⊢
    rwa [← (List.prefix_append numeral _).eq_of_length_le hlength]
  · intro hz
    refine ⟨_, leadingNumeral_isPrefix s, hz, ?_⟩
    rintro p v ⟨rest, rfl⟩ hv
    rw [hv.leadingNumeral_append rest]
    exact (List.prefix_append p _).length_le

/-! ## Scanning by offsets -/

/-- Behind the start of a text only digits are taken. -/
theorem takeWhile_offsetsFrom {n : Nat} (hn : 0 < n) (s : List Char) :
    (offsetsFrom n s).takeWhile inNumeral = offsetsFrom n (s.takeWhile isDigit) := by
  induction s generalizing n with
  | nil => rfl
  | cons c s ih =>
    have htaken : inNumeral (n, c) = isDigit c := by
      simp [inNumeral, Nat.ne_of_gt hn]
    rw [offsetsFrom, List.takeWhile_cons, List.takeWhile_cons, htaken]
    split
    · rw [ih (Nat.add_pos_left hn _), offsetsFrom]
    · rfl

/-- What is taken of a text is its numeral. -/
theorem takeWhile_offsetsFrom_zero (s : List Char) :
    (offsetsFrom 0 s).takeWhile inNumeral = offsetsFrom 0 (leadingNumeral s) := by
  cases s with
  | nil => rfl
  | cons c s =>
    have htaken : inNumeral (0, c) = (isDigit c || isSign c) := by simp [inNumeral]
    rw [offsetsFrom, List.takeWhile_cons, leadingNumeral_cons, htaken]
    split
    · -- the first character has at least one byte, so no other one is at the offset zero
      rw [takeWhile_offsetsFrom (Nat.add_pos_right 0 c.utf8Size_pos), offsetsFrom]
    · rfl

/-- Behind the last character are the bytes of all of them. -/
theorem getLast?_offsetsFrom (n : Nat) (s : List Char) :
    ((offsetsFrom n s).map fun entry => entry.1 + entry.2.utf8Size).getLast?.getD n =
      n + String.utf8Len s := by
  induction s generalizing n with
  | nil => rfl
  | cons c s ih =>
    rw [offsetsFrom, List.map_cons, List.getLast?_cons, Option.getD_some, ih, String.utf8Len_cons]
    omega

/-- **The numeral ends** behind the bytes of its characters. -/
theorem numeralEnd_eq (s : String) :
    numeralEnd s = (String.ofList (leadingNumeral s.toList)).utf8ByteSize := by
  unfold numeralEnd
  rw [takeWhile_offsetsFrom_zero, getLast?_offsetsFrom, String.utf8ByteSize_ofList, Nat.zero_add]

/-- **No character is cut** when the numeral is cut off at its offset. -/
theorem takeBytes?_numeralEnd (s : String) :
    takeBytes? s (numeralEnd s) = some (String.ofList (leadingNumeral s.toList)) := by
  obtain ⟨rest, hrest⟩ := leadingNumeral_isPrefix s.toList
  refine takeBytes?_eq_some_iff.2 ⟨numeralEnd_eq s, String.ofList rest, ?_⟩
  rw [← String.ofList_append, hrest, String.ofList_toList]

/-- **Scanning by offsets reads the same number.** -/
theorem leadingIntByOffset?_eq (s : String) : leadingIntByOffset? s = some (leadingInt s) := by
  unfold leadingIntByOffset? leadingInt
  rw [takeBytes?_numeralEnd]
  unfold trim
  rw [Option.bind_eq_bind, Option.bind_some, String.toList_ofList, String.toList_ofList]
  rfl

/-- **The integer that a text starts with is read exactly**, whatever its characters are.
The scan by offsets cuts no character and reads the same number. The number is the value of the
longest beginning of the trimmed text that is an integer, if there is one and its value has 32
bits, and otherwise it is zero. -/
theorem leadingInt_exact (s : String) :
    leadingIntByOffset? s = some (leadingInt s) ∧
    ∀ z : Int, (leadingInt s).toInt = z ↔
      (LeadsWith (trimChars s.toList) z ∧ -2 ^ 31 ≤ z ∧ z < 2 ^ 31) ∨
      (z = 0 ∧ ¬ ∃ v, LeadsWith (trimChars s.toList) v ∧ -2 ^ 31 ≤ v ∧ v < 2 ^ 31) := by
  refine ⟨leadingIntByOffset?_eq s, fun z => ?_⟩
  simp only [leadsWith_iff, ← int32?_eq_some_iff]
  unfold leadingInt
  cases int32? (leadingNumeral (trimChars s.toList)) with
  | none => simp [eq_comm]
  | some n => simp

/-- The least number is read, whatever stands behind it, and one less is none. -/
example : leadingInt " -2147483648€" = -2147483648 ∧ leadingInt "-2147483649" = 0 := by
  decide +kernel

end CloudNet.Text
