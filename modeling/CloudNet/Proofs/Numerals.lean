import CloudNet.Text.Numeral
import Mathlib.Logic.Function.Basic

/-!
# Written numbers

Numbers are written without leading zeros and without a plus sign. What is written is read back, so
two numbers that are written alike are the same, and a numeral that could have been written is
what is written of its value.

* `natural?_decimal`, `integer?_signedDecimal`, `int32?_signedDecimal`: what is written is read
  back.
* `signedDecimal_injective`: numbers that are written alike are the same.
* `byte?_eq_some_iff`: what is read as a byte.
* `eq_decimal_of_natural?`: a run of digits without a leading zero is what is written of its value.
-/

namespace CloudNet.Text

/-! ## Digits -/

theorem digitIn?_digitChar : ∀ d < 10, digitIn? 10 (Nat.digitChar d) = some d := by decide

theorem toNat_of_isDigit {c : Char} (h : isDigit c = true) : 48 ≤ c.toNat ∧ c.toNat ≤ 57 := by
  unfold isDigit at h
  simp only [Bool.and_eq_true, decide_eq_true_eq] at h
  exact h

/-- A digit is no blank. -/
theorem not_isBlank_of_isDigit {c : Char} (h : isDigit c = true) : isBlank c = false := by
  obtain ⟨hlo, hhi⟩ := toNat_of_isDigit h
  unfold isBlank
  simp only [Bool.or_eq_false_iff, Bool.and_eq_false_iff, decide_eq_false_iff_not,
    beq_eq_false_iff_ne]
  omega

theorem isDigit_digitChar : ∀ d < 10, isDigit (Nat.digitChar d) = true := by decide

/-- A decimal digit is written as it was read. -/
theorem digitChar_of_digitIn? {c : Char} {d : Nat} (h : digitIn? 10 c = some d) :
    Nat.digitChar d = c := by
  obtain ⟨hvalue, hlt⟩ := Option.filter_eq_some_iff.1 h
  simp only [decide_eq_true_eq] at hlt
  unfold digitValue? at hvalue
  split at hvalue
  · next hc =>
    obtain ⟨hlo, hhi⟩ := hc
    have hlo : 48 ≤ c.toNat := hlo
    have hhi : c.toNat ≤ 57 := hhi
    have hd : c.toNat = 48 + d := by
      have hzero : '0'.toNat = 48 := rfl
      simp only [Option.some.injEq] at hvalue
      omega
    have hwritten : ∀ d < 10, Nat.digitChar d = Char.ofNat (48 + d) := by decide
    rw [hwritten d hlt, ← hd, Char.ofNat_toNat]
  · split at hvalue
    · simp only [Option.some.injEq] at hvalue
      omega
    · split at hvalue
      · simp only [Option.some.injEq] at hvalue
        omega
      · simp at hvalue

/-! ## Natural numbers -/

theorem toList_decimal (n : Nat) : (decimal n).toList = Nat.toDigits 10 n := by
  simp [decimal, Nat.repr]

/-- The digits of a number are those of its tenth and one more. -/
theorem toList_decimal_eq (n : Nat) : (decimal n).toList =
    (if n < 10 then [] else (decimal (n / 10)).toList) ++ [Nat.digitChar (n % 10)] := by
  simp only [toList_decimal]
  split
  · next h => rw [Nat.toDigits_of_lt_base h, Nat.mod_eq_of_lt h, List.nil_append]
  · next h => exact Nat.toDigits_of_base_le (by decide) (by omega)

theorem decimal_ne_nil (n : Nat) : (decimal n).toList ≠ [] := by
  rw [toList_decimal]
  exact Nat.toDigits_ne_nil

theorem isDigit_of_mem_decimal {n : Nat} {c : Char} (h : c ∈ (decimal n).toList) :
    isDigit c = true := by
  induction n using Nat.strongRecOn with
  | ind n ih =>
    rw [toList_decimal_eq] at h
    rcases List.mem_append.1 h with h | h
    · split at h
      · exact absurd h List.not_mem_nil
      · exact ih (n / 10) (by omega) h
    · rw [List.mem_singleton.1 h]
      exact isDigit_digitChar _ (Nat.mod_lt _ (by decide))

/-- A number other than zero is not written with a leading zero. -/
theorem head?_decimal_ne {n : Nat} (h : n ≠ 0) : (decimal n).toList.head? ≠ some '0' := by
  induction n using Nat.strongRecOn with
  | ind n ih =>
    rw [toList_decimal_eq]
    split
    · next hlt =>
      have hne : ∀ d < 10, d ≠ 0 → [Nat.digitChar (d % 10)].head? ≠ some '0' := by decide
      exact hne n hlt h
    · obtain ⟨c, rest, hcons⟩ := List.exists_cons_of_ne_nil (decimal_ne_nil (n / 10))
      have hfirst := ih (n / 10) (by omega) (by omega)
      rw [hcons] at hfirst ⊢
      exact hfirst

/-- One digit after others counts once, and those ten times. -/
theorem digitsOnto?_concat (s : List Char) (c : Char) (acc : Nat) :
    digitsOnto? 10 acc (s ++ [c]) =
      (digitsOnto? 10 acc s).bind fun n => (digitIn? 10 c).map (n * 10 + ·) := by
  rw [digitsOnto?_append]
  congr 1
  funext n
  cases h : digitIn? 10 c with
  | none => simp [digitsOnto?, h]
  | some d => simp [digitsOnto?, h]

theorem digitsOnto?_decimal (n : Nat) : digitsOnto? 10 0 (decimal n).toList = some n := by
  induction n using Nat.strongRecOn with
  | ind n ih =>
    rw [toList_decimal_eq, digitsOnto?_concat, digitIn?_digitChar _ (Nat.mod_lt _ (by decide))]
    split
    · next h => simp [digitsOnto?, Nat.mod_eq_of_lt h]
    · rw [ih (n / 10) (by omega)]
      simp only [Option.bind_some, Option.map_some, Option.some.injEq]
      omega

/-- **A number that is written is read back.** -/
@[simp] theorem natural?_decimal (n : Nat) : natural? 10 (decimal n).toList = some n := by
  unfold natural?
  rw [if_neg (decimal_ne_nil n), digitsOnto?_decimal]

/-- What is read as a number is made of digits. -/
theorem isDigit_of_mem_digitsOnto? {s : List Char} {acc n : Nat} (h : digitsOnto? 10 acc s = some n)
    {c : Char} (hc : c ∈ s) : isDigit c = true := by
  induction s generalizing acc with
  | nil => exact absurd hc List.not_mem_nil
  | cons d s ih =>
    obtain ⟨v, hv, hrest⟩ := Option.bind_eq_some_iff.1 h
    rcases List.mem_cons.1 hc with rfl | hc
    · rw [← digitChar_of_digitIn? hv]
      exact isDigit_digitChar _ (lt_of_digitIn? hv)
    · exact ih hrest hc

theorem isDigit_of_mem_natural? {s : List Char} {n : Nat} (h : natural? 10 s = some n) {c : Char}
    (hc : c ∈ s) : isDigit c = true := by
  unfold natural? at h
  split at h
  · simp at h
  · exact isDigit_of_mem_digitsOnto? h hc

/-- Reading digits onto a number writes them behind it. -/
theorem decimal_append_of_digitsOnto? {s : List Char} {acc n : Nat} (hacc : 0 < acc)
    (h : digitsOnto? 10 acc s = some n) : (decimal acc).toList ++ s = (decimal n).toList := by
  induction s generalizing acc with
  | nil =>
    simp only [digitsOnto?, Option.some.injEq] at h
    rw [h, List.append_nil]
  | cons c s ih =>
    obtain ⟨d, hd, hrest⟩ := Option.bind_eq_some_iff.1 h
    have hlt := lt_of_digitIn? hd
    have hstep : (decimal acc).toList ++ [c] = (decimal (acc * 10 + d)).toList := by
      rw [toList_decimal_eq (acc * 10 + d), if_neg (by omega)]
      have hdiv : (acc * 10 + d) / 10 = acc := by omega
      have hmod : (acc * 10 + d) % 10 = d := by omega
      rw [hdiv, hmod, digitChar_of_digitIn? hd]
    rw [List.append_cons, hstep]
    exact ih (by omega) hrest

/-- **A run of digits without a leading zero is what is written of its value.** -/
theorem eq_decimal_of_natural? {s : List Char} {n : Nat} (h : natural? 10 s = some n)
    (hzero : ∀ rest, s = '0' :: rest → rest = []) : s = (decimal n).toList := by
  unfold natural? at h
  cases s with
  | nil => simp at h
  | cons c rest =>
    rw [if_neg (List.cons_ne_nil c rest)] at h
    obtain ⟨d, hd, hrest⟩ := Option.bind_eq_some_iff.1 h
    have hlt := lt_of_digitIn? hd
    have hwritten : (decimal d).toList = [c] := by
      rw [toList_decimal_eq, if_pos hlt, Nat.mod_eq_of_lt hlt, digitChar_of_digitIn? hd,
        List.nil_append]
    rw [Nat.zero_mul, Nat.zero_add] at hrest
    by_cases hd0 : d = 0
    · subst hd0
      have hc : c = '0' := by
        rw [← digitChar_of_digitIn? hd]
        rfl
      rw [hzero rest (by rw [hc])] at hrest ⊢
      simp only [digitsOnto?, Option.some.injEq] at hrest
      rw [← hrest, hwritten]
    · have happend := decimal_append_of_digitsOnto? (Nat.pos_of_ne_zero hd0) hrest
      rwa [hwritten] at happend

/-- A text is read as a byte if it is read as the number of the byte. -/
theorem byte?_eq_some_iff {base : Nat} {s : List Char} {b : UInt8} :
    byte? base s = some b ↔ natural? base (dropPlus s) = some b.toNat := by
  unfold byte?
  rw [Option.map_eq_some_iff]
  constructor
  · rintro ⟨n, hn, rfl⟩
    obtain ⟨hread, hlt⟩ := Option.filter_eq_some_iff.1 hn
    rw [UInt8.toNat_ofNat_of_lt' (by simpa using hlt), hread]
  · intro hread
    refine ⟨b.toNat, Option.filter_eq_some_iff.2 ⟨hread, ?_⟩, UInt8.ofNat_toNat⟩
    exact decide_eq_true b.toNat_lt

/-! ## Integers -/

theorem toList_signedDecimal (z : Int) : (signedDecimal z).toList =
    (if z < 0 then ['-'] else []) ++ (decimal z.natAbs).toList := by
  unfold signedDecimal
  split
  · rw [String.toList_append]
    rfl
  · rfl

/-- An integer is written with digits, and a minus sign. -/
theorem mem_signedDecimal {z : Int} {c : Char} (h : c ∈ (signedDecimal z).toList) :
    c = '-' ∨ isDigit c = true := by
  rw [toList_signedDecimal] at h
  rcases List.mem_append.1 h with h | h
  · split at h
    · exact .inl (List.mem_singleton.1 h)
    · exact absurd h List.not_mem_nil
  · exact .inr (isDigit_of_mem_decimal h)

theorem notMem_signedDecimal {z : Int} {c : Char} (hminus : c ≠ '-') (hdigit : isDigit c = false) :
    c ∉ (signedDecimal z).toList := by
  intro h
  rcases mem_signedDecimal h with rfl | h
  · exact hminus rfl
  · rw [hdigit] at h
    exact absurd h (by decide)

/-- An integer is written without blanks. -/
theorem not_isBlank_of_mem_signedDecimal {z : Int} {c : Char} (h : c ∈ (signedDecimal z).toList) :
    isBlank c = false := by
  rcases mem_signedDecimal h with rfl | h
  · decide
  · exact not_isBlank_of_isDigit h

theorem signedDecimal_ne_nil (z : Int) : (signedDecimal z).toList ≠ [] := by
  rw [toList_signedDecimal]
  exact List.append_ne_nil_of_right_ne_nil _ (decimal_ne_nil _)

/-- A digit is no sign. -/
theorem ne_sign_of_isDigit {c : Char} (h : isDigit c = true) : c ≠ '-' ∧ c ≠ '+' := by
  constructor
  · rintro rfl
    exact absurd h (by decide)
  · rintro rfl
    exact absurd h (by decide)

/-- Behind a minus sign the number counts negatively. -/
theorem integer?_cons_minus (s : List Char) :
    integer? ('-' :: s) = (natural? 10 s).map fun n : Nat => -(n : Int) := by
  simp only [integer?]
  cases natural? 10 s <;> rfl

/-- A plus sign says nothing. -/
theorem integer?_cons_plus (s : List Char) :
    integer? ('+' :: s) = (natural? 10 s).map Int.ofNat := rfl

/-- Without a sign the whole text is the number. -/
theorem integer?_cons_of_ne {c : Char} (hminus : c ≠ '-') (hplus : c ≠ '+') (s : List Char) :
    integer? (c :: s) = (natural? 10 (c :: s)).map Int.ofNat := by
  unfold integer? dropPlus
  simp [hminus, hplus]

/-- **An integer that is written is read back.** -/
theorem integer?_signedDecimal (z : Int) : integer? (signedDecimal z).toList = some z := by
  rw [toList_signedDecimal]
  split
  · next h =>
    rw [List.singleton_append, integer?_cons_minus, natural?_decimal, Option.map_some,
      Option.some.injEq]
    omega
  · next h =>
    obtain ⟨c, rest, hcons⟩ := List.exists_cons_of_ne_nil (decimal_ne_nil z.natAbs)
    have hdigit : isDigit c = true := isDigit_of_mem_decimal (hcons ▸ List.mem_cons_self)
    obtain ⟨hminus, hplus⟩ := ne_sign_of_isDigit hdigit
    rw [List.nil_append, hcons, integer?_cons_of_ne hminus hplus, ← hcons, natural?_decimal]
    simp only [Option.map_some, Option.some.injEq, Int.ofNat_eq_natCast]
    omega

/-- A number of 32 bits is read back as well. -/
theorem int32?_signedDecimal (n : Int32) : int32? (signedDecimal n.toInt).toList = some n := by
  have hfits : fitsInt32 n.toInt = true := by
    have hlt := n.toInt_lt
    have hle := n.le_toInt
    unfold fitsInt32
    simp only [Bool.and_eq_true, decide_eq_true_eq]
    omega
  unfold int32?
  rw [integer?_signedDecimal, Option.filter_some_pos hfits, Option.map_some, Int32.ofInt_toInt]

/-- **Integers that are written alike are the same.** -/
theorem signedDecimal_injective : Function.Injective fun z => (signedDecimal z).toList := by
  intro a b h
  have hread := congrArg integer? h
  simp only [integer?_signedDecimal, Option.some.injEq] at hread
  exact hread

end CloudNet.Text
