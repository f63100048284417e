import CloudNet.Address.Cidr
import Mathlib.Algebra.Order.Ring.Nat
import Mathlib.Algebra.Order.Sub.Basic
import Mathlib.Tactic.Positivity

/-!
# Masks and powers of two

What bitwise operations on addresses and sizes say about numbers. A netmask of length `n` is
`2 ^ 32 - 2 ^ (32 - n)`, and masking with it rounds down to a multiple of `2 ^ (32 - n)`.

* `toNat_netmask`, `maskLength?_eq_some_iff`: netmasks and their lengths.
* `toNat_and_netmask`: masking is rounding down.
* `Cidr.contains_iff`: an address lies in a block if both agree under the mask.
* `and_sub_one_eq_zero_iff`: a positive number that has no bit in common with its predecessor is a
  power of two; `two_pow_le_and_eq_zero_iff` counts from a given power on.
-/

namespace CloudNet

namespace Ipv4

/-! ## Netmasks -/

theorem toNat_netmask (n : UInt8) : (netmask n).toNat = 2 ^ 32 - 2 ^ (32 - n.toNat) := by
  have hpos := Nat.two_pow_pos (32 - n.toNat)
  unfold netmask
  have hlt : 0x100000000 - 2 ^ (32 - n.toNat) < UInt32.size := by
    unfold UInt32.size
    omega
  rw [Nat.one_shiftLeft, UInt32.toNat_ofNat_of_lt' hlt]
  rfl

/-- Different lengths have different netmasks. -/
theorem netmask_injective {m n : UInt8} (hm : m ≤ maxMaskLength) (hn : n ≤ maxMaskLength)
    (h : netmask m = netmask n) : m = n := by
  have hlength : ∀ {k : UInt8}, k ≤ maxMaskLength → k.toNat ≤ 32 := fun hk =>
    UInt8.le_iff_toNat_le.1 hk
  have hvalue := congrArg UInt32.toNat h
  rw [toNat_netmask, toNat_netmask] at hvalue
  have hbound : ∀ k : Nat, 2 ^ (32 - k) ≤ 2 ^ 32 := fun k =>
    Nat.pow_le_pow_right (by decide) (by omega)
  have hpow : 2 ^ (32 - m.toNat) = 2 ^ (32 - n.toNat) := by
    have hbm := hbound m.toNat
    have hbn := hbound n.toNat
    omega
  have hexp : 32 - m.toNat = 32 - n.toNat := Nat.pow_right_injective (Nat.le_refl 2) hpow
  have hlm := hlength hm
  have hln := hlength hn
  exact UInt8.toNat_inj.1 (by omega)

/-- **The length that is found for a mask** is the one of at most 32 whose netmask it is. -/
theorem maskLength?_eq_some_iff {mask : Ipv4} {n : UInt8} :
    maskLength? mask = some n ↔ n ≤ maxMaskLength ∧ netmask n = mask := by
  have hmem : ∀ k : UInt8, k ∈ (List.range 33).map UInt8.ofNat ↔ k ≤ maxMaskLength := by
    intro k
    rw [List.mem_map, UInt8.le_iff_toNat_le]
    constructor
    · rintro ⟨i, hi, rfl⟩
      rw [List.mem_range] at hi
      rw [UInt8.toNat_ofNat_of_lt' (by unfold UInt8.size; omega)]
      exact Nat.lt_succ_iff.1 hi
    · intro hk
      have hk : k.toNat ≤ 32 := hk
      exact ⟨k.toNat, List.mem_range.2 (by omega), UInt8.ofNat_toNat⟩
  constructor
  · intro h
    exact ⟨(hmem n).1 (List.mem_of_find?_eq_some h), netmask_of_maskLength? h⟩
  · rintro ⟨hn, rfl⟩
    cases hfound : maskLength? (netmask n) with
    | none =>
      have hnone := List.find?_eq_none.1 hfound n ((hmem n).2 hn)
      exact absurd hnone (by simp)
    | some k =>
      have hk := (hmem k).1 (List.mem_of_find?_eq_some hfound)
      rw [netmask_injective hk hn (netmask_of_maskLength? hfound)]

/-- A mask has a length if it is one bits followed by zero bits. -/
theorem exists_maskLength?_iff {mask : Ipv4} :
    (∃ n, maskLength? mask = some n) ↔ ∃ n ≤ 32, mask.toNat = 2 ^ 32 - 2 ^ (32 - n) := by
  constructor
  · rintro ⟨n, hfound⟩
    obtain ⟨hn, rfl⟩ := maskLength?_eq_some_iff.1 hfound
    exact ⟨n.toNat, UInt8.le_iff_toNat_le.1 hn, toNat_netmask n⟩
  · rintro ⟨n, hn, hmask⟩
    have hvalue : (UInt8.ofNat n).toNat = n :=
      UInt8.toNat_ofNat_of_lt' (by unfold UInt8.size; omega)
    refine ⟨UInt8.ofNat n, maskLength?_eq_some_iff.2 ⟨?_, ?_⟩⟩
    · rw [UInt8.le_iff_toNat_le, hvalue]
      exact hn
    · rw [← UInt32.toNat_inj, toNat_netmask, hvalue, hmask]

/-- The number of a mask is a run of one bits, shifted over the zero bits. -/
theorem two_pow_sub_two_pow {k : Nat} (hk : k ≤ 32) :
    2 ^ 32 - 2 ^ k = (2 ^ (32 - k) - 1) <<< k := by
  rw [Nat.shiftLeft_eq, Nat.sub_mul, ← Nat.pow_add]
  congr 2 <;> omega

/-- **Masking rounds down** to a multiple of a power of two. -/
theorem toNat_and_netmask (a : Ipv4) (n : UInt8) :
    (a &&& netmask n).toNat = a.toNat / 2 ^ (32 - n.toNat) * 2 ^ (32 - n.toNat) := by
  have ha : a.toNat < 2 ^ 32 := a.toNat_lt
  have hk : 32 - n.toNat ≤ 32 := by omega
  rw [UInt32.toNat_and, toNat_netmask]
  generalize a.toNat = x at ha
  generalize 32 - n.toNat = k at hk
  apply Nat.eq_of_testBit_eq
  intro i
  rw [two_pow_sub_two_pow hk, Nat.testBit_and, Nat.testBit_shiftLeft, Nat.testBit_two_pow_sub_one,
    ← Nat.shiftRight_eq_div_pow, ← Nat.shiftLeft_eq, Nat.testBit_shiftLeft, Nat.testBit_shiftRight]
  by_cases hi : k ≤ i
  · by_cases htop : i < 32
    · have hbelow : i - k < 32 - k := by omega
      simp [hi, hbelow]
    · have hzero : x.testBit i = false :=
        Nat.testBit_lt_two_pow (Nat.lt_of_lt_of_le ha (Nat.pow_le_pow_right (by decide) (by omega)))
      simp [hi, hzero]
  · simp [hi]

end Ipv4

namespace Cidr

/-- The ends of a block, the lower one a multiple of the block's size. -/
theorem toNat_hi (c : Cidr) : c.hi.toNat = c.lo.toNat + (2 ^ (32 - c.length.toNat) - 1) := by
  have hpos := Nat.two_pow_pos (32 - c.length.toNat)
  have hle : 2 ^ (32 - c.length.toNat) ≤ 2 ^ 32 := Nat.pow_le_pow_right (by decide) (by omega)
  have hrest : (~~~c.mask).toNat = 2 ^ (32 - c.length.toNat) - 1 := by
    rw [UInt32.toNat_not, mask, Ipv4.toNat_netmask]
    unfold UInt32.size
    omega
  have hlo : c.lo.toNat =
      2 ^ (32 - c.length.toNat) * (c.address.toNat / 2 ^ (32 - c.length.toNat)) := by
    rw [lo, mask, Ipv4.toNat_and_netmask, Nat.mul_comm]
  rw [hi, UInt32.toNat_or, hrest, hlo, Nat.two_pow_add_eq_or_of_lt (by omega)]

/-- **An address lies in a block** if it agrees with the block's address under the mask. -/
theorem contains_iff (c : Cidr) (a : Ipv4) :
    c.contains a = true ↔ a &&& c.mask = c.address &&& c.mask := by
  have hpos := Nat.two_pow_pos (32 - c.length.toNat)
  have hlo : c.lo.toNat =
      c.address.toNat / 2 ^ (32 - c.length.toNat) * 2 ^ (32 - c.length.toNat) := by
    rw [lo, mask, Ipv4.toNat_and_netmask]
  have hagree : a &&& c.mask = c.address &&& c.mask ↔
      a.toNat / 2 ^ (32 - c.length.toNat) = c.address.toNat / 2 ^ (32 - c.length.toNat) := by
    rw [← UInt32.toNat_inj, mask, Ipv4.toNat_and_netmask, Ipv4.toNat_and_netmask,
      Nat.mul_left_inj hpos.ne']
  rw [hagree, Nat.div_eq_iff hpos]
  unfold contains
  rw [Bool.and_eq_true, decide_eq_true_eq, decide_eq_true_eq, UInt32.le_iff_toNat_le,
    UInt32.le_iff_toNat_le, toNat_hi, hlo]
  refine and_congr_right fun _ => ?_
  omega

end Cidr

/-! ## Powers of two -/

/-- **A positive number is a power of two** if it has no bit in common with its predecessor. -/
theorem and_sub_one_eq_zero_iff {n : Int32} (hn : 0 < n.toInt) :
    n &&& (n - 1) = 0 ↔ ∃ k : Nat, n.toInt = 2 ^ k := by
  have hvalue : n.toInt = (n.toBitVec.toNat : Int) := by
    have hcond := BitVec.toInt_eq_toNat_cond n.toBitVec
    have hlt := n.toBitVec.isLt
    change n.toInt = _ at hcond
    split at hcond
    · exact hcond
    · omega
  have hne : n.toBitVec.toNat ≠ 0 := by omega
  have hpred : (n.toBitVec - 1#32).toNat = n.toBitVec.toNat - 1 := by
    have hlt := n.toBitVec.isLt
    rw [BitVec.toNat_sub]
    simp
    omega
  have hbits : n &&& (n - 1) = 0 ↔ n.toBitVec.toNat &&& (n.toBitVec.toNat - 1) = 0 := by
    rw [← Int32.toBitVec_inj, ← BitVec.toNat_inj, Int32.toBitVec_and, BitVec.toNat_and,
      Int32.toBitVec_sub, ← hpred]
    rfl
  rw [hbits, Nat.and_sub_one_eq_zero_iff_isPowerOfTwo hne, hvalue]
  unfold Nat.isPowerOfTwo
  norm_cast

/-- The powers of two from a given one on. -/
theorem two_pow_le_and_eq_zero_iff {n : Int32} {j : Nat} :
    2 ^ j ≤ n.toInt ∧ n &&& (n - 1) = 0 ↔ ∃ k, j ≤ k ∧ n.toInt = 2 ^ k := by
  have hle : ∀ k : Nat, (2 : Int) ^ j ≤ 2 ^ k ↔ j ≤ k := fun k => by
    exact_mod_cast Nat.pow_le_pow_iff_right (Nat.lt_succ_self 1)
  have hpos : ∀ k : Nat, (0 : Int) < 2 ^ k := fun k => by positivity
  constructor
  · rintro ⟨hj, hbits⟩
    obtain ⟨k, hk⟩ := (and_sub_one_eq_zero_iff (Int.lt_of_lt_of_le (hpos j) hj)).1 hbits
    exact ⟨k, (hle k).1 (hk ▸ hj), hk⟩
  · rintro ⟨k, hj, hk⟩
    have hn : 0 < n.toInt := hk ▸ hpos k
    exact ⟨hk ▸ (hle k).2 hj, (and_sub_one_eq_zero_iff hn).2 ⟨k, hk⟩⟩

end CloudNet
