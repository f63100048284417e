import CloudNet.Proofs.WellFormedModels

/-!
# The bits of addresses

Masks and blocks are about bits: a mask of length `n` is `n` one bits followed by zero bits, and a
block of length `n` holds the addresses that agree with its own on their first `n` bits. Neither is
computed bit by bit. A mask is made by shifts, its length is looked for among all masks or counted
from the top, and an address is compared with the ends of a block.

* `bits_netmask`, `maskLength?_eq_some_iff_bits`: the bits of masks.
* `maskLength?_eq_countedLength?`: counting the leading one bits finds the same lengths.
* `Cidr.contains_iff_take_bits`: the bits that decide whether an address is in a block.
* `subnet_checks_bitwise`: both in the rules for a declared subnet.
-/

namespace CloudNet

namespace Ipv4

/-- The bits of an address, the highest one first. -/
def bits (a : Ipv4) : List Bool := (List.range 32).map a.toBitVec.getMsbD

/-- The address is `n` one bits followed by zero bits. -/
def OnesThenZeros (a : Ipv4) (n : Nat) : Prop :=
  a.bits = List.replicate n true ++ List.replicate (32 - n) false

/-- The number of one bits that an address starts with. -/
def leadingOnes (a : Ipv4) : Nat := (a.bits.takeWhile id).length

/-- The mask of a length by shifts: 32 one bits in a word of 64 bits are moved down by the number
of zero bits that the mask ends with, and up again. -/
def shiftedMask (n : UInt8) : Ipv4 :=
  ((0xFFFFFFFF >>> (32 - n).toUInt64 <<< (32 - n).toUInt64 : UInt64)).toUInt32

/-- The length of a mask by counting: as many one bits as it starts with, if these are all. -/
def countedLength? (mask : Ipv4) : Option UInt8 :=
  let n := UInt8.ofNat mask.leadingOnes
  if n ≤ maxMaskLength ∧ shiftedMask n = mask then some n else none

/-! ## Addresses and their bits -/

@[simp] theorem length_bits (a : Ipv4) : a.bits.length = 32 := by
  unfold bits
  rw [List.length_map, List.length_range]

theorem getElem_bits (a : Ipv4) {i : Nat} (hi : i < a.bits.length) :
    a.bits[i] = a.toBitVec.getMsbD i := by
  simp only [bits, List.getElem_map, List.getElem_range]

/-- **An address is known by its bits.** -/
theorem bits_injective {a b : Ipv4} (h : a.bits = b.bits) : a = b := by
  refine UInt32.toBitVec_inj.1 (BitVec.eq_of_getMsbD_eq fun i hi => ?_)
  have hia : i < a.bits.length := by rwa [length_bits]
  have hib : i < b.bits.length := by rwa [length_bits]
  rw [← getElem_bits a hia, ← getElem_bits b hib]
  simp only [h]

/-- Addresses agree on their first bits exactly if they agree at each of these places. -/
theorem take_bits_eq_iff {a b : Ipv4} {n : Nat} (hn : n ≤ 32) :
    a.bits.take n = b.bits.take n ↔ ∀ i < n, a.toBitVec.getMsbD i = b.toBitVec.getMsbD i := by
  constructor
  · intro h i hi
    have hia : i < a.bits.length := by rw [length_bits]; omega
    have hib : i < b.bits.length := by rw [length_bits]; omega
    have hplace := congrArg (·[i]?) h
    simp only [List.getElem?_take_of_lt hi, List.getElem?_eq_getElem hia,
      List.getElem?_eq_getElem hib, Option.some.injEq] at hplace
    rwa [getElem_bits, getElem_bits] at hplace
  · intro h
    refine List.ext_getElem (by simp) fun i hia hib => ?_
    have hi : i < n := by
      rw [List.length_take] at hia
      omega
    rw [List.getElem_take, List.getElem_take, getElem_bits, getElem_bits, h i hi]

/-! ## Masks -/

/-- The bit of a mask at a place, counted from the top. -/
theorem getMsbD_netmask (n : UInt8) (i : Nat) :
    (netmask n).toBitVec.getMsbD i = decide (i < n.toNat ∧ i < 32) := by
  rw [BitVec.getMsbD_eq_getLsbD, ← BitVec.testBit_toNat, UInt32.toNat_toBitVec, toNat_netmask,
    two_pow_sub_two_pow (by omega), Nat.testBit_shiftLeft, Nat.testBit_two_pow_sub_one]
  by_cases htop : i < 32
  · by_cases hone : i < n.toNat
    · have hshift : 32 - n.toNat ≤ 31 - i := by omega
      have hbelow : 31 - i - (32 - n.toNat) < 32 - (32 - n.toNat) := by omega
      simp [htop, hone, hshift, hbelow]
    · have hshift : ¬ 32 - n.toNat ≤ 31 - i := by omega
      simp [hone, hshift]
  · simp [htop]

/-- **A mask is so many one bits followed by zero bits.** -/
theorem bits_netmask {n : UInt8} (hn : n ≤ maxMaskLength) : (netmask n).OnesThenZeros n.toNat := by
  have hle : n.toNat ≤ 32 := UInt8.le_iff_toNat_le.1 hn
  refine List.ext_getElem (by simp; omega) fun i hi _ => ?_
  rw [length_bits] at hi
  rw [getElem_bits, getMsbD_netmask, List.getElem_append]
  by_cases hone : i < n.toNat
  · simp [hone, hi]
  · simp [hone]

/-- **The length that is found for a mask** is the number of its one bits, if zero bits follow. -/
theorem maskLength?_eq_some_iff_bits {mask : Ipv4} {n : UInt8} :
    maskLength? mask = some n ↔ n ≤ maxMaskLength ∧ mask.OnesThenZeros n.toNat := by
  rw [maskLength?_eq_some_iff]
  refine and_congr_right fun hn => ⟨fun h => h ▸ bits_netmask hn, fun h => ?_⟩
  exact bits_injective ((bits_netmask hn).trans h.symm)

/-- A mask has a length if it is one bits followed by zero bits. -/
theorem exists_maskLength?_iff_bits {mask : Ipv4} :
    (∃ n, maskLength? mask = some n) ↔ ∃ n ≤ 32, mask.OnesThenZeros n := by
  constructor
  · rintro ⟨n, hfound⟩
    obtain ⟨hn, hbits⟩ := maskLength?_eq_some_iff_bits.1 hfound
    exact ⟨n.toNat, UInt8.le_iff_toNat_le.1 hn, hbits⟩
  · rintro ⟨n, hn, hbits⟩
    have hvalue : (UInt8.ofNat n).toNat = n :=
      UInt8.toNat_ofNat_of_lt' (by unfold UInt8.size; omega)
    refine ⟨UInt8.ofNat n, maskLength?_eq_some_iff_bits.2 ⟨?_, ?_⟩⟩
    · rw [UInt8.le_iff_toNat_le, hvalue]
      exact hn
    · rwa [hvalue]

/-! ## Shifting and counting -/

/-- **Shifting gives the masks**, those of no and of all bits included. -/
theorem shiftedMask_eq {n : UInt8} (hn : n ≤ maxMaskLength) : shiftedMask n = netmask n := by
  have hshift : (32 - n).toUInt64.toNat = 32 - n.toNat := by
    rw [UInt8.toNat_toUInt64]
    exact UInt8.toNat_sub_of_le _ _ hn
  have hk : 32 - n.toNat ≤ 32 := by omega
  have hmask := toNat_netmask n
  rw [← UInt32.toNat_inj, hmask]
  unfold shiftedMask
  rw [UInt64.toNat_toUInt32, UInt64.toNat_shiftLeft, UInt64.toNat_shiftRight, hshift]
  generalize 32 - n.toNat = k at hk
  have hpos := Nat.two_pow_pos k
  -- the word has room for the bits that are moved up again, and they end below the 32nd
  have hdown : (0xFFFFFFFF : UInt64).toNat >>> (k % 64) = 2 ^ (32 - k) - 1 := by
    apply Nat.eq_of_testBit_eq
    intro i
    show ((2 ^ 32 - 1) >>> (k % 64)).testBit i = _
    rw [Nat.mod_eq_of_lt (by omega), Nat.testBit_shiftRight, Nat.testBit_two_pow_sub_one,
      Nat.testBit_two_pow_sub_one]
    congr 1
    apply propext
    omega
  rw [hdown, Nat.mod_eq_of_lt (show k < 64 by omega), ← two_pow_sub_two_pow hk]
  omega

/-- The one bits of a mask are those that it starts with. -/
theorem OnesThenZeros.leadingOnes_eq {a : Ipv4} {n : Nat} (h : a.OnesThenZeros n) :
    a.leadingOnes = n := by
  unfold leadingOnes
  rw [h, List.takeWhile_append_of_pos (by simp), List.takeWhile_replicate]
  simp

theorem countedLength?_eq_some_iff {mask : Ipv4} {n : UInt8} :
    countedLength? mask = some n ↔ n = UInt8.ofNat mask.leadingOnes ∧ maskLength? mask = some n := by
  unfold countedLength?
  dsimp only
  rw [maskLength?_eq_some_iff]
  constructor
  · intro h
    split at h
    · next hmask =>
      obtain rfl := Option.some.inj h
      exact ⟨rfl, hmask.1, shiftedMask_eq hmask.1 ▸ hmask.2⟩
    · exact absurd h (Option.some_ne_none n).symm
  · rintro ⟨rfl, hn, hmask⟩
    rw [if_pos ⟨hn, (shiftedMask_eq hn).trans hmask⟩]

/-- **Counting the leading one bits finds the same lengths** as looking among all masks. -/
theorem maskLength?_eq_countedLength? (mask : Ipv4) : maskLength? mask = countedLength? mask := by
  apply Option.ext
  intro n
  rw [countedLength?_eq_some_iff]
  refine ⟨fun h => ⟨?_, h⟩, fun h => h.2⟩
  obtain ⟨-, hbits⟩ := maskLength?_eq_some_iff_bits.1 h
  rw [hbits.leadingOnes_eq, UInt8.ofNat_toNat]

/-! ## Agreeing under a mask -/

/-- Addresses agree under a mask exactly if they agree on so many first bits. -/
theorem and_netmask_eq_iff {a b : Ipv4} {n : UInt8} (hn : n ≤ maxMaskLength) :
    a &&& netmask n = b &&& netmask n ↔ a.bits.take n.toNat = b.bits.take n.toNat := by
  have hle : n.toNat ≤ 32 := UInt8.le_iff_toNat_le.1 hn
  have hbit : ∀ (x : Ipv4) (i : Nat), (x &&& netmask n).toBitVec.getMsbD i =
      (x.toBitVec.getMsbD i && decide (i < n.toNat ∧ i < 32)) := by
    intro x i
    rw [UInt32.toBitVec_and, BitVec.getMsbD_and, getMsbD_netmask]
  rw [take_bits_eq_iff hle]
  constructor
  · intro h i hi
    have hin : i < n.toNat ∧ i < 32 := ⟨hi, by omega⟩
    have hplace := (hbit a i).symm.trans ((congrArg (·.toBitVec.getMsbD i) h).trans (hbit b i))
    rwa [decide_eq_true hin, Bool.and_true, Bool.and_true] at hplace
  · intro h
    refine UInt32.toBitVec_inj.1 (BitVec.eq_of_getMsbD_eq fun i _ => ?_)
    rw [hbit, hbit]
    by_cases hi : i < n.toNat
    · rw [h i hi]
    · simp [hi]

end Ipv4

/-- **The first bits decide** whether an address is in a block. -/
theorem Cidr.contains_iff_take_bits (c : Cidr) (a : Ipv4) :
    c.contains a = true ↔ a.bits.take c.length.toNat = c.address.bits.take c.length.toNat :=
  (c.contains_iff a).trans (Ipv4.and_netmask_eq_iff c.length_le)

/-- **Subnets are checked bit by bit.** A mask has the length `n` exactly if it is `n` one bits
followed by zero bits, which is found by counting as well. An address is in a block exactly if it
agrees with the block's on its first bits. And the rules for a declared subnet hold exactly if its
three addresses are there, its mask has a length, and its gateway and its own address, which may be
any in the subnet, agree under the mask. -/
theorem subnet_checks_bitwise :
    (∀ (mask : Ipv4) (n : UInt8), Ipv4.maskLength? mask = some n ↔
      n.toNat ≤ 32 ∧ mask.OnesThenZeros n.toNat) ∧
    (∀ mask : Ipv4, Ipv4.maskLength? mask = none ↔ ¬ ∃ n ≤ 32, mask.OnesThenZeros n) ∧
    (∀ mask : Ipv4, Ipv4.maskLength? mask = Ipv4.countedLength? mask) ∧
    (∀ (c : Cidr) (a : Ipv4), c.contains a = true ↔
      a.bits.take c.length.toNat = c.address.bits.take c.length.toNat) ∧
    ∀ s : Subnet, (Check.run s.checks).value = .ok () ↔
      s.network ≠ 0 ∧ s.netmask ≠ 0 ∧ s.gateway ≠ 0 ∧ (∃ n ≤ 32, s.netmask.OnesThenZeros n) ∧
        s.gateway &&& s.netmask = s.network &&& s.netmask := by
  refine ⟨fun mask n => Ipv4.maskLength?_eq_some_iff_bits, fun mask => ?_,
    Ipv4.maskLength?_eq_countedLength?, Cidr.contains_iff_take_bits, fun s => ?_⟩
  · rw [← Ipv4.exists_maskLength?_iff_bits, Option.eq_none_iff_forall_ne_some, not_exists]
  · rw [Check.value_run_eq_ok_iff, ← List.all_eq_true, ← Ipv4.exists_maskLength?_iff_bits,
      Ipv4.exists_maskLength?_iff, ← s.wellFormed_iff]
    exact s.allPass_checks_iff

/-- A subnet may be given by any of its addresses. -/
example : (Check.run (Subnet.checks ⟨0x0A000107, 0xFFFFFF00, 0x0A000101⟩)).value = .ok () := by
  decide +kernel

end CloudNet
