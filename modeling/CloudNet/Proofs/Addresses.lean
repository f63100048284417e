import CloudNet.Address.Cidr
import CloudNet.Proofs.Numerals
import CloudNet.Proofs.Words

/-!
# Written addresses

A text that reads as an address has no choice in how it is written: it is the dotted quad of that
address. Of a block only the length can be written in several ways, with a plus sign or with zeros
in front.

* `Ipv4.ofDotted?_dotted`, `Ipv4.eq_dotted_of_ofDotted?`: an address is read from its dotted quad
  and from nothing else.
* `Ipv4.ofText?_eq_some_iff`: with blanks around it, it is read as well.
* `Ipv4.ofText_dotted`: a reader that takes zero for other texts reads it too.
* `Cidr.exists_ofBlockOrAddress?_iff`: what a text that reads as a block or an address looks like.
* `Cidr.Written.words_eq`: such a text is one word.
-/

namespace CloudNet

namespace Ipv4

/-- An octet is written in one way only. -/
theorem eq_decimal_of_octet? {s : List Char} {n : Nat} (h : octet? s = some n) :
    s = (Text.decimal n).toList := by
  unfold octet? at h
  split at h
  · simp only [Option.some.injEq] at h
    subst h
    decide
  · simp at h
  · next hzero hlead =>
    split at h
    · refine Text.eq_decimal_of_natural? (Option.filter_eq_some_iff.1 h).1 fun rest hs => ?_
      exact absurd hs (hlead rest)
    · simp at h

/-- An octet that is written is read back. -/
theorem octet?_decimal : ∀ n < 256, octet? (Text.decimal n).toList = some n := by
  decide +kernel

theorem octets_ofOctets {a b c d : Nat} (ha : a < 256) (hb : b < 256) (hc : c < 256)
    (hd : d < 256) : (ofOctets a b c d).octets = [a, b, c, d] := by
  have hnat : (ofOctets a b c d).toNat = ((a * 256 + b) * 256 + c) * 256 + d := by
    unfold ofOctets
    rw [UInt32.toNat_ofNat']
    omega
  unfold octets
  rw [hnat]
  simp only [List.cons.injEq, and_true]
  omega

/-- An address is made up of its octets. -/
theorem ofOctets_octets (a : Ipv4) : ofOctets (a.toNat / 0x1000000) (a.toNat / 0x10000 % 256)
    (a.toNat / 0x100 % 256) (a.toNat % 256) = a := by
  have hnat : ((a.toNat / 0x1000000 * 256 + a.toNat / 0x10000 % 256) * 256 +
      a.toNat / 0x100 % 256) * 256 + a.toNat % 256 = a.toNat := by omega
  unfold ofOctets
  rw [hnat, UInt32.ofNat_toNat]

/-- The dotted quad of an address is cut at its dots. -/
theorem splitOnP_dotted (a : Ipv4) : a.dotted.toList.splitOnP (· = '.') =
    a.octets.map fun n => (Text.decimal n).toList := by
  have hdigits : ∀ part ∈ a.octets.map Text.decimal, '.' ∉ part.toList := by
    intro part hpart hdot
    obtain ⟨n, -, rfl⟩ := List.mem_map.1 hpart
    exact absurd (Text.isDigit_of_mem_decimal hdot) (by decide)
  have hne : a.octets.map Text.decimal ≠ [] := List.cons_ne_nil _ _
  have hsplit := Text.splitOn_joinWith hne hdigits
  rw [List.map_map] at hsplit
  exact hsplit

/-- **An address is read from its dotted quad.** -/
theorem ofDotted?_dotted (a : Ipv4) : ofDotted? a.dotted.toList = some a := by
  have hlt := a.toNat_lt
  unfold ofDotted?
  rw [splitOnP_dotted]
  simp only [octets, List.map_cons, List.map_nil]
  rw [octet?_decimal _ (by omega), octet?_decimal _ (by omega), octet?_decimal _ (by omega),
    octet?_decimal _ (by omega)]
  exact congrArg some (ofOctets_octets a)

/-- **A text that reads as an address is its dotted quad.** -/
theorem eq_dotted_of_ofDotted? {s : List Char} {a : Ipv4} (h : ofDotted? s = some a) :
    s = a.dotted.toList := by
  unfold ofDotted? at h
  split at h
  · next w x y z hparts =>
    simp only [Option.bind_eq_bind, Option.bind_eq_some_iff, Option.pure_def,
      Option.some.injEq] at h
    obtain ⟨i, hi, j, hj, k, hk, l, hl, ha⟩ := h
    have hjoin : ['.'].intercalate (s.splitOn '.') = s := List.intercalate_splitOn '.'
    have hsplit : s.splitOn '.' = [w, x, y, z] := hparts
    unfold dotted
    rw [← ha, octets_ofOctets (lt_of_octet? hi) (lt_of_octet? hj) (lt_of_octet? hk)
      (lt_of_octet? hl), Text.joinWith, String.toList_intercalate, ← hjoin, hsplit,
      eq_decimal_of_octet? hi, eq_decimal_of_octet? hj, eq_decimal_of_octet? hk,
      eq_decimal_of_octet? hl]
    rfl
  · simp at h

end Ipv4

namespace Cidr

/-- A text for the length of a block: digits, after an optional plus sign, for at most 32. -/
def IsLength (s : List Char) : Prop := ∃ n ≤ 32, Text.natural? 10 (Text.dropPlus s) = some n

/-- A text for a block: a dotted quad, or one with a slash and a length behind it. -/
inductive Written : List Char → Prop where
  | address (a : Ipv4) : Written a.dotted.toList
  | block (a : Ipv4) {length : List Char} (h : IsLength length) :
    Written (a.dotted.toList ++ '/' :: length)

theorem isLength_of_byte? {s : List Char} {n : UInt8} (h : Text.byte? 10 s = some n)
    (hn : n ≤ Ipv4.maxMaskLength) : IsLength s :=
  ⟨n.toNat, UInt8.le_iff_toNat_le.1 hn, Text.byte?_eq_some_iff.1 h⟩

/-- A text that reads as a block or an address looks like one. -/
theorem written_of_ofBlockOrAddress? {s : String} {c : Cidr} (h : ofBlockOrAddress? s = some c) :
    Written (Text.trimChars s.toList) := by
  unfold ofBlockOrAddress? at h
  split at h
  · unfold ofText? at h
    simp only [Option.bind_eq_bind, Option.bind_eq_some_iff] at h
    obtain ⟨⟨quad, length⟩, hcut, a, ha, n, hn, hparts⟩ := h
    unfold ofParts? at hparts
    split at hparts
    · next hle =>
      dsimp only at ha hn
      rw [(Text.cutAt_eq_some hcut).1, Ipv4.eq_dotted_of_ofDotted? ha]
      exact .block a (isLength_of_byte? hn hle)
    · simp at hparts
  · obtain ⟨a, ha, -⟩ := Option.map_eq_some_iff.1 h
    rw [Ipv4.eq_dotted_of_ofDotted? ha]
    exact .address a

/-- The characters of a dotted quad. -/
theorem mem_dotted {a : Ipv4} {c : Char} (h : c ∈ a.dotted.toList) :
    c = '.' ∨ Text.isDigit c = true := by
  rcases Text.mem_joinWith h with hdot | ⟨octet, hmem, hc⟩
  · exact .inl (List.mem_singleton.1 hdot)
  · obtain ⟨n, -, rfl⟩ := List.mem_map.1 hmem
    exact .inr (Text.isDigit_of_mem_decimal hc)

theorem notMem_dotted (a : Ipv4) : '/' ∉ a.dotted.toList := fun h => by
  rcases mem_dotted h with h | h
  · exact absurd h (by decide)
  · exact absurd h (by decide)

/-- **A text that looks like a block or an address reads as one.** -/
theorem exists_of_written {s : String} (h : Written (Text.trimChars s.toList)) :
    ∃ c, ofBlockOrAddress? s = some c := by
  unfold ofBlockOrAddress? ofText? Ipv4.ofText?
  generalize Text.trimChars s.toList = t at h
  cases h with
  | address a =>
    rw [if_neg (notMem_dotted a), Ipv4.ofDotted?_dotted]
    exact ⟨_, rfl⟩
  | @block a length hlength =>
    obtain ⟨n, hn, hread⟩ := hlength
    have hvalue : (UInt8.ofNat n).toNat = n :=
      UInt8.toNat_ofNat_of_lt' (lt_of_le_of_lt hn (by decide))
    have hbyte : Text.byte? 10 length = some (UInt8.ofNat n) :=
      Text.byte?_eq_some_iff.2 (by rw [hvalue, hread])
    have hle : UInt8.ofNat n ≤ Ipv4.maxMaskLength := by
      rw [UInt8.le_iff_toNat_le, hvalue]
      exact hn
    rw [if_pos (by simp), Text.cutAt_append (notMem_dotted a)]
    simp only [Option.bind_eq_bind, Option.bind_some, Ipv4.ofDotted?_dotted, hbyte]
    exact ⟨_, dif_pos hle⟩

/-- **What a text that reads as a block or an address looks like.** -/
theorem exists_ofBlockOrAddress?_iff {s : String} :
    (∃ c, ofBlockOrAddress? s = some c) ↔ Written (Text.trimChars s.toList) :=
  ⟨fun ⟨_, hc⟩ => written_of_ofBlockOrAddress? hc, exists_of_written⟩

theorem not_isBlank_of_mem_dotted {a : Ipv4} {c : Char} (h : c ∈ a.dotted.toList) :
    Text.isBlank c = false := by
  rcases mem_dotted h with rfl | h
  · decide
  · exact Text.not_isBlank_of_isDigit h

theorem dotted_ne_nil (a : Ipv4) : a.dotted.toList ≠ [] := by
  unfold Ipv4.dotted Ipv4.octets Text.joinWith
  rw [String.toList_intercalate, List.map_cons, List.map_cons, List.map_cons, List.map_cons,
    List.intercalate_cons_cons]
  exact List.append_ne_nil_of_left_ne_nil
    (List.append_ne_nil_of_left_ne_nil (Text.decimal_ne_nil _) _) _

theorem not_isBlank_of_mem_length {s : List Char} (hs : IsLength s) {c : Char} (h : c ∈ s) :
    Text.isBlank c = false := by
  obtain ⟨n, -, hn⟩ := hs
  unfold Text.dropPlus at hn
  split at hn
  · rcases List.mem_cons.1 h with rfl | h
    · decide
    · exact Text.not_isBlank_of_isDigit (Text.isDigit_of_mem_natural? hn h)
  · exact Text.not_isBlank_of_isDigit (Text.isDigit_of_mem_natural? hn h)

namespace Written

variable {s : List Char}

theorem ne_nil (hs : Written s) : s ≠ [] := by
  cases hs with
  | address a => exact dotted_ne_nil a
  | block a _ => exact List.append_ne_nil_of_left_ne_nil (dotted_ne_nil a) _

theorem not_isBlank_of_mem (hs : Written s) {c : Char} (hc : c ∈ s) : Text.isBlank c = false := by
  cases hs with
  | address a => exact not_isBlank_of_mem_dotted hc
  | block a hlength =>
    rcases List.mem_append.1 hc with hc | hc
    · exact not_isBlank_of_mem_dotted hc
    · rcases List.mem_cons.1 hc with rfl | hc
      · decide
      · exact not_isBlank_of_mem_length hlength hc

/-- **A text for a block is one word.** -/
theorem words_eq (hs : Written s) : Text.words s = [s] :=
  Text.words_of_no_blank hs.ne_nil fun _ => hs.not_isBlank_of_mem

end Written

end Cidr

/-- **An address is read from its dotted quad with blanks around it**, and from nothing else. -/
theorem Ipv4.ofText?_eq_some_iff {s : String} {a : Ipv4} :
    ofText? s = some a ↔ Text.Padded a.dotted.toList s.toList := by
  unfold ofText?
  constructor
  · intro h
    rw [← eq_dotted_of_ofDotted? h]
    exact Text.padded_trimChars s.toList
  · intro h
    rw [h.trimChars_eq, Text.trimChars_of_no_blank fun _ => Cidr.not_isBlank_of_mem_dotted,
      ofDotted?_dotted]

/-- The same of a text that is trimmed before it is read. -/
theorem Ipv4.ofText?_trimChars_eq_some_iff {s : List Char} {a : Ipv4} :
    ofText? (String.ofList (Text.trimChars s)) = some a ↔ Text.Padded a.dotted.toList s := by
  rw [ofText?_eq_some_iff, String.toList_ofList]
  constructor
  · exact (Text.padded_trimChars s).trans
  · intro h
    rw [h.trimChars_eq, Text.trimChars_of_no_blank fun _ => Cidr.not_isBlank_of_mem_dotted]
    exact Text.Padded.refl _

/-- An address is read from its dotted quad, which has no blanks to be trimmed. -/
theorem Ipv4.ofText?_dotted (a : Ipv4) : ofText? a.dotted = some a :=
  ofText?_eq_some_iff.2 (Text.Padded.refl _)

theorem Ipv4.ofText_dotted (a : Ipv4) : ofText a.dotted = a := by
  unfold ofText
  rw [ofText?_dotted, Option.getD_some]

end CloudNet
