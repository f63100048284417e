import CloudNet.Text.Numeral

/-!
# IPv4 addresses

An address is the 32-bit number that its four octets spell, so equality and order are those of
numbers. Zero stands for "no address". A dotted quad has exactly four decimal octets without
leading zeros, signs or blanks.

`Ipv4.netmask n` has `n` one bits followed by zero bits; `Ipv4.maskLength?` reads the length back
from a mask and refuses masks with a gap.
-/

namespace CloudNet

/-- An IPv4 address, most significant octet first. -/
abbrev Ipv4 := UInt32

namespace Ipv4

/-- The four octets, most significant first. -/
def octets (a : Ipv4) : List Nat :=
  [a.toNat / 0x1000000, a.toNat / 0x10000 % 256, a.toNat / 0x100 % 256, a.toNat % 256]

/-- The address as a dotted quad. -/
def dotted (a : Ipv4) : String := Text.joinWith "." (a.octets.map Text.decimal)

/-- An octet: one to three digits below 256 in value, without a leading zero. -/
def octet? (s : List Char) : Option Nat :=
  match s with
  | ['0'] => some 0
  | '0' :: _ => none
  | _ => if s.length ≤ 3 then (Text.natural? 10 s).filter (· < 256) else none

/-- The number with these octets. -/
def ofOctets (a b c d : Nat) : Ipv4 := UInt32.ofNat (((a * 256 + b) * 256 + c) * 256 + d)

/-- Read a dotted quad, exactly as written. -/
def ofDotted? (s : List Char) : Option Ipv4 :=
  match s.splitOnP (· = '.') with
  | [a, b, c, d] => do return ofOctets (← octet? a) (← octet? b) (← octet? c) (← octet? d)
  | _ => none

/-- Read a dotted quad with blanks around it. -/
def ofText? (s : String) : Option Ipv4 := ofDotted? (Text.trimChars s.toList)

/-- Read a dotted quad with blanks around it; anything else is no address, that is zero. -/
def ofText (s : String) : Ipv4 := (ofText? s).getD 0

/-- The loopback address `127.0.0.1`. -/
def loopback : Ipv4 := 0x7F000001

/-- The longest netmask, in bits. -/
def maxMaskLength : UInt8 := 32

/-- `n` one bits (at most 32) followed by zero bits. -/
def netmask (n : UInt8) : Ipv4 := UInt32.ofNat (0x100000000 - 1 <<< (32 - n.toNat))

/-- The netmask of length `n`, if there is one. -/
def netmask? (n : UInt8) : Option Ipv4 := if n ≤ maxMaskLength then some (netmask n) else none

/-- The length of a netmask whose one bits stand together at the top. -/
def maskLength? (mask : Ipv4) : Option UInt8 :=
  ((List.range 33).map UInt8.ofNat).find? fun n => netmask n == mask

/-- The lowest address that agrees with `a` on its first `n` bits. -/
def networkOf? (a : Ipv4) (n : UInt8) : Option Ipv4 := (netmask? n).map (a &&& ·)

/-- The highest address that agrees with `a` on its first `n` bits. -/
def broadcastOf? (a : Ipv4) (n : UInt8) : Option Ipv4 :=
  (netmask? n).map fun mask => (a &&& mask) ||| ~~~mask

/-! ## Laws -/

/-- A text that is not a dotted quad reads as no address. -/
theorem ofText_eq_zero_of_none {s : String} (h : ofText? s = none) : ofText s = 0 := by
  simp [ofText, h]

theorem lt_of_octet? {s : List Char} {n : Nat} (h : octet? s = some n) : n < 256 := by
  unfold octet? at h
  split at h
  · simp only [Option.some.injEq] at h; omega
  · simp at h
  · split at h
    · simpa using (Option.filter_eq_some_iff.1 h).2
    · simp at h

/-- A mask length that is found is the length of exactly that mask. -/
theorem netmask_of_maskLength? {mask : Ipv4} {n : UInt8} (h : maskLength? mask = some n) :
    netmask n = mask := by
  simpa using List.find?_some h

end Ipv4

end CloudNet
