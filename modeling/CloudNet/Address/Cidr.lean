import CloudNet.Address.Ipv4

/-!
# Address blocks

`a.b.c.d/n` names the addresses that agree with `a.b.c.d` on their first `n` bits. The length is
part of the type's invariant, so a block always has a lowest and a highest address.
-/

namespace CloudNet

/-- The addresses that agree with `address` on their first `length` bits. -/
@[ext]
structure Cidr where
  address : Ipv4
  length : UInt8
  length_le : length ≤ Ipv4.maxMaskLength
  deriving DecidableEq

namespace Cidr

/-- A block with the given length, if it is at most 32. -/
def ofParts? (address : Ipv4) (length : UInt8) : Option Cidr :=
  if h : length ≤ Ipv4.maxMaskLength then some ⟨address, length, h⟩ else none

/-- Read `a.b.c.d/n` with blanks around it. -/
def ofText? (s : String) : Option Cidr := do
  let (address, length) ← Text.cutAt '/' (Text.trimChars s.toList)
  ofParts? (← Ipv4.ofDotted? address) (← Text.byte? 10 length)

/-- Read a block, or a bare address as the block of that address alone. -/
def ofBlockOrAddress? (s : String) : Option Cidr :=
  if '/' ∈ Text.trimChars s.toList then ofText? s
  else (Ipv4.ofText? s).map fun a => ⟨a, Ipv4.maxMaskLength, by decide⟩

/-- The block as text. -/
def text (c : Cidr) : String := c.address.dotted ++ "/" ++ Text.decimal c.length.toNat

/-- The netmask of the block. -/
def mask (c : Cidr) : Ipv4 := Ipv4.netmask c.length

/-- The lowest address of the block. -/
def lo (c : Cidr) : Ipv4 := c.address &&& c.mask

/-- The highest address of the block. -/
def hi (c : Cidr) : Ipv4 := c.lo ||| ~~~c.mask

/-- The address lies in the block. -/
def contains (c : Cidr) (a : Ipv4) : Bool := c.lo ≤ a && a ≤ c.hi

/-- Blocks are ordered by address, and blocks at one address by length. -/
protected def compare (a b : Cidr) : Ordering :=
  (compare a.address b.address).then (compare a.length b.length)

/-! ## Laws -/

theorem lo_eq_networkOf? (c : Cidr) : Ipv4.networkOf? c.address c.length = some c.lo := by
  simp [Ipv4.networkOf?, Ipv4.netmask?, c.length_le, lo, mask]

theorem hi_eq_broadcastOf? (c : Cidr) : Ipv4.broadcastOf? c.address c.length = some c.hi := by
  simp [Ipv4.broadcastOf?, Ipv4.netmask?, c.length_le, hi, lo, mask]

end Cidr

end CloudNet
