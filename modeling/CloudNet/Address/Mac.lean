import CloudNet.Text.Numeral

/-!
# Hardware addresses

A hardware address is six octets packed into a number, most significant first; zero stands for
"no address". As text the octets are six groups of hexadecimal digits with `:` or `-` between
them.
-/

namespace CloudNet

/-- A hardware address, packed into a number. -/
structure Mac where
  value : UInt64 := 0
  deriving DecidableEq, Repr, Inhabited

namespace Mac

/-- One group: a byte in base sixteen, in a text of at most two bytes. -/
def group? (s : List Char) : Option UInt8 :=
  if (String.ofList s).utf8ByteSize ≤ 2 then Text.byte? 16 s else none

/-- The number with these octets as digits in base 256, most significant first. -/
def pack (octets : List UInt8) : UInt64 :=
  octets.foldl (fun acc b => (acc <<< 8) ||| b.toUInt64) 0

/-- What stands between groups. -/
def isSeparator (c : Char) : Bool := c = ':' || c = '-'

/-- Read six groups separated by `:` or `-`, with blanks around them. -/
def ofText? (s : String) : Option Mac :=
  let groups := (Text.trimChars s.toList).splitOnP isSeparator
  if groups.length = 6 then (groups.mapM group?).map fun octets => ⟨pack octets⟩ else none

/-- There is an address. -/
def isSet (m : Mac) : Bool := m.value != 0

/-- The low six octets, most significant first. -/
def octets (m : Mac) : List UInt8 :=
  ([40, 32, 24, 16, 8, 0] : List UInt64).map fun k => (m.value >>> k).toUInt8

/-- The six octets in hexadecimal, separated by `:`. -/
def text (m : Mac) : String := Text.joinWith ":" (m.octets.map Text.hexByte)

/-! ## Laws -/

@[simp] theorem length_octets (m : Mac) : m.octets.length = 6 := rfl

/-- The absent address is not set. -/
@[simp] theorem isSet_default : (default : Mac).isSet = false := rfl

end Mac

end CloudNet
