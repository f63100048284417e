import CloudNet.Text.Blank

/-!
# Numerals

Decimal and hexadecimal numerals as they stand in documents and rules: the value of a run of
digits, numbers of a fixed width with an optional sign, and the leading integer of a text. A
numeral whose value does not fit its width is no numeral.
-/

namespace CloudNet.Text

/-- The value of a digit in base sixteen; the ten decimal digits have their usual value. -/
def digitValue? (c : Char) : Option Nat :=
  if '0' ≤ c ∧ c ≤ '9' then some (c.toNat - '0'.toNat)
  else if 'a' ≤ c ∧ c ≤ 'f' then some (c.toNat - 'a'.toNat + 10)
  else if 'A' ≤ c ∧ c ≤ 'F' then some (c.toNat - 'A'.toNat + 10)
  else none

/-- The value of one digit in the given base (at most sixteen). -/
def digitIn? (base : Nat) (c : Char) : Option Nat :=
  (digitValue? c).filter (· < base)

/-- `c` is a decimal digit. -/
def isDigit (c : Char) : Bool := '0' ≤ c && c ≤ '9'

/-- The value of a run of digits read onto the value so far; `none` at any other character. -/
def digitsOnto? (base : Nat) : Nat → List Char → Option Nat
  | acc, [] => some acc
  | acc, c :: rest => (digitIn? base c).bind fun d => digitsOnto? base (acc * base + d) rest

/-- The value of a non-empty run of digits. -/
def natural? (base : Nat) (s : List Char) : Option Nat :=
  if s = [] then none else digitsOnto? base 0 s

/-- The text without the plus sign it may start with. -/
def dropPlus : List Char → List Char
  | '+' :: rest => rest
  | s => s

/-- A number below 256: digits, after an optional plus sign. -/
def byte? (base : Nat) (s : List Char) : Option UInt8 :=
  ((natural? base (dropPlus s)).filter (· < 256)).map UInt8.ofNat

/-- A whole number: digits, after an optional sign. -/
def integer? : List Char → Option Int
  | '-' :: rest => (natural? 10 rest).map fun n => -(n : Int)
  | s => (natural? 10 (dropPlus s)).map Int.ofNat

/-- The integer lies between `-2 ^ 31` and `2 ^ 31 - 1`. -/
def fitsInt32 (z : Int) : Bool := -2147483648 ≤ z && z ≤ 2147483647

/-- A signed 32-bit number: digits, after an optional sign. -/
def int32? (s : List Char) : Option Int32 :=
  ((integer? s).filter fitsInt32).map Int32.ofInt

/-- The longest run of digits the text starts with, together with one sign in front of it. -/
def leadingNumeral : List Char → List Char
  | '-' :: rest => '-' :: rest.takeWhile isDigit
  | '+' :: rest => '+' :: rest.takeWhile isDigit
  | s => s.takeWhile isDigit

/-- The integer the trimmed text starts with; zero where there is none or it is out of range. -/
def leadingInt (s : String) : Int32 :=
  (int32? (leadingNumeral (trimChars s.toList))).getD 0

/-- The decimal digits of a natural number. -/
def decimal (n : Nat) : String := toString n

/-- The decimal digits of an integer, after a minus sign if it is negative. -/
def signedDecimal (z : Int) : String :=
  if z < 0 then "-" ++ decimal z.natAbs else decimal z.natAbs

/-- The lower-case hexadecimal digit of a number below sixteen. -/
def hexDigit (n : Nat) : Char :=
  if n < 10 then Char.ofNat ('0'.toNat + n) else Char.ofNat ('a'.toNat + (n - 10))

/-- The two lower-case hexadecimal digits of a byte. -/
def hexByte (b : UInt8) : String :=
  String.ofList [hexDigit (b.toNat / 16), hexDigit (b.toNat % 16)]

/-! ## Laws -/

/-- A digit's value is below the base. -/
theorem lt_of_digitIn? {base : Nat} {c : Char} {d : Nat} (h : digitIn? base c = some d) :
    d < base := by
  simpa using (Option.filter_eq_some_iff.1 h).2

/-- An empty text is no numeral. -/
@[simp] theorem natural?_nil (base : Nat) : natural? base [] = none := rfl

theorem digitsOnto?_append {base : Nat} (s t : List Char) (acc : Nat) :
    digitsOnto? base acc (s ++ t) =
      (digitsOnto? base acc s).bind fun n => digitsOnto? base n t := by
  induction s generalizing acc with
  | nil => rfl
  | cons c s ih =>
    simp only [List.cons_append, digitsOnto?]
    cases digitIn? base c with
    | none => rfl
    | some d => exact ih _

end CloudNet.Text
