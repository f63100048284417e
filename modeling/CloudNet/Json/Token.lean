import CloudNet.Json.Value
import CloudNet.Text.Numeral
import CloudNet.Text.Scanner

/-!
# JSON tokens

A text is cut into brackets, separators and scalar values, white space between them dropped. Strings
may escape any UTF-16 unit; two units that are a surrogate pair are one character, and a string with
an unpaired surrogate is no text.
-/

namespace CloudNet.Json

open CloudNet.Text

/-- A token of a JSON text. -/
inductive Token where
  | leftBracket | rightBracket | leftBrace | rightBrace | colon | comma
  /-- A string; its text, if it is one. -/
  | string (text : Option String)
  /-- A number, truth value or null. -/
  | scalar (value : Json)

/-- White space between tokens. -/
def isSpace (c : Char) : Bool := c == ' ' || c == '\t' || c == '\n' || c == '\r'

/-- The unit is the first of a surrogate pair. -/
def isHighSurrogate (n : Nat) : Bool := 0xD800 ≤ n && n ≤ 0xDBFF

/-- The unit is the second of a surrogate pair. -/
def isLowSurrogate (n : Nat) : Bool := 0xDC00 ≤ n && n ≤ 0xDFFF

/-- The code point of a surrogate pair. -/
def pairCode (high low : Nat) : Nat := 0x10000 + (high - 0xD800) * 0x400 + (low - 0xDC00)

/-- The characters of a string given as code points and UTF-16 units. -/
def joinUnits : List Nat → Option (List Char)
  | [] => some []
  | [n] => if n.isValidChar then some [Char.ofNat n] else none
  | m :: n :: rest =>
    if isHighSurrogate m && isLowSurrogate n then
      (joinUnits rest).map (Char.ofNat (pairCode m n) :: ·)
    else if m.isValidChar then (joinUnits (n :: rest)).map (Char.ofNat m :: ·)
    else none

/-- The characters that have an escape of one letter, by that letter. -/
def shortEscapes : List (Char × Char) :=
  [('"', '"'), ('\\', '\\'), ('/', '/'), ('b', '\x08'), ('f', '\x0c'), ('n', '\n'), ('r', '\r'),
    ('t', '\t')]

/-- An escape, after its backslash. -/
def escape : Scanner Nat := do
  let c ← Scanner.next
  if c = 'u' then
    let digits := [← Scanner.next, ← Scanner.next, ← Scanner.next, ← Scanner.next]
    Text.natural? 16 digits
  else (shortEscapes.lookup c).map Char.toNat

/-- A code point or unit of a string, unless the closing quotation mark comes. -/
def stringUnit : Scanner (Option Nat) := do
  let c ← Scanner.next
  if c = '"' then return none
  if c = '\\' then return some (← escape)
  Scanner.check (0x20 ≤ c.toNat)
  return some c.toNat

/-- A string, after its opening quotation mark. -/
def stringBody : Scanner (Option String) := do
  let units ← Scanner.many stringUnit
  return (joinUnits units).map String.ofList

/-- The digits of a number's whole part: a zero alone, or digits that do not start with one. -/
def wholeDigits : Scanner (List Char) := do
  if ← Scanner.tryChar '0' then return ['0']
  Scanner.takeSome isDigit

/-- The fraction and the exponent of a number, either of which may be missing. The answer is whether
one of them is there. -/
def fractionAndExponent : Scanner Bool := do
  let hasFraction ← Scanner.tryChar '.'
  if hasFraction then
    let _ ← Scanner.takeSome isDigit
  let c ← Scanner.peek?
  let hasExponent := c = some 'e' || c = some 'E'
  if hasExponent then
    let _ ← Scanner.next
    if !(← Scanner.tryChar '+') then
      let _ ← Scanner.tryChar '-'
    let _ ← Scanner.takeSome isDigit
  return hasFraction || hasExponent

/-- A number. Minus zero is not an integer. -/
def number : Scanner Json := do
  let negative ← Scanner.tryChar '-'
  let digits ← wholeDigits
  let n ← Text.natural? 10 digits
  let isDecimal ← fractionAndExponent
  if isDecimal || (negative && n = 0) then return .other
  return .integer (if negative then -(n : Int) else n)

/-- The tokens of one character. -/
def marks : List (Char × Token) :=
  [('[', .leftBracket), (']', .rightBracket), ('\x7b', .leftBrace), ('\x7d', .rightBrace),
    (':', .colon), (',', .comma)]

/-- The tokens of one word. -/
def words : List (Char × String × Json) :=
  [('n', "null", .null), ('t', "true", .bool true), ('f', "false", .bool false)]

/-- The next token, if the text does not end before it. -/
def token : Scanner (Option Token) := do
  let _ ← Scanner.takeWhile isSpace
  match ← Scanner.peek? with
  | none => return none
  | some c =>
    match marks.lookup c, words.lookup c with
    | some mark, _ =>
      let _ ← Scanner.next
      return some mark
    | none, some (word, value) =>
      Scanner.literal word
      return some (.scalar value)
    | none, none =>
      if c = '"' then
        let _ ← Scanner.next
        return some (.string (← stringBody))
      return some (.scalar (← number))

/-- The tokens of a text. -/
def tokens? (s : List Char) : Option (List Token) := Scanner.readAll (Scanner.many token) s

end CloudNet.Json
