import CloudNet.Text.Range
import CloudNet.Text.Scanner

/-!
# Characters and names of XML

The character classes of XML 1.0 (fifth edition) and the scanners for names: plain names, where a
colon is a character like others, and qualified names, where one colon parts a qualifier from the
local part.
-/

namespace CloudNet.Xml

open CloudNet.Text

/-- White space between the parts of markup. -/
def isSpace (c : Char) : Bool := c == ' ' || c == '\t' || c == '\n' || c == '\r'

/-- A character that may stand in a document. -/
def isChar (c : Char) : Bool :=
  let n := c.toNat
  if n < 0x20 then n == 0x9 || n == 0xA || n == 0xD else n != 0xFFFE && n != 0xFFFF

/-- The ranges of characters beyond ASCII that a name may start with. -/
def nameStartRanges : List CharRange :=
  [(0xC0, 0xD6), (0xD8, 0xF6), (0xF8, 0x2FF), (0x370, 0x37D), (0x37F, 0x1FFF), (0x200C, 0x200D),
    (0x2070, 0x218F), (0x2C00, 0x2FEF), (0x3001, 0xD7FF), (0xF900, 0xFDCF), (0xFDF0, 0xFFFD),
    (0x10000, 0xEFFFF)]

/-- The ranges of characters beyond ASCII that a name may go on with but not start with. -/
def nameOnlyRanges : List CharRange := [(0xB7, 0xB7), (0x300, 0x36F), (0x203F, 0x2040)]

/-- A character that a name may start with. -/
def isNameStart (c : Char) : Bool :=
  if c.toNat < 0x80 then
    ('A' ≤ c && c ≤ 'Z') || ('a' ≤ c && c ≤ 'z') || c == ':' || c == '_'
  else inRanges nameStartRanges c

/-- A character that a name may go on with. -/
def isNameChar (c : Char) : Bool :=
  isNameStart c ||
    (if c.toNat < 0x80 then ('0' ≤ c && c ≤ '9') || c == '-' || c == '.'
      else inRanges nameOnlyRanges c)

/-- A qualified name; without a qualifier, that part is empty. -/
structure QName where
  qualifier : List Char
  base : List Char
  deriving DecidableEq

/-- The characters start a name, or there are none. -/
def startsName (s : List Char) : Bool := s.head?.all isNameStart

/-- White space, perhaps none. -/
def spaces : Scanner Unit := do
  let _ ← Scanner.takeWhile isSpace

/-- White space, at least one character. -/
def someSpaces : Scanner Unit := do
  let _ ← Scanner.takeSome isSpace

/-- A plain name. -/
def name : Scanner (List Char) := do
  let s ← Scanner.takeSome isNameChar
  Scanner.check (startsName s)
  return s

/-- A qualified name. What follows a second colon is not part of it. -/
def qname : Scanner QName := do
  let part := Scanner.takeWhile fun c => isNameChar c && c != ':'
  let first ← part
  let q ← if ← Scanner.tryChar ':' then pure ⟨first, ← part⟩ else pure ⟨[], first⟩
  Scanner.check (startsName q.qualifier && !q.base.isEmpty && startsName q.base)
  return q

/-- Characters of a document up to the first occurrence of `stop`, and `stop` itself. -/
def charsThrough (stop : String) : Scanner (List Char) := do
  let s ← Scanner.through stop
  Scanner.check (s.all isChar)
  return s

end CloudNet.Xml
