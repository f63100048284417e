import CloudNet.Json.Value
import CloudNet.Text.Numeral

/-!
# Writing JSON

A value over several lines, two blanks deeper for each array or object around it; empty arrays and
objects take no line of their own. Strings escape quotation marks, backslashes and control
characters, and nothing else.
-/

namespace CloudNet.Json

/-- A character as it stands in a string. -/
def escaped (c : Char) : List Char :=
  if c = '"' then ['\\', '"']
  else if c = '\\' then ['\\', '\\']
  else if c = '\x08' then ['\\', 'b']
  else if c = '\x0c' then ['\\', 'f']
  else if c = '\n' then ['\\', 'n']
  else if c = '\r' then ['\\', 'r']
  else if c = '\t' then ['\\', 't']
  else if c.toNat < 0x20 then
    ['\\', 'u', '0', '0', Text.hexDigit (c.toNat / 16), Text.hexDigit (c.toNat % 16)]
  else [c]

/-- A string in quotation marks. -/
def quotedChars (s : String) : List Char := '"' :: s.toList.flatMap escaped ++ ['"']

/-- A line break and the indentation of a depth. -/
def lineBreak (depth : Nat) : List Char := '\n' :: List.replicate (2 * depth) ' '

mutual

/-- The text of a value whose lines are indented to a depth. What cannot be read is written as
null. -/
def prettyChars (depth : Nat) : Json → List Char
  | null | other => "null".toList
  | bool b => (if b then "true" else "false").toList
  | integer z => (Text.signedDecimal z).toList
  | string s => quotedChars s
  | array [] => ['[', ']']
  | array (j :: rest) =>
    '[' :: lineBreak (depth + 1) ++ prettyChars (depth + 1) j ++ prettyItems (depth + 1) rest ++
      lineBreak depth ++ [']']
  | object [] => ['\x7b', '\x7d']
  | object ((name, j) :: rest) =>
    '\x7b' :: lineBreak (depth + 1) ++ quotedChars name ++ [':', ' '] ++
      prettyChars (depth + 1) j ++ prettyMembers (depth + 1) rest ++ lineBreak depth ++ ['\x7d']

/-- Further items of an array, each after a comma. -/
def prettyItems (depth : Nat) : List Json → List Char
  | [] => []
  | j :: rest => ',' :: lineBreak depth ++ prettyChars depth j ++ prettyItems depth rest

/-- Further members of an object, each after a comma. -/
def prettyMembers (depth : Nat) : List (String × Json) → List Char
  | [] => []
  | (name, j) :: rest =>
    ',' :: lineBreak depth ++ quotedChars name ++ [':', ' '] ++ prettyChars depth j ++
      prettyMembers depth rest

end

/-- The text of a value. -/
def pretty (j : Json) : String := String.ofList (prettyChars 0 j)

end CloudNet.Json
