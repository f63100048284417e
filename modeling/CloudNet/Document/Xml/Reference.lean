import CloudNet.Document.Xml.Prolog
import CloudNet.Text.Numeral

/-!
# References and line ends

Character data and attribute values as written consist of plain characters, characters written as
references, and references to entities. Line ends count as line feeds in character data and as
blanks in attribute values; a character written as a reference stays what it is.
-/

namespace CloudNet.Xml

open CloudNet.Text

/-- A part of character data or of an attribute value. -/
inductive Piece where
  | plain (c : Char)
  /-- A character written as a reference. -/
  | coded (c : Char)
  | entity (name : List Char)
  deriving DecidableEq

/-- The character of a code point. A number that is none stands for U+FFFD. -/
def charOfCode? (n : Nat) : Option Char :=
  if 0x100000000 ≤ n then none
  else
    let c := if n.isValidChar then Char.ofNat n else '\uFFFD'
    if isChar c then some c else none

/-- The characters that have a reference by name. -/
def predefined : List (String × Char) :=
  [("quot", '"'), ("amp", '&'), ("apos", '\''), ("lt", '<'), ("gt", '>')]

/-- A reference, from its ampersand to its semicolon. -/
def reference : Scanner Piece := do
  Scanner.char '&'
  let piece ←
    if ← Scanner.tryChar '#' then do
      let base := if ← Scanner.tryChar 'x' then 16 else 10
      let digits ← Scanner.takeWhile fun c => (digitIn? base c).isSome
      let c ← (natural? base digits).bind charOfCode?
      pure (Piece.coded c)
    else do
      let n ← name
      pure (match predefined.lookup (String.ofList n) with
        | some c => .coded c
        | none => .entity n)
  Scanner.char ';'
  return piece

/-- The parts of character data or of an attribute value. -/
def pieces? (s : List Char) : Option (List Piece) :=
  Scanner.readAll (Scanner.many do
    match ← Scanner.peek? with
    | none => return none
    | some '&' => return some (← reference)
    | some _ => return some (.plain (← Scanner.next))) s

/-- Put a character behind others (newest first), as line ends demand: a carriage return turns into
a line feed as soon as a character follows or the text ends, and swallows a line feed after it. -/
def pushChar (buffer : List Char) (c : Char) (last : Bool) : List Char :=
  match buffer with
  | '\r' :: before =>
    if last && c = '\r' then '\n' :: '\n' :: before
    else if c = '\n' then '\n' :: before
    else c :: '\n' :: before
  | _ => (if last && c = '\r' then '\n' else c) :: buffer

/-- A text without references, its line ends made line feeds. -/
def lineFeeds (s : List Char) : List Char :=
  let rec go (buffer : List Char) : List Char → List Char
    | [] => buffer.reverse
    | c :: rest => go (pushChar buffer c rest.isEmpty) rest
  go [] s

/-- A blank for each character of white space. -/
def blanked (c : Char) : Char := if c = '\t' || c = '\n' || c = '\r' then ' ' else c

/-- Replace the entities in the parts of an attribute value. `depth` is how many entities may still
be inside each other, `inside` that these parts are those of an entity, and `used` how many
references inside entities there were before. -/
def attributeChars (entities : Entities) :
    Nat → Bool → Nat → List Char → Option (List Char × Nat)
  | depth, inside, used, s => do
    let rec go (enter : Nat → List Char → Option (List Char × Nat)) (used : Nat) :
        List Piece → Option (List Char × Nat)
      | [] => some ([], used)
      | .plain '\r' :: .plain '\n' :: rest => do
        let (cs, used) ← go enter used rest
        return (' ' :: cs, used)
      | .plain c :: rest => do
        let (cs, used) ← go enter used rest
        return (blanked c :: cs, used)
      | .coded c :: rest => do
        if inside && c = '<' then none
        let (cs, used) ← go enter used rest
        return ((if inside then blanked c else c) :: cs, used)
      | .entity n :: rest => do
        let text ← entities.lookup n
        if inside && used = 255 then none
        let (first, used) ← enter (if inside then used + 1 else used) text
        let (cs, used) ← go enter (if inside then used else 0) rest
        return (first ++ cs, used)
    match depth with
    | 0 => go (fun _ _ => none) used (← pieces? s)
    | depth + 1 => go (attributeChars entities depth true) used (← pieces? s)

end CloudNet.Xml
