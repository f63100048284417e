import CloudNet.Json.Token

/-!
# Reading JSON

Tokens are put together from left to right; the arrays and objects that are not closed yet form a
stack.
-/

namespace CloudNet.Json

/-- An array or object that is not closed yet, with what it holds so far, newest first. -/
inductive Frame where
  | items (before : List Json)
  | members (before : List (Option String × Json)) (name : Option String)

mutual

/-- Read on where a value has to come. -/
def readValue (stack : List Frame) : List Token → Option Json
  | .scalar j :: rest => readAfter stack j rest
  | .string s :: rest => readAfter stack ((s.map Json.string).getD .other) rest
  | .leftBracket :: .rightBracket :: rest => readAfter stack (.array []) rest
  | .leftBracket :: rest => readValue (.items [] :: stack) rest
  | .leftBrace :: .rightBrace :: rest => readAfter stack (.object []) rest
  | .leftBrace :: .string name :: .colon :: rest => readValue (.members [] name :: stack) rest
  | _ => none

/-- Read on after a value. -/
def readAfter (stack : List Frame) (j : Json) : List Token → Option Json
  | [] => if stack.isEmpty then some j else none
  | .comma :: rest =>
    match stack, rest with
    | .items before :: outer, rest => readValue (.items (j :: before) :: outer) rest
    | .members before name :: outer, .string next :: .colon :: rest =>
      readValue (.members ((name, j) :: before) next :: outer) rest
    | _, _ => none
  | .rightBracket :: rest =>
    match stack with
    | .items before :: outer => readAfter outer (.array (j :: before).reverse) rest
    | _ => none
  | .rightBrace :: rest =>
    match stack with
    | .members before name :: outer =>
      readAfter outer (Json.ofMembers ((name, j) :: before).reverse) rest
    | _ => none
  | _ => none

end

/-- Read a value from a whole text. -/
def ofText? (s : String) : Option Json := (tokens? s.toList).bind (readValue [])

end CloudNet.Json
