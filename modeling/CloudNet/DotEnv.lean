import CloudNet.Text.Alphanumeric
import CloudNet.Text.Blank

/-!
# Environment files

A file of lines `NAME=value` that set environment variables not set yet. A value may be quoted, be
followed by a comment, and refer to variables that are set already as `$NAME`, where the name is
made of letters and digits of any script, or as `${NAME}`. The first line that cannot be read ends
the file; what came before it stays in force.
-/

namespace CloudNet

/-- Environment variables by name. -/
abbrev Environment := List (String × String)

/-- The value of a variable. An equals sign in the name reaches into the value: if `A` is `b=c`,
then `A=b` is `c`. -/
def Environment.value? (env : Environment) (name : String) : Option String :=
  match Text.cutAt '=' name.toList with
  | none => env.lookup name
  | some (name, start) => do
    let value ← env.lookup (String.ofList name)
    return String.ofList (← (start ++ ['=']).isPrefixOf? value.toList)

namespace DotEnv

/-- A character that the name of a variable may start with. -/
def isNameStart (c : Char) : Bool := c.isAlpha || c == '_'

/-- A character that the name of a variable may go on with. -/
def isNameChar (c : Char) : Bool := c.isAlphanum || c == '_' || c == '.'

/-- How characters of a value are understood. -/
inductive Quoting where
  | plain | weak | strong
  deriving DecidableEq

/-- Where in a reference to a variable a value is. -/
inductive Reference where
  | outside
  /-- After `$`. -/
  | bare
  /-- After `$` and an opening brace. -/
  | braced
  deriving DecidableEq

/-- A value that is being read. Texts are newest character first. -/
structure Reading where
  quoting : Quoting := .plain
  escaped : Bool := false
  /-- The value is over, only a comment may follow. -/
  ended : Bool := false
  reference : Reference := .outside
  name : List Char := []
  output : List Char := []

namespace Reading

/-- Add a character to the value. -/
def push (r : Reading) (c : Char) : Reading := { r with output := c :: r.output }

/-- Replace the reference that has been read by the value of its variable. -/
def substitute (r : Reading) (env : Environment) : Reading :=
  let value := (env.value? (String.ofList r.name.reverse)).getD ""
  { r with name := [], reference := .outside, output := value.toList.reverse ++ r.output }

/-- Take the character after a backslash. -/
def takeEscaped (r : Reading) (c : Char) : Option Reading :=
  let r := { r with escaped := false }
  if c ∈ ['\\', '\'', '"', '$', ' '] then some (r.push c)
  else if c = 'n' then some (r.push '\n')
  else none

/-- Take a character inside a reference. -/
def takeReferring (r : Reading) (env : Environment) (c : Char) : Reading :=
  if Text.isAlphanumeric c then { r with name := c :: r.name }
  else if r.reference = .braced then
    if c = '\x7d' then r.substitute env else { r with name := c :: r.name }
  else if c = '\x7b' && r.name.isEmpty then { r with reference := .braced }
  else
    let r := r.substitute env
    if c = '$' then { r with reference := .bare } else r.push c

/-- Take the next character; none if the value cannot be read. -/
def take (r : Reading) (env : Environment) (c : Char) : Option Reading :=
  if r.ended then if c = ' ' || c = '\t' then some r else none
  else if r.escaped then r.takeEscaped c
  else if r.quoting = .strong then
    some (if c = '\'' then { r with quoting := .plain } else r.push c)
  else if r.reference ≠ .outside then some (r.takeReferring env c)
  else if c = '$' then some { r with reference := .bare }
  else if c = '\\' then some { r with escaped := true }
  else if r.quoting = .weak then
    some (if c = '"' then { r with quoting := .plain } else r.push c)
  else if c = '\'' then some { r with quoting := .strong }
  else if c = '"' then some { r with quoting := .weak }
  else if c = ' ' || c = '\t' then some { r with ended := true }
  else some (r.push c)

/-- The value that has been read, if it can end here. -/
def finish (r : Reading) (env : Environment) : Option String :=
  if r.reference = .braced || r.quoting ≠ .plain then none
  else some (String.ofList (r.substitute env).output.reverse)

/-- Read the rest of a value. A comment after the value is not read. -/
def takeAll (r : Reading) (env : Environment) : List Char → Option String
  | [] => r.finish env
  | c :: rest =>
    if r.ended && c = '#' then r.finish env
    else (r.take env c).bind fun r => r.takeAll env rest

end Reading

/-- Read a name. -/
def name? (s : List Char) : Option (String × List Char) :=
  if s.head?.any isNameStart then
    let (name, rest) := s.span isNameChar
    some (String.ofList name, Text.trimStart rest)
  else none

/-- Read a name and the equals sign after it. The word `export` may come before them. -/
def target? (s : List Char) : Option (String × List Char) := do
  let (name, rest) ← name? s
  match rest with
  | '=' :: value => return (name, Text.trimStart value)
  | _ =>
    if name ≠ "export" then none
    match ← name? rest with
    | (name, '=' :: value) => return (name, Text.trimStart value)
    | _ => none

/-- What a line says: nothing, or the value of a variable. None if the line cannot be read. -/
def line? (env : Environment) (s : List Char) : Option (Option (String × String)) :=
  match Text.trimChars s with
  | [] | '#' :: _ => some none
  | s => do
    let (name, value) ← target? s
    if value.head? = some '#' then return some (name, "")
    return some (name, ← ({} : Reading).takeAll env value)

/-- The environment with the variables of lines set, those aside that are set already. -/
def loadLines (env : Environment) : List (List Char) → Environment
  | [] => env
  | s :: rest =>
    match line? env s with
    | none => env
    | some none => loadLines env rest
    | some (some (name, value)) =>
      loadLines (if (env.lookup name).isSome then env else env ++ [(name, value)]) rest

/-- The environment with the variables of an environment file set. -/
def load (env : Environment) (text : String) : Environment :=
  loadLines env (text.toList.splitOnP (· = '\n'))

/-- A variable that is set keeps its value. -/
theorem lookup_loadLines {name value : String} {lines : List (List Char)} {env : Environment}
    (h : env.lookup name = some value) : (loadLines env lines).lookup name = some value := by
  fun_induction loadLines env lines with
  | case1 => exact h
  | case2 => exact h
  | case3 env s rest hs ih => exact ih h
  | case4 env s rest n v hs ih =>
    refine ih ?_
    split
    · exact h
    · simp [List.lookup_append, h]

end DotEnv

end CloudNet
