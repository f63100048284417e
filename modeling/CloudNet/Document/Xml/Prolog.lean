import CloudNet.Document.Xml.Markup

/-!
# Prologs

What comes before the root element: the XML declaration, remarks, and a document type declaration.
Of the latter only the internal entities matter; external ones and all other declarations are
passed over.
-/

namespace CloudNet.Xml

open CloudNet.Text

/-- The replacement texts of entities by name. Of two declared with one name the first counts. -/
abbrev Entities := List (List Char × List Char)

/-- What matters of a prolog: the number of its remarks and its entities. -/
structure Prolog where
  remarks : Nat := 0
  entities : Entities := []

/-- White space, which is needed unless the declaration or the text ends here. -/
def declarationGap : Scanner Unit := do
  let gap ← Scanner.takeWhile isSpace
  let stop ← Scanner.startsWith "?>"
  Scanner.check (!gap.isEmpty || stop || (← Scanner.atEnd))

/-- The XML declaration. -/
def declaration : Scanner Unit := do
  Scanner.literal "<?xml"
  declarationGap
  Scanner.check (← Scanner.startsWith "version")
  let _ ← rawAttribute
  declarationGap
  if ← Scanner.startsWith "encoding" then
    let _ ← rawAttribute
    declarationGap
  if ← Scanner.startsWith "standalone" then
    let _ ← rawAttribute
  spaces
  Scanner.literal "?>"

/-- Remarks with white space around them, and how many they are. -/
def remarks : Scanner Nat := do
  let found ← Scanner.many do
    spaces
    if ← Scanner.startsWith "<!--" then
      comment
      return some ()
    if ← Scanner.startsWith "<?" then
      instruction
      return some ()
    return none
  return found.length

/-- The reference to an external text. -/
def externalId : Scanner Unit := do
  let isPublic ← Scanner.startsWith "PUBLIC"
  Scanner.literal (if isPublic then "PUBLIC" else "SYSTEM")
  someSpaces
  let _ ← quoted fun _ => true
  if isPublic then
    someSpaces
    let _ ← quoted fun _ => true

/-- The meaning of an entity: a replacement text, or an external one, which counts as none. -/
def entityText (isGeneral : Bool) : Scanner (Option (List Char)) := do
  let c ← Scanner.peek?
  if c = some '"' || c = some '\'' then
    return some (← quoted fun _ => true)
  externalId
  if isGeneral then
    spaces
    if ← Scanner.startsWith "NDATA" then
      Scanner.literal "NDATA"
      someSpaces
      let _ ← name
  return none

/-- The declaration of an entity, and the name and replacement text if it has one. -/
def entityDeclaration : Scanner (Option (List Char × List Char)) := do
  Scanner.literal "<!ENTITY"
  someSpaces
  let isParameter ← Scanner.tryChar '%'
  if isParameter then someSpaces
  let n ← name
  someSpaces
  let value ← entityText !isParameter
  spaces
  Scanner.char '>'
  return value.map fun v => (n, v)

/-- The effect of one declaration of the internal subset. -/
inductive Declared where
  | entity (name text : List Char)
  | remark
  | other

/-- The next declaration of the internal subset, unless it ends here. -/
def declared : Scanner (Option Declared) := do
  spaces
  if ← Scanner.startsWith "<!ENTITY" then
    match ← entityDeclaration with
    | some (n, v) => return some (.entity n v)
    | none => return some .other
  if ← Scanner.startsWith "<!--" then
    comment
    return some .remark
  if ← Scanner.startsWith "<?" then
    instruction
    return some .remark
  if ← Scanner.tryChar ']' then
    spaces
    Scanner.char '>'
    return none
  let s ← Scanner.rest
  Scanner.check (["<!ELEMENT", "<!ATTLIST", "<!NOTATION"].any (·.toList.isPrefixOf s))
  let _ ← Scanner.through ">"
  return some .other

/-- A document type declaration. -/
def doctype : Scanner Prolog := do
  Scanner.literal "<!DOCTYPE"
  someSpaces
  let _ ← name
  spaces
  if (← Scanner.startsWith "SYSTEM") || (← Scanner.startsWith "PUBLIC") then externalId
  spaces
  if ← Scanner.tryChar '>' then return {}
  Scanner.char '['
  let items ← Scanner.many declared
  return {
    remarks := (items.filter fun | .remark => true | _ => false).length
    entities := items.filterMap fun | .entity n v => some (n, v) | _ => none }

/-- Everything before the root element. A document type declaration has to be allowed. -/
def prolog (allowDoctype : Bool) : Scanner Prolog := do
  if ← Scanner.startsWith "<?xml " then declaration
  let before ← remarks
  if ← Scanner.startsWith "<!DOCTYPE" then
    Scanner.check allowDoctype
    let p ← doctype
    return { p with remarks := before + p.remarks + (← remarks) }
  return { remarks := before }

end CloudNet.Xml
