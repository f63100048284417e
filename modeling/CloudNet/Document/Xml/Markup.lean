import CloudNet.Document.Xml.Name

/-!
# Markup

The content of a document as a sequence of tokens: tags, character data, and remarks (comments and
processing instructions), which are read and dropped. References inside character data and
attribute values stay as written.

How far a text is read depends on its own tags alone. The root element reaches up to the end tag
that answers its start tag, or to the end of the text. An entity's text reaches up to an end tag
that answers none of its start tags, and what follows that tag is never looked at.
-/

namespace CloudNet.Xml

open CloudNet.Text

/-- An attribute as written, references not yet replaced. -/
structure RawAttribute where
  name : QName
  value : List Char

/-- How a start tag ends. -/
inductive TagEnd where
  /-- With `>`, and the content of the element begins. -/
  | opens
  /-- With `/>`, and the element ends too. -/
  | closes
  /-- It does not: the text ends before the tag. -/
  | cut
  deriving DecidableEq

/-- A token of content. -/
inductive Token where
  | startTag (name : QName) (attributes : List RawAttribute) (ending : TagEnd)
  | endTag (name : QName)
  /-- Character data as written, references not yet replaced. -/
  | text (raw : List Char)
  /-- A marked section, where no character has a meaning of its own. -/
  | cdata (text : List Char)
  /-- A comment or a processing instruction. -/
  | remark

/-- A quotation mark, single or double. -/
def quoteMark : Scanner Char := do
  let c ← Scanner.next
  Scanner.check (c == '\'' || c == '"')
  return c

/-- The text between two quotation marks of one kind. -/
def quoted (allowed : Char → Bool) : Scanner (List Char) := do
  let mark ← quoteMark
  let value ← Scanner.takeWhile fun c => c != mark && allowed c
  Scanner.char mark
  return value

/-- An attribute: a name and a quoted value without `<`. -/
def rawAttribute : Scanner RawAttribute := do
  let n ← qname
  spaces
  Scanner.char '='
  spaces
  let value ← quoted (· != '<')
  Scanner.check (value.all isChar)
  return ⟨n, value⟩

/-- The next attribute of a tag, with white space before it, unless the tag ends here. -/
def nextAttribute : Scanner (Option RawAttribute) := do
  let gap ← Scanner.takeWhile isSpace
  let c ← Scanner.peek?
  if c = some '/' || c = some '>' || (c.isNone && gap.isEmpty) then return none
  Scanner.check !gap.isEmpty
  return some (← rawAttribute)

/-- A start tag. A text may end right after the tag's name or after one of its attributes. -/
def startTag : Scanner Token := do
  Scanner.char '<'
  let n ← qname
  let attributes ← Scanner.many nextAttribute
  if ← Scanner.atEnd then return .startTag n attributes .cut
  let closed ← Scanner.tryChar '/'
  Scanner.char '>'
  return .startTag n attributes (if closed then .closes else .opens)

/-- An end tag. -/
def endTag : Scanner Token := do
  Scanner.literal "</"
  let n ← qname
  spaces
  Scanner.char '>'
  return .endTag n

/-- A comment. Two hyphens in a row end it. -/
def comment : Scanner Unit := do
  Scanner.literal "<!--"
  let s ← charsThrough "-->"
  Scanner.check (!Scanner.occurs "--" s && s.getLast? != some '-')

/-- A processing instruction. It may not look like a declaration of the document. -/
def instruction : Scanner Unit := do
  Scanner.check !(← Scanner.startsWith "<?xml ")
  Scanner.literal "<?"
  let _ ← name
  spaces
  let _ ← charsThrough "?>"

/-- A marked section. -/
def cdata : Scanner Token := do
  Scanner.literal "<![CDATA["
  return .cdata (← charsThrough "]]>")

/-- Character data up to the next markup. The end of a marked section may not occur in it. -/
def text : Scanner Token := do
  let s ← Scanner.takeWhile (· != '<')
  Scanner.check (s.all isChar && !Scanner.occurs "]]>" s)
  return .text s

/-- The next token. -/
def token : Scanner Token := do
  if (← Scanner.peek?) != some '<' then text
  else if ← Scanner.startsWith "</" then endTag
  else if ← Scanner.startsWith "<!--" then comment *> pure .remark
  else if ← Scanner.startsWith "<![CDATA[" then cdata
  else if ← Scanner.startsWith "<?" then instruction *> pure .remark
  else startTag

namespace Token

/-- How many elements are open after a token, if `n` are before it. -/
def openAfter (n : Nat) : Token → Nat
  | startTag _ _ .opens => n + 1
  | endTag _ => n - 1
  | _ => n

/-- The first tag, if there is one, is a start tag. -/
def beginsFirst : List Token → Bool
  | [] => true
  | startTag .. :: _ => true
  | endTag _ :: _ => false
  | _ :: rest => beginsFirst rest

end Token

/-- The tokens up to the end tags of `n` open elements, or up to the end of the text if that comes
first. They are at most as many as the characters of `fuel`. -/
def contentWithin : List Char → Nat → Scanner (List Token)
  | _, 0 => return []
  | [], _ => do
    Scanner.check (← Scanner.atEnd)
    return []
  | _ :: fuel, n => do
    if ← Scanner.atEnd then return []
    let t ← token
    return t :: (← contentWithin fuel (t.openAfter n))

/-- The tokens up to the end tags of `n` open elements, or up to the end of the text. -/
def content (n : Nat) : Scanner (List Token) := fun s => contentWithin s n s

/-- The tokens of an element with its tags. -/
def element : Scanner (List Token) := do
  let t ← startTag
  return t :: (← content (t.openAfter 0))

/-- The tokens of an entity's text. It is read as content of one open element, which it may end, but
not before it has begun another. -/
def entityTokens? (s : List Char) : Option (List Token) := do
  let (tokens, _) ← content 1 s
  if Token.beginsFirst tokens then some tokens else none

end CloudNet.Xml
