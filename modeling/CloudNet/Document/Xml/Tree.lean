import CloudNet.Document.Xml.Namespace
import CloudNet.Document.Xml.Reference
import CloudNet.Notice

/-!
# Documents from XML

Tokens are put together to a tree from left to right: the elements whose end tags have not come yet
form a stack. A reference to an entity stands for the tokens of the entity's text, which may leave
elements open and end ones that began before it; in the end no element may be open. A start tag that
is cut off adds no element, but its attributes go to the next tag. Three limits keep small texts
from standing for huge trees: the number of nodes, how deep entities are inside each other, and how
many references entities hold.

`Document.ofXml` reads a whole text. All its failures are one: the text is no usable document.
-/

namespace CloudNet.Xml

open CloudNet.Text

/-- An element whose end tag has not come yet. -/
structure Frame where
  name : QName
  attributes : List Attribute
  /-- The namespaces in force between its tags. -/
  scope : Scope
  /-- Its content so far, newest first. -/
  content : List Content := []

/-- A tree that is being put together. -/
structure Growth where
  nodeLimit : Nat
  /-- The nodes so far, the document itself included. -/
  nodes : Nat
  /-- The newest node is a text, which more text would continue. -/
  inText : Bool := false
  /-- The references inside entities since the last one outside. -/
  used : Nat := 0
  /-- The attributes that wait for the end of a tag. -/
  pending : TagParts := {}
  /-- The elements whose end tags have not come yet, innermost first. -/
  frames : List Frame := []
  /-- The finished elements of the top level, newest first. -/
  finished : List Element := []

/-- How deep entities may be inside each other. -/
def maxEntityDepth : Nat := 10

/-- How many references a reference to an entity may lead to. -/
def maxEntityReferences : Nat := 255

namespace Growth

/-- Count one more node that is no text. -/
def countNode (g : Growth) : Option Growth :=
  if g.nodes < g.nodeLimit then some { g with nodes := g.nodes + 1, inText := false } else none

/-- Add text to the innermost element. On the top level it only counts as a node. -/
def addText (g : Growth) (s : List Char) : Option Growth := do
  let g ← if g.inText then some g else g.countNode
  let g := { g with inText := true }
  match g.frames with
  | [] => return g
  | f :: fs =>
    return { g with frames := { f with content := .text (String.ofList s) :: f.content } :: fs }

/-- Add the characters of a run (newest first) to the innermost element, if there are any. -/
def addRun (g : Growth) (buffer : List Char) : Option Growth :=
  if buffer.isEmpty then some g else g.addText buffer.reverse

/-- Add a finished element to the innermost one, or to the top level. -/
def addElement (g : Growth) (e : Element) : Growth :=
  match g.frames with
  | f :: fs => { g with frames := { f with content := e.toContent :: f.content } :: fs }
  | [] => { g with finished := e :: g.finished }

/-- The namespaces in force in the tag that ends now, its attributes with theirs, and the tree
without attributes that wait. -/
def settle (g : Growth) : Option (Scope × List Attribute × Growth) := do
  let scope := g.pending.declared ++ (g.frames.head?.map Frame.scope).getD []
  return (scope, ← resolveAttributes? scope g.pending.attributes, { g with pending := {} })

/-- Take the end of a start tag, where the element ends too if it is `closed`. -/
def openTag (g : Growth) (n : QName) (closed : Bool) : Option Growth := do
  let (scope, attributes, g) ← g.settle
  if !elementNameOk scope n then none
  let g ← g.countNode
  if closed then return g.addElement ⟨String.ofList n.base, attributes, []⟩
  return { g with frames := ⟨n, attributes, scope, []⟩ :: g.frames }

/-- Take an end tag, which has to match the innermost element. -/
def closeTag (g : Growth) (n : QName) : Option Growth := do
  let (_, _, g) ← g.settle
  match g.frames with
  | f :: fs =>
    if n != f.name then none
    return { g with frames := fs, inText := false }.addElement
      ⟨String.ofList n.base, f.attributes, f.content.reverse⟩
  | [] => none

/-- Take the rest of a run of character data. `buffer` holds what precedes it (newest first), and
`asIs` says that the next plain character is kept whatever it is. -/
def addPieces (inside : Bool) (enter : List Char → Growth → Option Growth) :
    List Char → Bool → List Piece → Growth → Option Growth
  | buffer, _, [], g => g.addRun buffer
  | buffer, asIs, .plain c :: rest, g =>
    addPieces inside enter (if asIs then c :: buffer else pushChar buffer c rest.isEmpty) false
      rest g
  | buffer, asIs, .coded c :: rest, g =>
    if inside then addPieces inside enter (pushChar buffer c rest.isEmpty) asIs rest g
    else addPieces inside enter (c :: buffer) true rest g
  | buffer, _, .entity n :: rest, g => do
    addPieces inside enter [] false rest (← enter n (← g.addRun buffer))

/-- The attributes of a tag with references replaced, and the count of references after them. -/
def attributeValues (entities : Entities) (depth : Nat) (inside : Bool) :
    Nat → List RawAttribute → Option (List (QName × String) × Nat)
  | used, [] => some ([], used)
  | used, a :: rest => do
    let (value, used) ← attributeChars entities depth inside used a.value
    let (others, used) ← attributeValues entities depth inside used rest
    return ((a.name, String.ofList value) :: others, used)

/-- Take one token. `enter` takes the tokens of an entity, of which `depth` may be inside each
other; `inside` says that the token itself is one of an entity. -/
def take (entities : Entities) (depth : Nat) (inside : Bool)
    (enter : List Char → Growth → Option Growth) (g : Growth) : Token → Option Growth
  | .startTag n attributes ending => do
    if n.qualifier = xmlnsName then none
    let (values, used) ← attributeValues entities depth inside g.used attributes
    let pending ← values.foldlM (fun parts v => parts.add v.1 v.2) g.pending
    let g := { g with used, pending, inText := false }
    if ending = .cut then return g
    g.openTag n (ending = .closes)
  | .endTag n => g.closeTag n
  | .text raw => do addPieces inside enter [] false (← pieces? raw) g
  | .cdata s => g.addText (lineFeeds s)
  | .remark => g.countNode

/-- Take the tokens of an entity. -/
def enter (entities : Entities) : Nat → Bool → List Char → Growth → Option Growth
  | 0, _, _, _ => none
  | depth + 1, inside, name, g => do
    let text ← entities.lookup name
    if inside && g.used = maxEntityReferences then none
    let g ← (← entityTokens? text).foldlM
      (take entities depth true fun name g => enter entities depth true name g)
      { g with used := if inside then g.used + 1 else g.used }
    return { g with used := if inside then g.used else 0 }

end Growth

/-- What a reader of documents allows. -/
structure Settings where
  allowDoctype : Bool := false
  /-- The most nodes a document may have: itself, its elements, texts, comments and instructions. -/
  nodeLimit : Nat := 16777216

/-- The text without a byte order mark. -/
def dropMark : List Char → List Char
  | '\uFEFF' :: s => s
  | s => s

/-- Read a document. -/
def document? (settings : Settings) (s : List Char) : Option Document := do
  let (p, s) ← prolog settings.allowDoctype (dropMark s)
  let (tokens, s) ← element s
  let after ← Scanner.readAll remarks s
  let nodes := 1 + p.remarks
  if nodes > settings.nodeLimit then none
  let g ← tokens.foldlM
    (Growth.take p.entities maxEntityDepth false (Growth.enter p.entities maxEntityDepth false))
    { nodeLimit := settings.nodeLimit, nodes }
  if !g.frames.isEmpty || g.nodes + after > settings.nodeLimit then none
  match g.finished.reverse with
  | [] => none
  | root :: later => return ⟨root, later⟩

end CloudNet.Xml

namespace CloudNet

/-- Read a document from XML text. -/
def Document.ofXml (settings : Xml.Settings) (s : String) : Except Fault Document :=
  match Xml.document? settings s.toList with
  | some d => .ok d
  | none => .error (.input .malformedXml)

end CloudNet
