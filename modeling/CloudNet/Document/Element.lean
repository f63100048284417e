import CloudNet.Document.Path

/-!
# Elements and documents

A document is a tree of elements with text between them. Comments, processing instructions and text
outside the root leave no trace in it. An attribute that is looked up by its bare name is one
without a namespace.

`Document.select` gives the elements that a path leads to, in document order, and
`Document.values` their texts or the values of the path's attribute.
-/

namespace CloudNet

/-- An attribute of an element. -/
structure Attribute where
  /-- The namespace of the name, if it has one. -/
  space : Option String := none
  name : String
  value : String
  deriving DecidableEq, Repr

/-- What stands between the tags of an element. -/
inductive Content where
  | element (name : String) (attributes : List Attribute) (content : List Content)
  | text (text : String)

/-- An element: the local part of its name, its attributes, and what stands between its tags. -/
structure Element where
  name : String
  attributes : List Attribute
  content : List Content

/-- A document: its root element, and the elements after it on the top level. A text has such only
if its entities end the root before its own tags do. -/
structure Document where
  root : Element
  later : List Element := []

mutual

/-- The texts inside a piece of content, in document order. -/
def Content.texts : Content → List String
  | .element _ _ content => Content.textsOf content
  | .text s => [s]

/-- The texts inside pieces of content, in document order. -/
def Content.textsOf : List Content → List String
  | [] => []
  | c :: rest => c.texts ++ Content.textsOf rest

end

/-- The element that a piece of content is. -/
def Content.element? : Content → Option Element
  | .element name attributes content => some ⟨name, attributes, content⟩
  | .text _ => none

namespace Element

/-- The element as content of another. -/
def toContent (e : Element) : Content := .element e.name e.attributes e.content

/-- The child elements, in document order. -/
def children (e : Element) : List Element := e.content.filterMap Content.element?

/-- All text inside the element, without blanks at either end. -/
def text (e : Element) : String := Text.trim (String.join (Content.textsOf e.content))

/-- The value of the attribute with this name and no namespace. -/
def attr? (e : Element) (name : String) : Option String :=
  (e.attributes.find? fun a => a.space = none && a.name = name).map Attribute.value

/-- The `name` attribute, by which most entities are known; an empty one counts as none. -/
def nameAttr? (e : Element) : Option String := (e.attr? "name").filter (· ≠ "")

/-- The element is one that a step goes to. -/
def satisfies (e : Element) (s : Step) : Bool :=
  (match s.test with
    | .any => true
    | .named name => e.name = name) &&
  (match s.condition with
    | none => true
    | some c => e.attr? c.attr = some c.value)

/-- The children that a step goes to. -/
def step (e : Element) (s : Step) : List Element := e.children.filter (·.satisfies s)

/-- The children that a step goes to from any of some elements. -/
def stepAll (es : List Element) (s : Step) : List Element := es.flatMap (·.step s)

/-- The elements that a route leads to, in document order: all that one step goes to before the
next one is taken. -/
def follow (e : Element) (route : Route) : List Element := route.foldl stepAll [e]

/-- The texts of the elements that a route leads to. -/
def texts (e : Element) (route : Route) : List String := (e.follow route).map text

/-- The text of the last of the elements that a route leads to: later ones override earlier ones. -/
def lastText? (e : Element) (route : Route) : Option String := (e.texts route).getLast?

end Element

namespace Document

/-- The elements of the top level. -/
def topElements (d : Document) : List Element := d.root :: d.later

/-- The whole document, as an element without name and attributes around those of the top level. -/
def top (d : Document) : Element := ⟨"", [], d.topElements.map Element.toContent⟩

/-- Where a path starts from. -/
def start (d : Document) (p : Path) (context : Element) : Element :=
  if p.absolute then d.top else context

/-- The elements that the steps of a path lead to. -/
def select (d : Document) (p : Path) (context : Element) : List Element :=
  (d.start p context).follow p.steps

/-- The texts of the selected elements, or those values of the path's attribute they have. -/
def values (d : Document) (p : Path) (context : Element) : List String :=
  match p.attr with
  | some name => (d.select p context).filterMap (·.attr? name)
  | none => (d.select p context).map Element.text

end Document

/-! ## Laws -/

/-- Going on from all of a list at once is going on from each of it in turn. -/
theorem foldl_flatMap {α β : Type} (f : β → α → List α) (xs : List α) (bs : List β) :
    bs.foldl (fun xs b => xs.flatMap (f b)) xs =
      xs.flatMap fun x => bs.foldl (fun xs b => xs.flatMap (f b)) [x] := by
  induction bs generalizing xs with
  | nil => simp
  | cons b bs ih =>
    have hone (x : α) : (b :: bs).foldl (fun xs b => xs.flatMap (f b)) [x] =
        (f b x).flatMap fun y => bs.foldl (fun xs b => xs.flatMap (f b)) [y] := by
      rw [List.foldl_cons, ih, List.flatMap_singleton]
    simp only [hone]
    rw [List.foldl_cons, ih, List.flatMap_assoc]

namespace Element

@[simp] theorem element?_toContent (e : Element) : e.toContent.element? = some e := rfl

@[simp] theorem follow_nil (e : Element) : e.follow [] = [e] := rfl

/-- Following a route from some elements is following it from each of them in turn. -/
theorem foldl_stepAll (es : List Element) (route : Route) :
    route.foldl stepAll es = es.flatMap (·.follow route) :=
  foldl_flatMap (fun (s : Step) (e : Element) => e.step s) es route

/-- Following a route is taking the first step and following the others from there. -/
theorem follow_cons (e : Element) (s : Step) (route : Route) :
    e.follow (s :: route) = (e.step s).flatMap (·.follow route) := by
  rw [follow, List.foldl_cons, foldl_stepAll, stepAll, List.flatMap_singleton]

/-- Following one step is taking it. -/
theorem follow_singleton (e : Element) (s : Step) : e.follow [s] = e.step s := by
  simp [follow_cons]

/-- Following two routes one after the other is following the one they make together. -/
theorem follow_append (e : Element) (p q : Route) :
    e.follow (p ++ q) = (e.follow p).flatMap (·.follow q) := by
  induction p generalizing e with
  | nil => simp
  | cons s p ih => simp [follow_cons, ih, List.flatMap_assoc]

/-- The elements of a list of elements are these themselves. -/
theorem children_map_toContent (name : String) (attributes : List Attribute) (es : List Element) :
    (Element.mk name attributes (es.map toContent)).children = es := by
  simp [children, List.filterMap_map, Function.comp_def]

end Element

@[simp] theorem Document.children_top (d : Document) : d.top.children = d.topElements :=
  Element.children_map_toContent _ _ _

end CloudNet
