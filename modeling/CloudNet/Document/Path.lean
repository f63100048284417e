import CloudNet.Text.Blank

/-!
# Document paths

A small path language that addresses elements of a document and their attributes:

* `./a/b` or `a/b`: child steps from a context element, `.` being the context itself;
* `/network-data/configuration`: steps from the top of the document;
* `*`: a step to children of any name;
* `property[@name='mode']`: a step to the children whose attribute has the value;
* a last part `@version`: the attribute of the elements that the steps lead to.

`Path.render` writes a path in its full form and `Path.ofText` reads both forms.
-/

namespace CloudNet

/-- Which element names a step accepts. -/
inductive NameTest where
  | any
  | named (name : String)
  deriving DecidableEq, Repr

/-- A condition on an element: its attribute has this value. -/
structure Condition where
  attr : String
  value : String
  deriving DecidableEq, Repr

/-- One step from an element to some of its child elements. -/
structure Step where
  test : NameTest
  condition : Option Condition := none
  deriving DecidableEq, Repr

/-- Steps from the context element or from the top, and perhaps an attribute at their end. -/
structure Path where
  absolute : Bool := false
  steps : List Step
  attr : Option String := none
  deriving DecidableEq, Repr

/-- Why a text is no path. Parts and the whole text are named as written, without outer blanks. -/
inductive PathError where
  | empty
  | attributeNotLast (part whole : String)
  | invalidStep (part whole : String)
  deriving DecidableEq, Repr

namespace PathError

/-- The error in words. -/
def message : PathError → String
  | empty => "empty path expression"
  | attributeNotLast part whole => s!"attribute step '{part}' must be last in '{whole}'"
  | invalidStep part whole => s!"invalid step '{part}' in '{whole}'"

end PathError

/-! ## Names -/

namespace Path

/-- A character that a name in a path may start with. -/
def isNameStart (c : Char) : Bool :=
  ('A' ≤ c && c ≤ 'Z') || ('a' ≤ c && c ≤ 'z') || c == '_'

/-- A character that may follow in a name. -/
def isNamePart (c : Char) : Bool :=
  isNameStart c || ('0' ≤ c && c ≤ '9') || c == '.' || c == '-'

/-- The text is a name: a letter or underscore, then letters, digits, `_`, `.` and `-`. -/
def isName : List Char → Bool
  | [] => false
  | c :: rest => isNameStart c && rest.all isNamePart

/-- Read a name. -/
def name? (s : List Char) : Option String := if isName s then some (String.ofList s) else none

end Path

/-! ## Writing -/

namespace NameTest

/-- The test as written in a step. -/
def text : NameTest → String
  | any => "*"
  | named name => name

end NameTest

namespace Condition

/-- The condition as written after a step's name. -/
def text (c : Condition) : String := "[@" ++ c.attr ++ "='" ++ c.value ++ "']"

end Condition

namespace Step

/-- The step as written. -/
def text (s : Step) : String := s.test.text ++ (s.condition.map Condition.text).getD ""

end Step

namespace Path

/-- The parts between the separators: the steps and then the attribute. -/
def parts (p : Path) : List String :=
  p.steps.map Step.text ++ (p.attr.map fun a => "@" ++ a).toList

/-- The path in full: from `/` or from `./`, and `.` for the context element itself. -/
def render (p : Path) : String :=
  if p.absolute then "/" ++ Text.joinWith "/" p.parts
  else if p.parts = [] then "."
  else "./" ++ Text.joinWith "/" p.parts

/-- Some text is the written form of the path. -/
structure WellFormed (p : Path) : Prop where
  tests : ∀ s ∈ p.steps, ∀ n, s.test = .named n → isName n.toList
  conditions : ∀ s ∈ p.steps, ∀ c ∈ s.condition, isName c.attr.toList ∧ '\'' ∉ c.value.toList
  attrName : ∀ a ∈ p.attr, isName a.toList
  somewhere : p.absolute = true → p.steps ≠ [] ∨ p.attr.isSome

/-! ## Reading -/

/-- The parts of a text between separators `/`, where those inside single quotes do not count. The
flag says whether the text starts inside quotes. -/
def splitParts : Bool → List Char → List (List Char)
  | _, [] => [[]]
  | quoted, c :: rest =>
    if c = '/' && !quoted then [] :: splitParts quoted rest
    else
      match splitParts (if c = '\'' then !quoted else quoted) rest with
      | [] => [[c]]
      | part :: more => (c :: part) :: more

/-- Read a name test. -/
def test? (s : List Char) : Option NameTest :=
  if s = ['*'] then some .any else (name? s).map .named

/-- Read `@attribute='value']`, what follows the opening bracket of a condition. -/
def condition? (s : List Char) : Option Condition :=
  match s with
  | '@' :: rest =>
    match Text.cutAt '=' rest with
    | some (attr, '\'' :: quoted) =>
      match Text.cutAt '\'' quoted with
      | some (value, [']']) => (name? attr).map fun a => ⟨a, String.ofList value⟩
      | _ => none
    | _ => none
  | _ => none

/-- Read a step. -/
def step? (s : List Char) : Option Step :=
  match Text.cutAt '[' s with
  | none => (test? s).map fun t => ⟨t, none⟩
  | some (test, condition) => do return ⟨← test? test, some (← condition? condition)⟩

/-- Read `@name`. -/
def attr? : List Char → Option String
  | '@' :: rest => name? rest
  | _ => none

/-- Read the parts of a path: steps, of which the last may be an attribute instead. `whole` is the
text they are parts of. -/
def ofParts (whole : String) : List (List Char) → Except PathError (List Step × Option String)
  | [] => .ok ([], none)
  | part :: rest =>
    match attr? part with
    | some a =>
      if rest = [] then .ok ([], some a) else .error (.attributeNotLast (String.ofList part) whole)
    | none =>
      match step? part with
      | some s => (ofParts whole rest).map fun (steps, a) => (s :: steps, a)
      | none => .error (.invalidStep (String.ofList part) whole)

/-- Read a path with blanks around it. -/
def ofText (s : String) : Except PathError Path :=
  let trimmed := Text.trimChars s.toList
  let whole := String.ofList trimmed
  match trimmed with
  | [] => .error .empty
  | '/' :: body =>
    (ofParts whole (splitParts false body)).map fun (steps, a) => ⟨true, steps, a⟩
  | body =>
    let ps := splitParts false body
    (ofParts whole (if ps.head? = some ['.'] then ps.tail else ps)).map
      fun (steps, a) => ⟨false, steps, a⟩

/-! ## Laws -/

/-- Cutting never yields nothing: a text without separators is its own only part. -/
theorem splitParts_ne_nil (quoted : Bool) (s : List Char) : splitParts quoted s ≠ [] := by
  cases s with
  | nil => simp [splitParts]
  | cons c s =>
    rw [splitParts]
    split
    · simp
    · split <;> simp

/-- A name holds none of the characters that end it. -/
theorem isNamePart_of_mem_isName {s : List Char} (h : isName s = true) {c : Char} (hc : c ∈ s) :
    isNamePart c = true := by
  cases s with
  | nil => simp at hc
  | cons d s =>
    simp only [isName, Bool.and_eq_true, List.all_eq_true] at h
    rcases List.mem_cons.1 hc with rfl | hc
    · simp [isNamePart, h.1]
    · exact h.2 _ hc

end Path

/-! ## Routes -/

/-- The steps of a relative path, from a context element that is understood. -/
abbrev Route := List Step

namespace Route

/-- The route as a path from the context element. -/
def toPath (r : Route) : Path := { steps := r }

/-- To the children of a name. -/
def child (name : String) : Route := [⟨.named name, none⟩]

/-- To the children of a name inside the children of another. -/
def grandchild (outer inner : String) : Route := child outer ++ child inner

/-- To the `property` children of the given name. -/
def property (name : String) : Route := [⟨.named "property", some ⟨"name", name⟩⟩]

/-- To the children of a name inside the `property` children of the given name. -/
def propertyItem (name item : String) : Route := property name ++ child item

/-- To the values of the property of the given name. -/
def propertyValue (name : String) : Route := propertyItem name "value"

end Route

end CloudNet
