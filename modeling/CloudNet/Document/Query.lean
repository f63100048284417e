import CloudNet.Document.Element
import CloudNet.Notice

/-!
# Queries

Documents asked by paths in text form. A text that is no path, or one that ends in an attribute
where elements are wanted, leads nowhere and is noted.
-/

namespace CloudNet

/-- The path of a text. A text that is none is noted. -/
def Path.ofTextNoted (expression : String) : Noted (Option Path) :=
  match Path.ofText expression with
  | .ok p => return some p
  | .error cause => do
    Noted.tell (.badPath cause)
    return none

namespace Document

/-- The elements that a path leads to. -/
def elementsAt (d : Document) (expression : String) (context : Element) : Noted (List Element) := do
  match ← Path.ofTextNoted expression with
  | none => return []
  | some p =>
    Noted.tellIf p.attr.isSome (.attributeInNodeSet expression)
    return if p.attr.isSome then [] else d.select p context

/-- The texts or attribute values that a path leads to. -/
def valuesAt (d : Document) (expression : String) (context : Element) : Noted (List String) := do
  match ← Path.ofTextNoted expression with
  | none => return []
  | some p => return d.values p context

/-- The last one of the values that a path leads to. -/
def lastValueAt? (d : Document) (expression : String) (context : Element) :
    Noted (Option String) := do
  return (← d.valuesAt expression context).getLast?

/-! ## Laws -/

/-- The text of a path leads where the path does. -/
theorem value_elementsAt {expression : String} {p : Path} (h : Path.ofText expression = .ok p)
    (hp : p.attr = none) (d : Document) (context : Element) :
    (d.elementsAt expression context).value = d.select p context := by
  simp [elementsAt, Path.ofTextNoted, h, hp]

/-- The text of a path leads to the path's values. -/
theorem value_valuesAt {expression : String} {p : Path} (h : Path.ofText expression = .ok p)
    (d : Document) (context : Element) :
    (d.valuesAt expression context).value = d.values p context := by
  simp [valuesAt, Path.ofTextNoted, h]

end Document

end CloudNet
