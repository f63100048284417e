import CloudNet.Document.Element
import CloudNet.Document.Xml.Markup

/-!
# Namespaces

A start tag may bind qualifiers to namespaces for its element and all inside it. Attributes are told
apart by namespace and local part; an attribute without a qualifier has no namespace.
-/

namespace CloudNet.Xml

/-- The namespaces in force, by qualifier; the empty qualifier stands for the default namespace. The
innermost binding comes first. -/
abbrev Scope := List (List Char × String)

/-- The namespace that the qualifier `xml` stands for everywhere. -/
def xmlSpace : String := "http://www.w3.org/XML/1998/namespace"

/-- The namespace of namespace declarations, which cannot be declared itself. -/
def xmlnsSpace : String := "http://www.w3.org/2000/xmlns/"

/-- The qualifier that is bound to `xmlSpace`. -/
def xmlQualifier : List Char := "xml".toList

/-- The name that declares namespaces, as a qualifier or as a local part. -/
def xmlnsName : List Char := "xmlns".toList

/-- The attributes of a tag, sorted out: the namespaces it declares and its other attributes. -/
structure TagParts where
  declared : Scope := []
  attributes : List (QName × String) := []

/-- Add one attribute of a tag, references replaced, to those before it. -/
def TagParts.add (parts : TagParts) (n : QName) (value : String) : Option TagParts :=
  if n.qualifier = xmlnsName then
    if value = xmlnsSpace || (n.base = xmlQualifier) != (value = xmlSpace)
        || (parts.declared.lookup n.base).isSome then none
    else if value = xmlSpace then some parts
    else some { parts with declared := parts.declared ++ [(n.base, value)] }
  else if n.base = xmlnsName then
    if value = xmlSpace || value = xmlnsSpace then none
    else some { parts with declared := parts.declared ++ [([], value)] }
  else some { parts with attributes := parts.attributes ++ [(n, value)] }

/-- The namespace of an attribute's name; none without a qualifier, and failure if the qualifier is
not bound. -/
def attributeSpace? (scope : Scope) (n : QName) : Option (Option String) :=
  if n.qualifier = [] then some none
  else if n.qualifier = xmlQualifier then some (some xmlSpace)
  else (scope.lookup n.qualifier).map some

/-- The attributes of an element with their namespaces. No two may have one name in one
namespace. -/
def resolveAttributes? (scope : Scope) : List (QName × String) → Option (List Attribute)
  | [] => some []
  | (n, value) :: rest => do
    let space ← attributeSpace? scope n
    let others ← resolveAttributes? scope rest
    let name := String.ofList n.base
    if others.any fun a => a.space = space && a.name = name then none
    return ⟨space, name, value⟩ :: others

/-- The name of an element is usable: its qualifier, if any, is bound. -/
def elementNameOk (scope : Scope) (n : QName) : Bool :=
  n.qualifier = [] || (scope.lookup n.qualifier).isSome

end CloudNet.Xml
