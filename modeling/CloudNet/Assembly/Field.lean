import CloudNet.Document.Element
import CloudNet.Model.Network

/-!
# Fields of entities in a document

The value of a field is the text of the last element on its route; absent fields are empty or zero.
-/

namespace CloudNet

namespace Element

/-- The text of a field, or no text. -/
def stringAt (e : Element) (route : Route) : String := (e.lastText? route).getD ""

/-- The integer that a field starts with, or zero. -/
def intAt (e : Element) (route : Route) : Int32 :=
  ((e.lastText? route).map Text.leadingInt).getD 0

/-- The address in a field, or zero. -/
def addressAt (e : Element) (route : Route) : Ipv4 := ((e.lastText? route).map Ipv4.ofText).getD 0

/-- The addresses in all fields on a route. -/
def addressesAt (e : Element) (route : Route) : List Ipv4 := (e.texts route).map Ipv4.ofText

/-- The name of an entity, or no name. -/
def entityName (e : Element) : String := e.nameAttr?.getD ""

/-- The name of an entity; a notice is made if it has none. -/
def notedName (e : Element) (notice : Notice) : Noted String := do
  Noted.tellIf e.nameAttr?.isNone notice
  return e.entityName

@[simp] theorem value_notedName (e : Element) (notice : Notice) :
    (e.notedName notice).value = e.entityName := rfl

end Element

namespace NetworkModel

/-- A part of a model may be filled from a document: the model is set up and the part is empty. -/
def fillable (m : NetworkModel) (part : Section) (isEmpty : Bool) : Except Fault Unit :=
  if !m.initialized then .error (.contract .uninitialized)
  else if !isEmpty then .error (.contract (.notEmpty part))
  else .ok ()

end NetworkModel

end CloudNet
