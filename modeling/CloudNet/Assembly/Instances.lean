import CloudNet.Assembly.Field

/-!
# Instances and their interfaces from a document

In a network of tenant networks each instance also has interfaces. They are kept in one list for the
whole model, in the order of the document; each instance has the positions of its own, which follow
each other.
-/

namespace CloudNet

/-- The hardware address in a field. A text that is none is noted. -/
def Element.macAt (e : Element) (name : String) (route : Route) : Noted Mac :=
  match e.lastText? route with
  | none => return {}
  | some s =>
    match Mac.ofText? s with
    | some mac => return mac
    | none => do
      Noted.tell (.badMac name s)
      return {}

namespace Instance

/-- The fields that only an interface has, on top of the others. The primary interface goes by the
name of its instance. -/
def withInterfaceFields (i : Instance) (e : Element) (owner : String) : Instance :=
  let index := e.intAt (Route.child "deviceIndex")
  { i with
    ifname := i.name
    name := if index = 0 then owner else i.name
    srcDstCheck :=
      match e.lastText? (Route.child "sourceDestCheck") with
      | some s => s.map Char.toLower = "true"
      | none => false
    deviceIndex := index }

/-- Read an instance, or an interface of the instance `owner`. -/
def ofElement (e : Element) (owner : String) : Noted Instance := do
  let name ← e.notedName .unnamedInstance
  let mac ← e.macAt name (Route.child "macAddress")
  let i : Instance :=
    { name
      instanceName := owner
      accountId := e.stringAt (Route.child "ownerId")
      mac
      publicIp := e.addressAt (Route.child "publicIp")
      privateIp := e.addressAt (Route.child "privateIp")
      vpc := e.stringAt (Route.child "vpc")
      subnet := e.stringAt (Route.child "subnet")
      secgroupNames := e.texts (Route.grandchild "securityGroups" "value")
      attachmentId := e.stringAt (Route.child "attachmentId") }
  return if isInterfaceName name then i.withInterfaceFields e owner else i

/-- Read an instance with its interfaces, if there are to be any. -/
def ofElementWithInterfaces (withInterfaces : Bool) (e : Element) :
    Noted (Instance × List Instance) := do
  let i ← ofElement e ""
  let route := Route.grandchild "networkInterfaces" "networkInterface"
  let elements := if withInterfaces then e.follow route else []
  let interfaces ← Noted.mapList (ofElement · i.name) elements
  return (i, interfaces)

/-- Give each instance the positions of its interfaces when those of all instances are put one after
the other behind the first `start` ones. -/
def numbered (start : Nat) : List (Instance × List Instance) → List Instance
  | [] => []
  | (i, interfaces) :: rest =>
    { i with interfaces := List.range' start interfaces.length } ::
      numbered (start + interfaces.length) rest

@[simp] theorem length_numbered (start : Nat) (xs : List (Instance × List Instance)) :
    (numbered start xs).length = xs.length := by
  induction xs generalizing start with
  | nil => rfl
  | cons x xs ih => simp [numbered, ih]

end Instance

/-- Fill in the instances, in order of name, and the interfaces. -/
def NetworkModel.withInstances (m : NetworkModel) (part : Option Element) :
    Noted (Except Fault NetworkModel) :=
  match m.fillable .instances m.instances.isEmpty, part with
  | .error fault, _ => return .error fault
  | .ok (), none => return .ok { m with sortedInstances := true }
  | .ok (), some e => do
    let found ← Noted.mapList (Instance.ofElementWithInterfaces m.isVpcMido)
      (e.follow (Route.child "instance"))
    let filled := { m with
      instances := m.instances ++ Instance.numbered m.interfaces.length found
      interfaces := m.interfaces ++ found.flatMap Prod.snd }
    match filled.sortInstances? with
    | some sorted => return .ok sorted
    | none => return .error (.contract .danglingMember)

end CloudNet
