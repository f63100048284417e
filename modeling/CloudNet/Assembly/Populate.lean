import CloudNet.Assembly.Configuration
import CloudNet.Assembly.Gateways
import CloudNet.Assembly.Instances
import CloudNet.Assembly.Links
import CloudNet.Assembly.SecurityGroups
import CloudNet.Assembly.Vpcs
import CloudNet.Validity.Model

/-!
# Models from documents

A model is built section by section, linked, and checked. A section that cannot be used is noted and
left out, unless its fault ends the build, and the check decides what is to be done with the rest.
The extent says how much of the document is read.
-/

namespace CloudNet

/-- How much of a document is read. -/
inductive Extent where
  | all
  /-- Mode, versions and the configuration section. -/
  | configOnly
  | nothing
  deriving DecidableEq, Repr

namespace Extent

/-- The extents by name. -/
def names : List (String × Extent) :=
  [("ALL", all), ("CONFIG_ONLY", configOnly), ("NONE", nothing)]

/-- Read an extent, in any case and with blanks around it. -/
def ofText (s : String) : Except Fault Extent :=
  let name := (Text.trim s).map Char.toUpper
  match names.lookup name with
  | some extent => .ok extent
  | none => .error (.contract (.unknownExtent name))

end Extent

/-- The sections of a document, each the first of its name. -/
structure Sections where
  configuration : Option Element := none
  instances : Option Element := none
  securityGroups : Option Element := none
  vpcs : Option Element := none
  internetGateways : Option Element := none
  dhcpOptionSets : Option Element := none

/-- The sections below the root of a document. -/
def Document.sections (d : Document) : Sections :=
  let first (name : String) : Option Element := d.root.children.find? fun e => e.name = name
  { configuration := first "configuration"
    instances := first "instances"
    securityGroups := first "securityGroups"
    vpcs := first "vpcs"
    internetGateways := first "internetGateways"
    dhcpOptionSets := first "dhcpOptionSets" }

/-- The fault leaves a build nothing to go on with. -/
def Fault.endsBuild : Fault → Bool
  | input _ | exhausted _ => true
  | _ => false

/-- A part of a build, which notes what it leaves out and may end the build with a fault. -/
abbrev Build := ExceptT Fault Noted

namespace NetworkModel

/-- The model that a step made of `m`. A step that failed is noted and leaves `m` as it was, unless
its fault ends the build. -/
def tolerate (m : NetworkModel) (part : Section) (step : Noted (Except Fault NetworkModel)) :
    Build NetworkModel := ExceptT.mk do
  match ← step with
  | .ok next => return .ok next
  | .error fault =>
    if fault.endsBuild then return .error fault
    Noted.tell (.sectionFailed part fault)
    return .ok m

/-- Fill in the sections about entities. -/
def populateEntities (m : NetworkModel) (s : Sections) : Build NetworkModel := do
  let m ← m.tolerate .instances (m.withInstances s.instances)
  let m ← m.tolerate .secgroups (m.withSecgroups s.securityGroups)
  let m ← m.tolerate .vpcs (m.withVpcs s.vpcs)
  let m ← m.tolerate .internetGateways (pure (m.withInternetGateways s.internetGateways))
  m.tolerate .dhcpOptionSets (pure (m.withDhcpOptionSets s.dhcpOptionSets))

/-- The model of a document with the right root, not checked yet. -/
def populate (d : Document) (withAll : Bool) (hostnames : HostnameCache) : Build NetworkModel := do
  let s := d.sections
  let m ← empty.tolerate .header (pure (empty.withHeader d s.configuration))
  let m ← if withAll then m.populateEntities s else pure m
  let m ← m.tolerate .configuration (m.withConfiguration s.configuration)
  let m ← if withAll then monadLift m.linked else pure m
  return { m with hostnames }

/-- Build the model of a document and check it. -/
def ofDocument (d : Document) (extent : Extent) (hostnames : HostnameCache) :
    Noted (Except Fault NetworkModel) :=
  match extent with
  | .nothing => return .ok empty
  | extent =>
    if d.root.name = rootName then do
      match ← (populate d (extent == .all) hostnames).run with
      | .error fault => return .error fault
      | .ok m => return (← m.validate).map fun () => m
    else return .error (.input (.wrongRoot d.root.name))

end NetworkModel

end CloudNet
