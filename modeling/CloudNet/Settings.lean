import CloudNet.Assembly.Populate
import CloudNet.DotEnv

/-!
# Settings

What a run of the program is told by environment variables: which document to read and how much of
it, the addresses of this host, where to write a snapshot, and hostnames by address.
-/

namespace CloudNet

/-- What a run of the program is told. -/
structure Settings where
  documentPath : String := "global_network_info.xml"
  extent : Extent := .all
  /-- The addresses of this host, as text. -/
  localAddresses : List String := []
  snapshotDirectory : Option String := none
  /-- Hostnames by address, as text. -/
  hostnames : List (String × String) := []

namespace Settings

/-- The items of a list with commas between them, without blanks around them; empty ones do not
count. -/
def items (s : String) : List String :=
  ((s.toList.splitOnP (· = ',')).map Text.trimChars).filter (· ≠ []) |>.map String.ofList

/-- The two sides of an item `address=hostname`, both of which are there. -/
def hostname? (item : String) : Option (String × String) :=
  match Text.cutAt '=' item.toList with
  | none => none
  | some (address, host) =>
    let a := Text.trimChars address
    let h := Text.trimChars host
    if a = [] || h = [] then none else some (String.ofList a, String.ofList h)

/-- The hostnames in a list of items `address=hostname`. Other items are left out with a notice. -/
def hostnamesOf (s : String) : Noted (List (String × String)) :=
  { value := (items s).filterMap hostname?
    notices := ((items s).filter fun item => (hostname? item).isNone).map .malformedHostname }

/-- The directory that a text names, if it is not blank. -/
def directoryOf (s : String) : Option String :=
  if Text.isBlankText s then none else some (Text.trim s)

/-- The settings that environment variables make. -/
def ofEnvironment (env : Environment) : Noted (Except Fault Settings) :=
  let defaults : Settings := {}
  match ((env.lookup "GNI_POPULATE_MODE").map Extent.ofText).getD (.ok defaults.extent) with
  | .error fault => return .error fault
  | .ok extent => do
    let hostnames ← hostnamesOf ((env.lookup "GNI_HOSTNAMES").getD "")
    return .ok {
      documentPath := (env.lookup "GNI_XML_PATH").getD defaults.documentPath
      extent
      localAddresses := items ((env.lookup "GNI_LOCAL_ADDRS").getD "")
      snapshotDirectory := (env.lookup "GNI_SNAPSHOT_DIR").bind directoryOf
      hostnames }

end Settings

end CloudNet
