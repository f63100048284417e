import CloudNet.Address.Range
import CloudNet.Assembly.Field

/-!
# Settings of the whole network from a document

The header (mode and versions), and the configuration section: addresses, name service, gateways,
declared subnets, and clusters with their nodes. In a network of tenant networks the nodes' lists
also say where each instance is placed.
-/

namespace CloudNet

/-- The addresses of the ranges in the fields on a route. -/
def Element.rangesAt (e : Element) (route : Route) : Noted (List Ipv4) := do
  let list ← Range.expand (e.texts route)
  Noted.tellIf list.rejected (.rangesRejected route)
  return list.addresses

/-- The address that an element has for a name. One without a name is noted. -/
def Element.addressName (e : Element) (kind : String) : Noted Ipv4 := do
  return Ipv4.ofText (← e.notedName (.unnamedDeclaration kind))

/-- Read a declared subnet, whose name is its address. -/
def Subnet.ofElement (e : Element) : Noted Subnet := do
  return {
    network := ← e.addressName "subnet"
    netmask := e.addressAt (Route.propertyValue "netmask")
    gateway := e.addressAt (Route.propertyValue "gateway") }

/-- Read a managed subnet, whose name is its address. -/
def ManagedSubnet.ofElement (e : Element) : Noted ManagedSubnet := do
  return {
    network := ← e.addressName "managed subnet"
    netmask := e.addressAt (Route.propertyValue "netmask")
    minVlan := e.intAt (Route.propertyValue "minVlan")
    maxVlan := e.intAt (Route.propertyValue "maxVlan")
    segmentSize := e.intAt (Route.propertyValue "segmentSize") }

/-- Read a node. -/
def Node.ofElement (e : Element) : Node :=
  { name := e.entityName, instanceNames := e.texts (Route.grandchild "instanceIds" "value") }

/-- Read a cluster with its nodes. Of several private subnets the first counts. -/
def Cluster.ofElement (e : Element) : Noted Cluster := do
  let name ← e.notedName (.unnamedDeclaration "cluster")
  let privateSubnet ←
    match e.follow (Route.child "subnet") with
    | [] => pure {}
    | first :: _ => Subnet.ofElement first
  let privateIps ← e.rangesAt (Route.propertyValue "privateIps")
  return {
    name
    controllerIp := e.addressAt (Route.propertyValue "enabledCCIp")
    macPrefix := e.stringAt (Route.propertyValue "macPrefix")
    privateSubnet
    privateIps
    nodes := (e.follow (Route.propertyItem "nodes" "node")).map Node.ofElement }

/-! ## Gateways -/

/-- The fields of a gateway, in the order in which they are written. -/
def gatewayFields : List String := ["gatewayHost", "gatewayIP", "gatewayInterface"]

/-- A gateway as one entry: those of its fields that are there, with commas between them. -/
def gatewayEntry (e : Element) : String :=
  Text.joinWith "," (gatewayFields.filterMap fun field => e.lastText? (Route.propertyValue field))

/-- The gateways as entries with spaces between them. It is noted if there are none. -/
def gatewayEntries (mido : Element) : Noted String := do
  let gateways := mido.follow (Route.propertyItem "gateways" "gateway")
  Noted.tellIf gateways.isEmpty .noGateways
  return Text.joinWith " " (gateways.map gatewayEntry)

/-! ## Placement -/

/-- The node that an instance is placed on: of those that list its name, the last one. -/
def nodeOf? (clusters : List Cluster) (instanceName : String) : Option Node :=
  (clusters.flatMap Cluster.nodes).reverse.find? (·.instanceNames.contains instanceName)

/-- The record placed where the nodes list the name; unlisted, it stays where it was. -/
def Instance.placed (i : Instance) (clusters : List Cluster) (listedName : String) : Instance :=
  match nodeOf? clusters listedName with
  | some node => { i with node := node.name }
  | none => i

/-- The listings of some nodes: each node with each of the names that it lists, in order. -/
def listings (nodes : List Node) : List (Node × String) :=
  nodes.flatMap fun node => node.instanceNames.map (node, ·)

/-- The record on a node. -/
def Instance.onNode (i : Instance) (node : Node) : Instance := { i with node := node.name }

/-- The record that goes by a name after a listing. -/
def Instance.afterListing (i : Instance) (name : String) (listing : Node × String) : Instance :=
  if name = listing.2 then i.onNode listing.1 else i

namespace NetworkModel

/-- The model after a listing: all instances of the name are on the node, with their interfaces. -/
def afterListing (m : NetworkModel) (listing : Node × String) : NetworkModel :=
  { m with
    instances := m.instances.map fun i => i.afterListing i.name listing
    interfaces := m.interfaces.map fun i => i.afterListing i.instanceName listing }

/-- The model with all instances and interfaces placed on their nodes, listing after listing. Those
that come later override earlier ones (`placed_eq`). -/
def placed (m : NetworkModel) : NetworkModel :=
  (listings (m.clusters.flatMap Cluster.nodes)).foldl afterListing m

/-! ## Sections -/

/-- Fill in the mode, if the configuration section names one, and the versions. -/
def withHeader (m : NetworkModel) (d : Document) (configuration : Option Element) :
    Except Fault NetworkModel :=
  if !m.initialized then .error (.contract .uninitialized)
  else
    let named := configuration.bind (·.lastText? (Route.propertyValue "mode"))
    let version (name : String) : String :=
      let path : Path := { absolute := true, steps := Route.child rootName, attr := some name }
      (d.values path d.root).getLast?.getD ""
    .ok { m with
      mode := named.getD m.mode
      version := version "version"
      appliedVersion := version "applied-version" }

/-- Fill in the gateway settings, unless there is not exactly one element with them. -/
def withMido (m : NetworkModel) (configuration : Element) : Noted NetworkModel :=
  match configuration.follow (Route.property "mido") with
  | [mido] => do
    return { m with
      eucanetdHost := mido.stringAt (Route.propertyValue "eucanetdHost")
      publicNetworkCidr := mido.stringAt (Route.propertyValue "publicNetworkCidr")
      publicGatewayIp := mido.stringAt (Route.propertyValue "publicGatewayIP")
      gatewayHosts := ← gatewayEntries mido }
  | others => do
    Noted.tell (.midoCount others.length)
    return m

/-- Fill in the settings that every network has. -/
def withSettings (m : NetworkModel) (configuration : Element) : Noted NetworkModel := do
  let publicIps ← configuration.rangesAt (Route.propertyValue "publicIps")
  let managedSubnets ← Noted.mapList ManagedSubnet.ofElement
    (configuration.follow (Route.propertyItem "managedSubnet" "managedSubnet"))
  let subnets ← Noted.mapList Subnet.ofElement
    (configuration.follow (Route.propertyItem "subnets" "subnet"))
  let clusters ← Noted.mapList Cluster.ofElement
    (configuration.follow (Route.propertyItem "clusters" "cluster"))
  return { m with
    controllerIp := configuration.addressAt (Route.propertyValue "enabledCLCIp")
    dnsDomain := configuration.stringAt (Route.propertyValue "instanceDNSDomain")
    dnsServers := configuration.addressesAt (Route.propertyValue "instanceDNSServers")
    publicIps, managedSubnets, subnets, clusters }

/-- Fill in the settings of the whole network. -/
def withConfiguration (m : NetworkModel) (configuration : Option Element) :
    Noted (Except Fault NetworkModel) :=
  match m.initialized, configuration with
  | false, _ => return .error (.contract .uninitialized)
  | true, none => return .error .noConfiguration
  | true, some e => do
    let m ← if m.isVpcMido then m.withMido e else pure m
    let filled ← m.withSettings e
    return .ok (if m.isVpcMido then filled.placed else filled)

end NetworkModel

/-! ## Laws -/

namespace Instance

@[simp] theorem onNode_onNode (i : Instance) (before after : Node) :
    (i.onNode before).onNode after = i.onNode after := rfl

@[simp] theorem name_afterListing (i : Instance) (name : String) (listing : Node × String) :
    (i.afterListing name listing).name = i.name := by
  unfold afterListing
  split <;> rfl

@[simp] theorem instanceName_afterListing (i : Instance) (name : String)
    (listing : Node × String) : (i.afterListing name listing).instanceName = i.instanceName := by
  unfold afterListing
  split <;> rfl

/-- The listings of one node put a record there if its name is among them. -/
theorem foldl_afterListing_names (i : Instance) (name : String) (node : Node)
    (names : List String) :
    (names.map (node, ·)).foldl (·.afterListing name ·) i =
      if names.contains name then i.onNode node else i := by
  induction names generalizing i with
  | nil => rfl
  | cons first names ih =>
    rw [List.map_cons, List.foldl_cons, ih, List.contains_cons]
    unfold afterListing
    by_cases hname : name = first
    · simp [hname]
    · simp [hname]

/-- **The last of the nodes that list a name** is where its record is after all listings. -/
theorem foldl_afterListing (i : Instance) (name : String) (nodes : List Node) :
    (listings nodes).foldl (·.afterListing name ·) i =
      ((nodes.reverse.find? (·.instanceNames.contains name)).map i.onNode).getD i := by
  induction nodes generalizing i with
  | nil => rfl
  | cons node nodes ih =>
    have hcons : listings (node :: nodes) =
        node.instanceNames.map (node, ·) ++ listings nodes := List.flatMap_cons
    rw [hcons, List.foldl_append, foldl_afterListing_names, ih, List.reverse_cons,
      List.find?_append]
    by_cases hlists : name ∈ node.instanceNames
    · -- a later node that lists the name as well overrides this one
      cases nodes.reverse.find? (·.instanceNames.contains name) <;> simp [hlists]
    · simp [hlists]

theorem placed_eq_getD (i : Instance) (clusters : List Cluster) (listedName : String) :
    i.placed clusters listedName = ((nodeOf? clusters listedName).map i.onNode).getD i := by
  unfold placed
  split <;> simp [*, onNode]

end Instance

namespace NetworkModel

/-- Listings change the records one by one. -/
theorem foldl_afterListing (m : NetworkModel) (ls : List (Node × String)) :
    ls.foldl afterListing m = { m with
      instances := m.instances.map fun i => ls.foldl (·.afterListing i.name ·) i
      interfaces := m.interfaces.map fun i => ls.foldl (·.afterListing i.instanceName ·) i } := by
  induction ls generalizing m with
  | nil => simp
  | cons l ls ih =>
    rw [List.foldl_cons, ih]
    simp [afterListing, Function.comp_def]

/-- **All instances and interfaces end up where the last listing puts them.** -/
theorem placed_eq (m : NetworkModel) : m.placed = { m with
    instances := m.instances.map fun i => i.placed m.clusters i.name
    interfaces := m.interfaces.map fun i => i.placed m.clusters i.instanceName } := by
  unfold placed
  rw [foldl_afterListing]
  simp only [Instance.foldl_afterListing, Instance.placed_eq_getD, nodeOf?]

end NetworkModel

end CloudNet
