import CloudNet.Check
import CloudNet.Model.Network

/-!
# Rules for clusters, nodes and declared subnets

Named entities have a name and an account within the limits of the packet filter's tools. A subnet
has a mask without gaps and a gateway inside it; a managed one has segments of a power of two and a
proper range of VLANs.
-/

namespace CloudNet

/-- The longest name of an entity, in bytes. -/
def nameLimit : Nat := 32

/-- The longest account identifier, in bytes. -/
def accountLimit : Nat := 128

/-- The longest name of a host or a domain, in bytes. -/
def hostnameLimit : Nat := 255

/-- The longest common start of hardware addresses, in bytes. -/
def macPrefixLimit : Nat := 5

/-- The longest text of an address block, in bytes. -/
def cidrLimit : Nat := 18

/-- The least VLAN of a managed subnet. -/
def vlanMin : Int32 := 2

/-- The greatest VLAN of a managed subnet. -/
def vlanMax : Int32 := 4095

/-- The smallest segment of a managed subnet. -/
def segmentMin : Int32 := 16

/-- The rules for the name and the account of an entity. -/
def identityChecks (kind : EntityKind) (name accountId : String) : List Check :=
  [ .require (name != "") (.unnamed kind),
    .lengthAtMost (kind.label ++ " name") name nameLimit,
    .require (accountId != "") (.entity kind name .noAccountId),
    .lengthAtMost s!"{kind.label} {name} accountId" accountId accountLimit ]

/-- The rules for a declared subnet. -/
def Subnet.checks (s : Subnet) : List Check :=
  .require (s.network != 0 && s.netmask != 0 && s.gateway != 0)
      (.emptySubnet s.network s.netmask s.gateway) ::
    match (Ipv4.maskLength? s.netmask).bind (Cidr.ofParts? s.network) with
    | none => [.require false (.scatteredNetmask s.netmask)]
    | some block => [.require (block.contains s.gateway) (.gatewayOutside s.gateway block)]

/-- The rules for a managed subnet. -/
def ManagedSubnet.checks (s : ManagedSubnet) : List Check :=
  let isVlan (n : Int32) : Bool := vlanMin ≤ n && n ≤ vlanMax
  [ .require (s.network != 0 && s.netmask != 0) (.emptyManagedSubnet s.network s.netmask),
    .require (segmentMin ≤ s.segmentSize && s.segmentSize &&& (s.segmentSize - 1) == 0)
      (.segmentSize s.segmentSize),
    .require (isVlan s.minVlan) (.minVlan s.minVlan),
    .require (isVlan s.maxVlan) (.maxVlan s.maxVlan),
    .require (s.minVlan ≤ s.maxVlan) (.vlanOrder s.minVlan s.maxVlan) ]

/-- The rules for a node. -/
def Node.checks (n : Node) : List Check :=
  [ .require (n.name != "") (.unnamed .node),
    .lengthAtMost "node name" n.name hostnameLimit ] ++
  Check.noneWhere (· == "") n.instanceNames fun i => .entity .node n.name (.emptyInstanceName i)

/-- The rules for a cluster that hold in `EDGE` mode only. -/
def Cluster.edgeChecks (c : Cluster) : List Check :=
  [ .require (Check.allPass c.privateSubnet.checks) (.entity .cluster c.name .badPrivateSubnet),
    .require (!c.privateIps.isEmpty) (.entity .cluster c.name .noPrivateIps) ] ++
  Check.noneWhere (· == 0) c.privateIps fun i => .entity .cluster c.name (.emptyPrivateIp i)

/-- The rules for a cluster. -/
def Cluster.checks (c : Cluster) (mode : NetMode) : List Check :=
  [ .require (c.name != "") (.unnamed .cluster),
    .lengthAtMost "cluster name" c.name hostnameLimit,
    .require (c.controllerIp != 0) (.entity .cluster c.name .noControllerIp),
    .require (c.macPrefix != "") (.entity .cluster c.name .noMacPrefix),
    .lengthAtMost "cluster macPrefix" c.macPrefix macPrefixLimit ] ++
  (if mode = .edge then c.edgeChecks else []) ++
  Check.remarkIf c.nodes.isEmpty (.noNodes c.name) ++
  c.nodes.flatMap Node.checks

end CloudNet
