import CloudNet.Lookup

/-!
# Links between entities

Once all entities are there, the references inside each VPC are resolved: its interfaces and its
DHCP option set, and for each subnet its interfaces and its access list. Links that were there
before do not matter.
-/

namespace CloudNet

namespace NetworkModel

/-- The positions of the interfaces in the VPC of a name, in ascending order. -/
def interfacesInVpc (m : NetworkModel) (vpc : String) : List Nat :=
  positionsWhere (·.vpc = vpc) m.interfaces

/-- Those of the given positions at which there is an interface in the subnet of a name. -/
def interfacesInSubnet (m : NetworkModel) (subnet : String) (candidates : List Nat) : List Nat :=
  candidates.filter fun i => m.interfaces[i]?.any (·.subnet = subnet)

/-- A subnet with its links, given its VPC and the positions of the interfaces there. -/
def linkSubnet (m : NetworkModel) (v : Vpc) (interfaces : List Nat) (s : VpcSubnet) :
    Noted VpcSubnet := do
  let acl := Lookup.index? NetworkAcl.name s.networkAclName v.networkAcls
  Noted.tellIf acl.isNone (.noNetworkAcl s.networkAclName s.name)
  return { s with
    interfaces := m.interfacesInSubnet s.name interfaces
    networkAcl := acl }

/-- A VPC with its links. -/
def linkVpc (m : NetworkModel) (v : Vpc) : Noted Vpc := do
  let interfaces := m.interfacesInVpc v.name
  let set :=
    if v.dhcpOptionSetName = "" then none
    else Lookup.index? DhcpOptionSet.name v.dhcpOptionSetName m.dhcpOptionSets
  Noted.tellIf (v.dhcpOptionSetName != "" && set.isNone)
    (.noDhcpOptionSet v.name v.dhcpOptionSetName)
  let subnets ← Noted.mapList (m.linkSubnet v interfaces) v.subnets
  return { v with interfaces, subnets, dhcpOptionSet := set }

/-- The model with the links of all its VPCs. -/
def linked (m : NetworkModel) : Noted NetworkModel := do
  let vpcs ← Noted.mapList m.linkVpc m.vpcs
  return { m with vpcs }

end NetworkModel

end CloudNet
