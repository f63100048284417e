import CloudNet.Address.Cidr

/-!
# Clusters, nodes and declared subnets

Where instances run: a cluster is a failure domain made of nodes, a node lists the instances placed
on it by name. Subnets are declared for the whole cloud or for one cluster.
-/

namespace CloudNet

/-- A declared subnet, for the whole cloud or private to a cluster. -/
structure Subnet where
  network : Ipv4 := 0
  netmask : Ipv4 := 0
  gateway : Ipv4 := 0
  deriving DecidableEq, Repr, Inhabited

/-- An address range managed by the platform and sliced into VLAN segments. -/
structure ManagedSubnet where
  network : Ipv4 := 0
  netmask : Ipv4 := 0
  minVlan : Int32 := 0
  maxVlan : Int32 := 0
  segmentSize : Int32 := 0
  deriving DecidableEq, Repr, Inhabited

/-- A host and the names of the instances placed on it. -/
structure Node where
  name : String := ""
  instanceNames : List String := []
  deriving DecidableEq, Repr, Inhabited

/-- A group of nodes with one controller. -/
structure Cluster where
  name : String := ""
  controllerIp : Ipv4 := 0
  macPrefix : String := ""
  privateSubnet : Subnet := {}
  privateIps : List Ipv4 := []
  nodes : List Node := []
  deriving DecidableEq, Repr, Inhabited

/-- How many placements of instances the nodes of the cluster list. -/
def Cluster.instanceCount (c : Cluster) : Nat := (c.nodes.flatMap Node.instanceNames).length

end CloudNet
