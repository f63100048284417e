import CloudNet.Hostnames
import CloudNet.Model.Cluster
import CloudNet.Model.Instance
import CloudNet.Model.SecurityGroup
import CloudNet.Model.Vpc

/-!
# Network models

The whole network as one value. The model owns every entity; entities refer to each other by name
and by position in the model's lists.

* `sortInstances?` puts the instances in order of name and renumbers the members of the security
  groups, so that each entry keeps pointing at the same instance. It fails if a group refers to an
  instance that does not exist (`isSome_sortInstances?`), and loses none (`perm_ranked`).
-/

namespace CloudNet

/-- The ways in which a network is operated. -/
inductive NetMode where
  | edge | managed | managedNoVlan | vpcMido
  deriving DecidableEq, Repr

namespace NetMode

/-- The mode as a document names it. -/
def name : NetMode → String
  | edge => "EDGE"
  | managed => "MANAGED"
  | managedNoVlan => "MANAGED-NOVLAN"
  | vpcMido => "VPCMIDO"

/-- All modes. -/
def all : List NetMode := [edge, managed, managedNoVlan, vpcMido]

/-- The mode of a name. -/
def ofName? (s : String) : Option NetMode := all.find? fun m => m.name == s

/-- Each mode is the one of its own name. -/
@[simp] theorem ofName?_name (m : NetMode) : ofName? m.name = some m := by
  cases m <;> decide

/-- A name belongs to one mode only. -/
theorem name_of_ofName? {s : String} {m : NetMode} (h : ofName? s = some m) : m.name = s := by
  simpa using List.find?_some h

end NetMode

/-- The network as one document describes it. -/
structure NetworkModel where
  /-- The model has been set up and may be filled. -/
  initialized : Bool := false
  /-- The mode as the document names it, known or not. -/
  mode : String := ""
  version : String := ""
  appliedVersion : String := ""
  controllerIp : Ipv4 := 0
  dnsDomain : String := ""
  dnsServers : List Ipv4 := []
  publicIps : List Ipv4 := []
  eucanetdHost : String := ""
  publicNetworkCidr : String := ""
  publicGatewayIp : String := ""
  /-- The gateways as `host,ip,interface` entries with spaces between them. -/
  gatewayHosts : String := ""
  managedSubnets : List ManagedSubnet := []
  subnets : List Subnet := []
  clusters : List Cluster := []
  instances : List Instance := []
  /-- The interfaces of all instances, in the order of the document. -/
  interfaces : List Instance := []
  /-- The instances are known to be in order of name. -/
  sortedInstances : Bool := false
  secgroups : List SecurityGroup := []
  vpcs : List Vpc := []
  internetGateways : List InternetGateway := []
  dhcpOptionSets : List DhcpOptionSet := []
  hostnames : HostnameCache := {}
  deriving DecidableEq, Repr, Inhabited

namespace NetworkModel

/-- A model without entities, ready to be filled. -/
def empty : NetworkModel := { initialized := true }

/-- The mode, if it is a known one. -/
def netMode? (m : NetworkModel) : Option NetMode := NetMode.ofName? m.mode

/-- The network is one of tenant networks. -/
def isVpcMido (m : NetworkModel) : Bool := m.netMode? == some .vpcMido

/-! ## Order of instances -/

/-- No name comes before the one in front of it. -/
def namesInOrder : List String → Bool
  | a :: b :: rest => a ≤ b && namesInOrder (b :: rest)
  | _ => true

/-- The instances are in order of name. -/
def instancesInOrder (m : NetworkModel) : Bool := namesInOrder (m.instances.map Instance.name)

/-- The instances in order of name, each with its former position; those of one name stay in
order. -/
def ranked (m : NetworkModel) : List (Instance × Nat) :=
  m.instances.zipIdx.mergeSort fun a b => a.1.name ≤ b.1.name

/-- Every member of a security group is an instance of the model. -/
def membersExist (m : NetworkModel) : Bool :=
  m.secgroups.all fun g => g.instances.all fun i => i < m.instances.length

/-- The model with its instances in order of name and the members of groups renumbered. There is
none if a group refers to an instance that does not exist. -/
def sortInstances? (m : NetworkModel) : Option NetworkModel :=
  if m.membersExist then
    let ranked := m.ranked
    let order := ranked.map Prod.snd
    some { m with
      instances := ranked.map Prod.fst
      secgroups := m.secgroups.map fun g => { g with instances := g.instances.map order.idxOf }
      sortedInstances := true }
  else none

/-! ## Laws -/

/-- Sorting succeeds exactly if every member of a group exists. -/
theorem isSome_sortInstances? (m : NetworkModel) :
    m.sortInstances?.isSome = m.membersExist := by
  unfold sortInstances?
  split <;> simp_all

/-- The sorted instances are the former ones in another order. -/
theorem perm_ranked (m : NetworkModel) : (m.ranked.map Prod.fst).Perm m.instances := by
  have h := (List.mergeSort_perm m.instances.zipIdx fun a b => a.1.name ≤ b.1.name).map Prod.fst
  rwa [List.zipIdx_map_fst] at h

end NetworkModel

end CloudNet
