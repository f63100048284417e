import CloudNet.Lookup

/-!
# Changes between models

What differs between two models or two of their entities. Lists are compared by position, so a new
order is a change. A route that is not in force yet counts as changed, so that it is tried again.
-/

namespace CloudNet

/-- The settings of the whole network that differ, as bits. -/
structure ConfigChange where
  bits : UInt32 := 0
  deriving DecidableEq, Repr, Inhabited

namespace ConfigChange

/-- Nothing differs. -/
def none : ConfigChange := ⟨0⟩

/-- The two sides cannot be compared field by field. -/
def other : ConfigChange := ⟨0x1⟩

/-- The controllers differ. -/
def controllerIp : ConfigChange := ⟨0x2⟩

/-- The domains differ. -/
def dnsDomain : ConfigChange := ⟨0x4⟩

/-- The name servers differ. -/
def dnsServers : ConfigChange := ⟨0x8⟩

/-- The hosts of the network service differ. -/
def eucanetdHost : ConfigChange := ⟨0x10⟩

/-- The public address blocks differ. -/
def publicNetworkCidr : ConfigChange := ⟨0x20⟩

/-- The public gateways differ. -/
def publicGatewayIp : ConfigChange := ⟨0x40⟩

/-- The lists of gateways differ. -/
def gatewayHosts : ConfigChange := ⟨0x80⟩

/-- What differs according to either. -/
def union (a b : ConfigChange) : ConfigChange := ⟨a.bits ||| b.bits⟩

/-- Nothing differs. -/
def isEmpty (c : ConfigChange) : Bool := c.bits == 0

/-- All of `part` differs, and `part` is something. -/
def contains (c part : ConfigChange) : Bool :=
  part.bits != 0 && c.bits &&& part.bits == part.bits

/-- The lower-case hexadecimal digits of a number. -/
def hexDigits (n : Nat) : List Char := Nat.toDigits 16 n

/-- The bits in hexadecimal, at least two digits of them. -/
def text (c : ConfigChange) : String :=
  let digits := hexDigits c.bits.toNat
  "0x" ++ String.ofList (List.replicate (2 - digits.length) '0' ++ digits)

/-- `part` if the condition holds. -/
def onlyIf (condition : Bool) (part : ConfigChange) : ConfigChange :=
  if condition then part else none

/-- The settings that differ between two models. Those of gateways are compared between two networks
of tenant networks; if only one is such a network nothing else is compared. -/
def between (a b : NetworkModel) : ConfigChange :=
  if a.isVpcMido != b.isVpcMido then other
  else
    let common :=
      [ onlyIf (a.controllerIp != b.controllerIp) controllerIp,
        onlyIf (a.dnsDomain != b.dnsDomain) dnsDomain,
        onlyIf (a.dnsServers != b.dnsServers) dnsServers ]
    let gateways :=
      [ onlyIf (a.eucanetdHost != b.eucanetdHost) eucanetdHost,
        onlyIf (a.publicNetworkCidr != b.publicNetworkCidr) publicNetworkCidr,
        onlyIf (a.publicGatewayIp != b.publicGatewayIp) publicGatewayIp,
        onlyIf (a.gatewayHosts != b.gatewayHosts) gatewayHosts ]
    (common ++ if a.isVpcMido then gateways else []).foldl union none

end ConfigChange

/-! ## Tenant networks -/

/-- The tables have one name and the same routes, and those of the first one are all in force. -/
def RouteTable.sameAs (a b : RouteTable) : Bool :=
  a.name == b.name && a.entries.length == b.entries.length &&
    (a.entries.zip b.entries).all fun (x, y) =>
      x.applied && x.destCidr == y.destCidr && x.target == y.target

/-- The gateways have one name. -/
def NatGateway.sameAs (a b : NatGateway) : Bool := a.name == b.name

/-- The VPCs have one name, one DHCP option set and equally many of everything. -/
def Vpc.sameAs (a b : Vpc) : Bool :=
  a.name == b.name && a.dhcpOptionSetName == b.dhcpOptionSetName &&
    a.internetGatewayNames.length == b.internetGatewayNames.length &&
    a.natGateways.length == b.natGateways.length &&
    a.networkAcls.length == b.networkAcls.length &&
    a.routeTables.length == b.routeTables.length && a.subnets.length == b.subnets.length

/-- Both tables are missing, or both are there and are the same. -/
def sameTables : Option RouteTable → Option RouteTable → Bool
  | none, none => true
  | some a, some b => a.sameAs b
  | _, _ => false

/-- The subnets, each in its VPC, have one name and refer to the same route table and access
list. -/
def VpcSubnet.sameAs (va : Vpc) (a : VpcSubnet) (vb : Vpc) (b : VpcSubnet) : Bool :=
  a.name == b.name && a.routeTableName == b.routeTableName &&
    a.networkAclName == b.networkAclName && sameTables (va.routeTableOf? a) (vb.routeTableOf? b)

/-! ## Security groups -/

/-- Whether a security group is the same, and the aspects of it that changed. -/
structure SecurityGroupChange where
  same : Bool
  ingress : Bool
  egress : Bool
  interfaces : Bool
  deriving DecidableEq, Repr

/-- The lists have different lengths or rules that match different traffic at one position. -/
def rulesDiffer (a b : List Rule) : Bool :=
  a.length != b.length || (a.zip b).any fun (x, y) => !x.sameMatch y

/-- The names of a group's member interfaces. Positions without an interface are passed over. -/
def SecurityGroup.interfaceNames (g : SecurityGroup) (m : NetworkModel) : List String :=
  (atPositions m.interfaces g.interfaces).map Instance.name

/-- What changed between two security groups, each in its model. Between groups of different names
everything did. -/
def SecurityGroup.changes (ma : NetworkModel) (a : SecurityGroup) (mb : NetworkModel)
    (b : SecurityGroup) : SecurityGroupChange :=
  if a.name != b.name then { same := false, ingress := true, egress := true, interfaces := true }
  else
    let ingress := rulesDiffer a.ingressRules b.ingressRules
    let egress := rulesDiffer a.egressRules b.egressRules
    let interfaces := a.interfaceNames ma != b.interfaceNames mb
    { same := !(ingress || egress || interfaces), ingress, egress, interfaces }

/-! ## Interfaces -/

/-- Whether an interface is the same, and the aspects of it that changed. -/
structure InterfaceChange where
  same : Bool
  publicIp : Bool
  srcDstCheck : Bool
  host : Bool
  secgroups : Bool
  deriving DecidableEq, Repr

/-- What changed between two interfaces. Between interfaces of different names everything did. -/
def Instance.changes (a b : Instance) : InterfaceChange :=
  if a.name != b.name then
    { same := false, publicIp := true, srcDstCheck := true, host := true, secgroups := true }
  else
    let publicIp := a.publicIp != b.publicIp
    let srcDstCheck := a.srcDstCheck != b.srcDstCheck
    let host := a.node != b.node
    let secgroups := a.secgroupNames != b.secgroupNames
    { same := !(publicIp || srcDstCheck || host || secgroups)
      publicIp, srcDstCheck, host, secgroups }

/-! ## Laws -/

/-- Lists of rules do not differ if they have one length and match one by one. -/
theorem rulesDiffer_eq_false_iff {as bs : List Rule} : rulesDiffer as bs = false ↔
    as.length = bs.length ∧ ∀ a b, (a, b) ∈ as.zip bs → a.sameMatch b = true := by
  unfold rulesDiffer
  simp only [Bool.or_eq_false_iff, bne_eq_false_iff_eq, List.any_eq_false, Prod.forall,
    Bool.not_eq_true', Bool.not_eq_false]

/-- A group is reported as the same exactly if no aspect of it is reported as changed. -/
theorem SecurityGroup.changes_same_iff {ma mb : NetworkModel} {a b : SecurityGroup} :
    (a.changes ma mb b).same = true ↔
      (a.changes ma mb b).ingress = false ∧ (a.changes ma mb b).egress = false ∧
        (a.changes ma mb b).interfaces = false := by
  unfold changes
  split
  · simp only [Bool.false_eq_true, Bool.true_eq_false, and_self]
  · simp only [Bool.not_eq_true', Bool.or_eq_false_iff, and_assoc]

/-- An interface is reported as the same exactly if no aspect of it is reported as changed. -/
theorem Instance.changes_same_iff {a b : Instance} :
    (a.changes b).same = true ↔
      (a.changes b).publicIp = false ∧ (a.changes b).srcDstCheck = false ∧
        (a.changes b).host = false ∧ (a.changes b).secgroups = false := by
  unfold changes
  split
  · simp only [Bool.false_eq_true, Bool.true_eq_false, and_self]
  · simp only [Bool.not_eq_true', Bool.or_eq_false_iff, and_assoc]

end CloudNet
