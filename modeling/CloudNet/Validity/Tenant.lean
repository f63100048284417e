import CloudNet.Validity.Placement

/-!
# Rules for tenant networks

The rules for a VPC and for all that belongs to it.
-/

namespace CloudNet

/-- The rules for a subnet of a VPC. -/
def VpcSubnet.checks (s : VpcSubnet) : List Check :=
  identityChecks .vpcSubnet s.name s.accountId ++
  [ .lengthAtMost "vpcsubnet cidr" s.cidr cidrLimit ]

/-- The rules for a NAT gateway. -/
def NatGateway.checks (n : NatGateway) : List Check :=
  identityChecks .natGateway n.name n.accountId ++
  Check.remarkIf (!n.mac.isSet) (.noMac .natGateway n.name) ++
  [ .require (n.privateIp != 0) (.entity .natGateway n.name .noPrivateIp),
    .require (n.vpc != "") (.entity .natGateway n.name .noVpc),
    .require (n.subnet != "") (.entity .natGateway n.name .noVpcSubnet) ]

/-- The rules for a route at a position of a table. -/
def RouteEntry.checks (e : RouteEntry) (table : String) (position : Nat) : List Check :=
  [ .require (e.destCidr != "" && e.target != "") (.entity .routeTable table (.badRoute position)),
    .lengthAtMost "route destination" e.destCidr cidrLimit ]

/-- The rules for a route table. -/
def RouteTable.checks (t : RouteTable) : List Check :=
  identityChecks .routeTable t.name t.accountId ++
  t.entries.zipIdx.flatMap fun (e, i) => e.checks t.name i

/-- The rules for an entry of an access list. -/
def AclEntry.checks (e : AclEntry) (acl : String) (direction : Direction) : List Check :=
  [ .require (e.number != 0) (.entity .networkAcl acl (.badAclEntry direction e.number)),
    .require (e.cidr != "") (.entity .networkAcl acl (.badAclCidr e.number)),
    .lengthAtMost "network acl cidr" e.cidr cidrLimit,
    .require (e.protocol != 0) (.entity .networkAcl acl (.badAclProtocol e.number)) ]

/-- The rules for an access list. -/
def NetworkAcl.checks (a : NetworkAcl) : List Check :=
  identityChecks .networkAcl a.name a.accountId ++
  a.ingress.flatMap (·.checks a.name .ingress) ++ a.egress.flatMap (·.checks a.name .egress)

/-- The rules for a VPC and all that belongs to it. -/
def Vpc.checks (v : Vpc) : List Check :=
  identityChecks .vpc v.name v.accountId ++
  [ .lengthAtMost "vpc cidr" v.cidr cidrLimit ] ++
  v.subnets.flatMap VpcSubnet.checks ++ v.natGateways.flatMap NatGateway.checks ++
  v.routeTables.flatMap RouteTable.checks ++ v.networkAcls.flatMap NetworkAcl.checks

end CloudNet
