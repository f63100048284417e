import CloudNet.Address.Ipv4
import CloudNet.Address.Mac

/-!
# Tenant networks

A VPC with its subnets, route tables, gateways and access lists. Entities refer to each other by
name, and once linked also by position.
-/

namespace CloudNet

/-- One route; `applied` once it is in force. -/
structure RouteEntry where
  destCidr : String := ""
  target : String := ""
  applied : Bool := false
  deriving DecidableEq, Repr, Inhabited

/-- A named list of routes. -/
structure RouteTable where
  name : String := ""
  accountId : String := ""
  entries : List RouteEntry := []
  deriving DecidableEq, Repr, Inhabited

/-- The table with all its routes in force. -/
def RouteTable.markApplied (t : RouteTable) : RouteTable :=
  { t with entries := t.entries.map fun e => { e with applied := true } }

/-- A subnet of a VPC. -/
structure VpcSubnet where
  name : String := ""
  accountId : String := ""
  cidr : String := ""
  clusterName : String := ""
  networkAclName : String := ""
  routeTableName : String := ""
  /-- The position of its route table among those of the VPC. -/
  routeTable : Option Nat := none
  /-- The position of its access list among those of the VPC. -/
  networkAcl : Option Nat := none
  /-- The positions of its interfaces among those of the model. -/
  interfaces : List Nat := []
  deriving DecidableEq, Repr, Inhabited

/-- A NAT gateway. -/
structure NatGateway where
  name : String := ""
  accountId : String := ""
  mac : Mac := {}
  publicIp : Ipv4 := 0
  privateIp : Ipv4 := 0
  vpc : String := ""
  subnet : String := ""
  deriving DecidableEq, Repr, Inhabited

/-- One entry of an access list. -/
structure AclEntry where
  number : Int32 := 0
  allow : Bool := false
  protocol : Int32 := 0
  cidr : String := ""
  fromPort : Int32 := 0
  toPort : Int32 := 0
  icmpType : Int32 := 0
  icmpCode : Int32 := 0
  deriving DecidableEq, Repr, Inhabited

/-- An access list. -/
structure NetworkAcl where
  name : String := ""
  accountId : String := ""
  ingress : List AclEntry := []
  egress : List AclEntry := []
  deriving DecidableEq, Repr, Inhabited

/-- A gateway to the internet. -/
structure InternetGateway where
  name : String := ""
  accountId : String := ""
  deriving DecidableEq, Repr, Inhabited

/-- DHCP options for the instances of the VPCs that refer to the set. -/
structure DhcpOptionSet where
  name : String := ""
  accountId : String := ""
  domainNames : List String := []
  dnsServers : List Ipv4 := []
  ntpServers : List Ipv4 := []
  netbiosServers : List Ipv4 := []
  netbiosType : Int32 := 0
  deriving DecidableEq, Repr, Inhabited

/-- A tenant network. -/
structure Vpc where
  name : String := ""
  accountId : String := ""
  cidr : String := ""
  dhcpOptionSetName : String := ""
  /-- The position of its option set among those of the model. -/
  dhcpOptionSet : Option Nat := none
  routeTables : List RouteTable := []
  subnets : List VpcSubnet := []
  natGateways : List NatGateway := []
  networkAcls : List NetworkAcl := []
  internetGatewayNames : List String := []
  /-- The positions of its interfaces among those of the model. -/
  interfaces : List Nat := []
  deriving DecidableEq, Repr, Inhabited

namespace Vpc

/-- The route table of a subnet, if the subnet refers to one. -/
def routeTableOf? (v : Vpc) (s : VpcSubnet) : Option RouteTable :=
  s.routeTable.bind fun i => v.routeTables[i]?

/-- The access list of a subnet, if the subnet refers to one. -/
def networkAclOf? (v : Vpc) (s : VpcSubnet) : Option NetworkAcl :=
  s.networkAcl.bind fun i => v.networkAcls[i]?

/-- The VPC with all its routes in force. -/
def markApplied (v : Vpc) : Vpc :=
  { v with routeTables := v.routeTables.map RouteTable.markApplied }

end Vpc

end CloudNet
