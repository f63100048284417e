import CloudNet.Assembly.Field
import CloudNet.Lookup

/-!
# Tenant networks from a document

Route tables are resolved while a VPC is read; all other references wait until every entity is
there.
-/

namespace CloudNet

/-- The fields that can hold the target of a route; the first one that is not empty counts. -/
def routeTargets : List String := ["gatewayId", "networkInterfaceId", "natGatewayId"]

/-- Read a route, which is not in force yet. -/
def RouteEntry.ofElement (e : Element) : RouteEntry :=
  let targets := routeTargets.filterMap fun field => e.lastText? (Route.child field)
  { destCidr := e.stringAt (Route.child "destinationCidr")
    target := (targets.find? (· != "")).getD "" }

/-- Read a route table. -/
def RouteTable.ofElement (e : Element) : RouteTable :=
  { name := e.entityName
    accountId := e.stringAt (Route.child "ownerId")
    entries := (e.follow (Route.grandchild "routes" "route")).map RouteEntry.ofElement }

/-- Read a subnet and resolve its route table. A table that is named and missing is noted. -/
def VpcSubnet.ofElement (tables : List RouteTable) (e : Element) : Noted VpcSubnet := do
  let s : VpcSubnet :=
    { name := e.entityName
      accountId := e.stringAt (Route.child "ownerId")
      cidr := e.stringAt (Route.child "cidr")
      clusterName := e.stringAt (Route.child "cluster")
      networkAclName := e.stringAt (Route.child "networkAcl")
      routeTableName := e.stringAt (Route.child "routeTable") }
  if s.routeTableName = "" then return s
  let found := Lookup.index? RouteTable.name s.routeTableName tables
  Noted.tellIf found.isNone (.noRouteTable s.routeTableName s.name)
  return { s with routeTable := found }

/-- Read a NAT gateway. -/
def NatGateway.ofElement (e : Element) : NatGateway :=
  { name := e.entityName
    accountId := e.stringAt (Route.child "ownerId")
    mac := ((e.lastText? (Route.child "macAddress")).bind Mac.ofText?).getD {}
    publicIp := e.addressAt (Route.child "publicIp")
    privateIp := e.addressAt (Route.child "privateIp")
    vpc := e.stringAt (Route.child "vpc")
    subnet := e.stringAt (Route.child "subnet") }

/-- Read an entry of an access list. Its number is an attribute, `number` or else `name`. -/
def AclEntry.ofElement (e : Element) : AclEntry :=
  { number := (((e.attr? "number").or (e.attr? "name")).map Text.leadingInt).getD 0
    allow := (e.texts (Route.child "action")).contains "allow"
    protocol := e.intAt (Route.child "protocol")
    cidr := e.stringAt (Route.child "cidr")
    fromPort := e.intAt (Route.child "portRangeFrom")
    toPort := e.intAt (Route.child "portRangeTo")
    icmpType := e.intAt (Route.child "icmpType")
    icmpCode := e.intAt (Route.child "icmpCode") }

/-- Read an access list. -/
def NetworkAcl.ofElement (e : Element) : NetworkAcl :=
  { name := e.entityName
    accountId := e.stringAt (Route.child "ownerId")
    ingress := (e.follow (Route.grandchild "ingressEntries" "entry")).map AclEntry.ofElement
    egress := (e.follow (Route.grandchild "egressEntries" "entry")).map AclEntry.ofElement }

/-- Read a VPC with all that belongs to it. -/
def Vpc.ofElement (e : Element) : Noted Vpc := do
  let tables := (e.follow (Route.grandchild "routeTables" "routeTable")).map RouteTable.ofElement
  let subnets ← Noted.mapList (VpcSubnet.ofElement tables)
    (e.follow (Route.grandchild "subnets" "subnet"))
  return {
    name := e.entityName
    accountId := e.stringAt (Route.child "ownerId")
    cidr := e.stringAt (Route.child "cidr")
    dhcpOptionSetName := e.stringAt (Route.child "dhcpOptionSet")
    routeTables := tables
    subnets
    internetGatewayNames := e.texts (Route.grandchild "internetGateways" "value")
    natGateways := (e.follow (Route.grandchild "natGateways" "natGateway")).map NatGateway.ofElement
    networkAcls :=
      (e.follow (Route.grandchild "networkAcls" "networkAcl")).map NetworkAcl.ofElement }

/-- Fill in the VPCs. -/
def NetworkModel.withVpcs (m : NetworkModel) (part : Option Element) :
    Noted (Except Fault NetworkModel) :=
  match m.fillable .vpcs m.vpcs.isEmpty, part with
  | .error fault, _ => return .error fault
  | .ok (), none => return .ok m
  | .ok (), some e => do
    let vpcs ← Noted.mapList Vpc.ofElement (e.follow (Route.child "vpc"))
    return .ok { m with vpcs }

end CloudNet
