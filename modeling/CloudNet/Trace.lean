import CloudNet.Lookup

/-!
# Traces

A model in full, one line for each entity, entities inside others indented by a tab.
-/

namespace CloudNet.Trace

/-- Addresses with blanks between them. -/
def addresses (xs : List Ipv4) : String := Text.joinWith " " (xs.map Ipv4.dotted)

/-- A list in brackets, its items with blanks between them. -/
def bracketed (items : List String) : String := "[" ++ Text.joinWith " " items ++ "]"

/-- A truth value in words. -/
def flag (b : Bool) : String := if b then "true" else "false"

/-- A signed number. -/
def number (n : Int32) : String := Text.signedDecimal n.toInt

/-- A field and its value. -/
def field (name value : String) : String := name ++ "=" ++ value

/-- A line: what it is about, then fields with blanks between them. -/
def line (subject : String) (fields : List String) : String :=
  subject ++ " " ++ Text.joinWith " " fields

/-- The line of the whole network. -/
def headerLine (m : NetworkModel) : String :=
  line "model"
    [ field "version" m.version, field "applied" m.appliedVersion, field "mode" m.mode,
      field "clc" m.controllerIp.dotted, field "dnsDomain" m.dnsDomain,
      field "dnsServers" ("[" ++ addresses m.dnsServers ++ "]"),
      field "publicIps" (Text.decimal m.publicIps.length) ]

/-- The line of the gateways, in a network of tenant networks. -/
def midoLines (m : NetworkModel) : List String :=
  if m.isVpcMido then
    [ line "mido"
        [ field "host" m.eucanetdHost, field "publicNetwork" m.publicNetworkCidr,
          field "publicGateway" m.publicGatewayIp,
          field "gateways" ("[" ++ m.gatewayHosts ++ "]") ] ]
  else []

/-- The line of a cluster. -/
def clusterLine (i : Nat) (c : Cluster) : String :=
  line s!"cluster {i}:"
    [ field "name" c.name, field "cc" c.controllerIp.dotted, field "macPrefix" c.macPrefix,
      field "privateIps" (Text.decimal c.privateIps.length),
      field "nodes" (bracketed (c.nodes.map Node.name)) ]

/-- The line of an instance or an interface. -/
def instanceLine (kind : String) (index : Nat) (i : Instance) : String :=
  line s!"{kind} {index}:"
    [ field "name" i.name, field "ifname" i.ifname, field "owner" i.instanceName,
      field "accountId" i.accountId, field "mac" i.mac.text,
      field "publicIp" i.publicIp.dotted, field "privateIp" i.privateIp.dotted,
      field "vpc" i.vpc, field "subnet" i.subnet, field "node" i.node,
      field "secgroups" (bracketed i.secgroupNames), field "attachment" i.attachmentId,
      field "srcDstCheck" (flag i.srcDstCheck), field "deviceIndex" (number i.deviceIndex) ]

/-- The lines of a security group. -/
def secgroupLines (m : NetworkModel) (i : Nat) (g : SecurityGroup) : List String :=
  line s!"secgroup {i}:"
    [ field "name" g.name, field "accountId" g.accountId,
      field "grouprules" (Text.decimal g.groupRules.length),
      field "ingress" (Text.decimal g.ingressRules.length),
      field "egress" (Text.decimal g.egressRules.length),
      field "instances" (bracketed ((atPositions m.instances g.instances).map Instance.name)),
      field "interfaces" (bracketed ((atPositions m.interfaces g.interfaces).map Instance.name)) ]
    :: g.groupRules.map ("\tgrouprule: " ++ ·)

/-- The lines of a route table. -/
def routeTableLines (t : RouteTable) : List String :=
  line "\troute table:" [field "name" t.name, field "entries" (Text.decimal t.entries.length)] ::
    t.entries.map fun e =>
      "\t\t" ++ e.destCidr ++ " -> " ++ e.target ++ " " ++ field "applied" (flag e.applied)

/-- The line of a subnet of a VPC. -/
def vpcSubnetLine (s : VpcSubnet) : String :=
  line "\tsubnet:"
    [ field "name" s.name, field "cidr" s.cidr, field "cluster" s.clusterName,
      field "acl" s.networkAclName, field "routeTable" s.routeTableName,
      field "interfaces" (Text.decimal s.interfaces.length) ]

/-- The line of a NAT gateway. -/
def natGatewayLine (n : NatGateway) : String :=
  line "\tnat gateway:"
    [ field "name" n.name, field "mac" n.mac.text, field "publicIp" n.publicIp.dotted,
      field "privateIp" n.privateIp.dotted, field "subnet" n.subnet ]

/-- The line of an access list. -/
def networkAclLine (a : NetworkAcl) : String :=
  line "\tnetwork acl:"
    [ field "name" a.name, field "ingress" (Text.decimal a.ingress.length),
      field "egress" (Text.decimal a.egress.length) ]

/-- The lines of a VPC. -/
def vpcLines (i : Nat) (v : Vpc) : List String :=
  line s!"vpc {i}:"
    [ field "name" v.name, field "accountId" v.accountId, field "cidr" v.cidr,
      field "dhcpOptionSet" v.dhcpOptionSetName,
      field "igws" (bracketed v.internetGatewayNames),
      field "interfaces" (Text.decimal v.interfaces.length) ] ::
  (v.subnets.map vpcSubnetLine ++ v.routeTables.flatMap routeTableLines ++
    v.natGateways.map natGatewayLine ++ v.networkAcls.map networkAclLine)

/-- The line of an internet gateway. -/
def internetGatewayLine (g : InternetGateway) : String :=
  line "internet gateway:" [field "name" g.name, field "accountId" g.accountId]

/-- The line of a set of DHCP options. -/
def dhcpOptionSetLine (s : DhcpOptionSet) : String :=
  line "dhcp option set:"
    [ field "name" s.name, field "domains" (bracketed s.domainNames),
      field "dns" ("[" ++ addresses s.dnsServers ++ "]"),
      field "ntp" ("[" ++ addresses s.ntpServers ++ "]"),
      field "netbios" ("[" ++ addresses s.netbiosServers ++ "]"),
      field "type" (number s.netbiosType) ]

/-- The entities with their positions, each made into something. -/
def indexed {α β : Type} (f : Nat → α → β) (xs : List α) : List β :=
  xs.zipIdx.map fun (x, i) => f i x

/-- The lines of a model. -/
def lines (m : NetworkModel) : List String :=
  headerLine m :: midoLines m ++
  indexed clusterLine m.clusters ++
  indexed (instanceLine "instance") m.instances ++
  indexed (instanceLine "interface") m.interfaces ++
  (indexed (secgroupLines m) m.secgroups).flatten ++
  (indexed vpcLines m.vpcs).flatten ++
  m.internetGateways.map internetGatewayLine ++
  m.dhcpOptionSets.map dhcpOptionSetLine

end CloudNet.Trace
