import CloudNet.Json.Form
import CloudNet.Model.Network

/-!
# Snapshot forms of tenant networks
-/

namespace CloudNet

open CloudNet.Json

/-- The form of a route. -/
def RouteEntry.form : Form RouteEntry :=
  (RouteEntry.mk <$> Fields.field "dest_cidr" .string destCidr
    <*> Fields.field "target" .string target
    <*> Fields.field "applied" .bool applied).toForm

/-- The form of a route table. -/
def RouteTable.form : Form RouteTable :=
  (RouteTable.mk <$> Fields.field "name" .string name
    <*> Fields.field "account_id" .string accountId
    <*> Fields.field "entries" (.list RouteEntry.form) entries).toForm

/-- The form of a subnet of a VPC. -/
def VpcSubnet.form : Form VpcSubnet :=
  (VpcSubnet.mk <$> Fields.field "name" .string name
    <*> Fields.field "account_id" .string accountId
    <*> Fields.field "cidr" .string cidr
    <*> Fields.field "cluster_name" .string clusterName
    <*> Fields.field "network_acl_name" .string networkAclName
    <*> Fields.field "route_table_name" .string routeTableName
    <*> Fields.optionalField "route_table" .position routeTable
    <*> Fields.optionalField "network_acl" .position networkAcl
    <*> Fields.field "interfaces" (.list .position) interfaces).toForm

/-- The form of a NAT gateway. -/
def NatGateway.form : Form NatGateway :=
  (NatGateway.mk <$> Fields.field "name" .string name
    <*> Fields.field "account_id" .string accountId
    <*> Fields.field "mac_address" .mac mac
    <*> Fields.field "public_ip" .ipv4 publicIp
    <*> Fields.field "private_ip" .ipv4 privateIp
    <*> Fields.field "vpc" .string vpc
    <*> Fields.field "subnet" .string subnet).toForm

/-- The form of an entry of an access list. -/
def AclEntry.form : Form AclEntry :=
  (AclEntry.mk <$> Fields.field "number" .int32 number
    <*> Fields.field "allow" .bool allow
    <*> Fields.field "protocol" .int32 protocol
    <*> Fields.field "cidr" .string cidr
    <*> Fields.field "from_port" .int32 fromPort
    <*> Fields.field "to_port" .int32 toPort
    <*> Fields.field "icmp_type" .int32 icmpType
    <*> Fields.field "icmp_code" .int32 icmpCode).toForm

/-- The form of an access list. -/
def NetworkAcl.form : Form NetworkAcl :=
  (NetworkAcl.mk <$> Fields.field "name" .string name
    <*> Fields.field "account_id" .string accountId
    <*> Fields.field "ingress" (.list AclEntry.form) ingress
    <*> Fields.field "egress" (.list AclEntry.form) egress).toForm

/-- The form of an internet gateway. -/
def InternetGateway.form : Form InternetGateway :=
  (InternetGateway.mk <$> Fields.field "name" .string name
    <*> Fields.field "account_id" .string accountId).toForm

/-- The form of a set of DHCP options. -/
def DhcpOptionSet.form : Form DhcpOptionSet :=
  (DhcpOptionSet.mk <$> Fields.field "name" .string name
    <*> Fields.field "account_id" .string accountId
    <*> Fields.field "domain_names" (.list .string) domainNames
    <*> Fields.field "dns_servers" (.list .ipv4) dnsServers
    <*> Fields.field "ntp_servers" (.list .ipv4) ntpServers
    <*> Fields.field "netbios_servers" (.list .ipv4) netbiosServers
    <*> Fields.field "netbios_type" .int32 netbiosType).toForm

/-- The form of a VPC. -/
def Vpc.form : Form Vpc :=
  (Vpc.mk <$> Fields.field "name" .string name
    <*> Fields.field "account_id" .string accountId
    <*> Fields.field "cidr" .string cidr
    <*> Fields.field "dhcp_option_set_name" .string dhcpOptionSetName
    <*> Fields.optionalField "dhcp_option_set" .position dhcpOptionSet
    <*> Fields.field "route_tables" (.list RouteTable.form) routeTables
    <*> Fields.field "subnets" (.list VpcSubnet.form) subnets
    <*> Fields.field "nat_gateways" (.list NatGateway.form) natGateways
    <*> Fields.field "network_acls" (.list NetworkAcl.form) networkAcls
    <*> Fields.field "internet_gateway_names" (.list .string) internetGatewayNames
    <*> Fields.field "interfaces" (.list .position) interfaces).toForm

end CloudNet
