import CloudNet.Json.Reader
import CloudNet.Json.Writer
import CloudNet.Fault
import CloudNet.Snapshot.Membership
import CloudNet.Snapshot.Placement
import CloudNet.Snapshot.Tenant

/-!
# Snapshots

A snapshot is a model as JSON text. `NetworkModel.toSnapshot` writes one and
`NetworkModel.ofSnapshot` reads one back; the hostnames may be missing.
-/

namespace CloudNet

open CloudNet.Json

namespace NetworkModel

/-- The form of a model. -/
def form : Form NetworkModel :=
  (NetworkModel.mk <$> Fields.field "init" .bool initialized
    <*> Fields.field "mode" .string mode
    <*> Fields.field "version" .string version
    <*> Fields.field "applied_version" .string appliedVersion
    <*> Fields.field "enabled_clc_ip" .ipv4 controllerIp
    <*> Fields.field "instance_dns_domain" .string dnsDomain
    <*> Fields.field "instance_dns_servers" (.list .ipv4) dnsServers
    <*> Fields.field "public_ips" (.list .ipv4) publicIps
    <*> Fields.field "eucanetd_host" .string eucanetdHost
    <*> Fields.field "public_network_cidr" .string publicNetworkCidr
    <*> Fields.field "public_gateway_ip" .string publicGatewayIp
    <*> Fields.field "gateway_hosts" .string gatewayHosts
    <*> Fields.field "managed_subnets" (.list ManagedSubnet.form) managedSubnets
    <*> Fields.field "subnets" (.list Subnet.form) subnets
    <*> Fields.field "clusters" (.list Cluster.form) clusters
    <*> Fields.field "instances" (.list Instance.form) instances
    <*> Fields.field "interfaces" (.list Instance.form) interfaces
    <*> Fields.field "sorted_instances" .bool sortedInstances
    <*> Fields.field "secgroups" (.list SecurityGroup.form) secgroups
    <*> Fields.field "vpcs" (.list Vpc.form) vpcs
    <*> Fields.field "internet_gateways" (.list InternetGateway.form) internetGateways
    <*> Fields.field "dhcp_option_sets" (.list DhcpOptionSet.form) dhcpOptionSets
    <*> Fields.fieldOr (.anywhere {}) "hostnames" HostnameCache.form hostnames).toForm

/-- The model as the text of a snapshot. -/
def toSnapshot (m : NetworkModel) : String := Json.pretty (form.toJson m)

/-- Read the model in the text of a snapshot. -/
def ofSnapshot (s : String) : Except Fault NetworkModel :=
  match (Json.ofText? s).bind form.ofJson? with
  | some m => .ok m
  | none => .error (.input .malformedSnapshot)

end NetworkModel

end CloudNet
