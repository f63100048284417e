import CloudNet.Json.Form
import CloudNet.Model.Network

/-!
# Snapshot forms of clusters, hosts and hostnames
-/

namespace CloudNet

open CloudNet.Json

/-- The form of a declared subnet. -/
def Subnet.form : Form Subnet :=
  (Subnet.mk <$> Fields.field "subnet" .ipv4 network
    <*> Fields.field "netmask" .ipv4 netmask
    <*> Fields.field "gateway" .ipv4 gateway).toForm

/-- The form of a managed subnet. -/
def ManagedSubnet.form : Form ManagedSubnet :=
  (ManagedSubnet.mk <$> Fields.field "subnet" .ipv4 network
    <*> Fields.field "netmask" .ipv4 netmask
    <*> Fields.field "min_vlan" .int32 minVlan
    <*> Fields.field "max_vlan" .int32 maxVlan
    <*> Fields.field "segment_size" .int32 segmentSize).toForm

/-- The form of a node. -/
def Node.form : Form Node :=
  (Node.mk <$> Fields.field "name" .string name
    <*> Fields.field "instance_names" (.list .string) instanceNames).toForm

/-- The form of a cluster. -/
def Cluster.form : Form Cluster :=
  (Cluster.mk <$> Fields.field "name" .string name
    <*> Fields.field "enabled_cc_ip" .ipv4 controllerIp
    <*> Fields.field "mac_prefix" .string macPrefix
    <*> Fields.field "private_subnet" Subnet.form privateSubnet
    <*> Fields.field "private_ips" (.list .ipv4) privateIps
    <*> Fields.field "nodes" (.list Node.form) nodes).toForm

/-- The form of a hostname. -/
def Hostname.form : Form Hostname :=
  (Hostname.mk <$> Fields.field "ip" .ipv4 ip
    <*> Fields.field "hostname" .string hostname).toForm

/-- The form of a hostname cache. -/
def HostnameCache.form : Form HostnameCache :=
  (HostnameCache.mk <$> Fields.field "entries" (.list Hostname.form) entries).toForm

end CloudNet
