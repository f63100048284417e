import CloudNet.Json.Form
import CloudNet.Model.Network

/-!
# Snapshot forms of instances and security groups
-/

namespace CloudNet

open CloudNet.Json

/-- The form of an instance or an interface. -/
def Instance.form : Form Instance :=
  (Instance.mk <$> Fields.field "name" .string name
    <*> Fields.field "ifname" .string ifname
    <*> Fields.field "instance_name" .string instanceName
    <*> Fields.field "account_id" .string accountId
    <*> Fields.field "mac_address" .mac mac
    <*> Fields.field "public_ip" .ipv4 publicIp
    <*> Fields.field "private_ip" .ipv4 privateIp
    <*> Fields.field "vpc" .string vpc
    <*> Fields.field "subnet" .string subnet
    <*> Fields.field "node" .string node
    <*> Fields.field "secgroup_names" (.list .string) secgroupNames
    <*> Fields.field "secgroups" (.list .position) secgroups
    <*> Fields.field "attachment_id" .string attachmentId
    <*> Fields.field "src_dst_check" .bool srcDstCheck
    <*> Fields.field "device_index" .int32 deviceIndex
    <*> Fields.field "interfaces" (.list .position) interfaces).toForm

/-- The form of a rule. -/
def Rule.form : Form Rule :=
  (Rule.mk <$> Fields.field "protocol" .int32 protocol
    <*> Fields.field "group_id" .string groupId
    <*> Fields.field "group_owner_id" .string groupOwnerId
    <*> Fields.field "cidr" .string cidr
    <*> Fields.field "cidr_netaddr" .ipv4 cidrAddress
    <*> Fields.field "cidr_slashnet" .uint8 cidrLength
    <*> Fields.field "from_port" .int32 fromPort
    <*> Fields.field "to_port" .int32 toPort
    <*> Fields.field "icmp_type" .int32 icmpType
    <*> Fields.field "icmp_code" .int32 icmpCode).toForm

/-- The form of a security group. -/
def SecurityGroup.form : Form SecurityGroup :=
  (SecurityGroup.mk <$> Fields.field "name" .string name
    <*> Fields.field "account_id" .string accountId
    <*> Fields.field "group_rules" (.list .string) groupRules
    <*> Fields.field "ingress_rules" (.list Rule.form) ingressRules
    <*> Fields.field "egress_rules" (.list Rule.form) egressRules
    <*> Fields.field "instances" (.list .position) instances
    <*> Fields.field "interfaces" (.list .position) interfaces).toForm

end CloudNet
