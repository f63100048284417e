import CloudNet.Address.Cidr
import CloudNet.Document.Path

/-!
# Faults

What can go wrong, as causes rather than as texts. A `Violation` is a rule for models that a model
breaks, a `RuleError` keeps a security rule from being compiled, a `ContractError` is an operation
used outside its contract. `Fault.message` gives the one wording of each.
-/

namespace CloudNet

/-- The kinds of named entities that rules for models speak about. -/
inductive EntityKind where
  | cluster | node | machine | interface | secgroup | vpc | vpcSubnet | natGateway | routeTable
  | networkAcl
  deriving DecidableEq, Repr

namespace EntityKind

/-- The kind in words. -/
def label : EntityKind → String
  | cluster => "cluster"
  | node => "node"
  | machine => "instance"
  | interface => "interface"
  | secgroup => "secgroup"
  | vpc => "vpc"
  | vpcSubnet => "vpcsubnet"
  | natGateway => "natg"
  | routeTable => "route table"
  | networkAcl => "network acl"

end EntityKind

/-- The two directions of traffic that entries of a network ACL apply to. -/
inductive Direction where
  | ingress | egress
  deriving DecidableEq, Repr

namespace Direction

/-- The direction in words. -/
def label : Direction → String
  | ingress => "ingress"
  | egress => "egress"

end Direction

/-- A rule that a named entity breaks. Positions count from zero. -/
inductive Defect where
  | noAccountId
  | noControllerIp
  | noMacPrefix
  | badPrivateSubnet
  | noPrivateIps
  | emptyPrivateIp (position : Nat)
  | emptyInstanceName (position : Nat)
  | noPrivateIp
  | emptySecgroupName (position : Nat)
  | noSecgroups
  | emptyGroupRule (position : Nat)
  | emptyMember (position : Nat)
  | noVpc
  | noVpcSubnet
  | badRoute (position : Nat)
  | badAclEntry (direction : Direction) (number : Int32)
  | badAclCidr (number : Int32)
  | badAclProtocol (number : Int32)
  deriving DecidableEq, Repr

namespace Defect

/-- The defect in words, to follow the entity's name. -/
def message : Defect → String
  | noAccountId => "no accountId"
  | noControllerIp => "no enabledCCIp"
  | noMacPrefix => "no macPrefix"
  | badPrivateSubnet => "invalid cluster private_subnet"
  | noPrivateIps => "no private_ips"
  | emptyPrivateIp i => s!"empty private_ips set at idx {i}"
  | emptyInstanceName i => s!"empty instance_names set at idx {i}"
  | noPrivateIp => "no privateIp"
  | emptySecgroupName i => s!"empty secgroup_names set at idx {i}"
  | noSecgroups => "no secgroups"
  | emptyGroupRule i => s!"empty grouprules set at idx {i}"
  | emptyMember i => s!"empty member set at idx {i}"
  | noVpc => "no vpc"
  | noVpcSubnet => "no vpc subnet"
  | badRoute i => s!"invalid route entry at idx {i}"
  | badAclEntry d n => s!"invalid {d.label} entry {Text.signedDecimal n.toInt}"
  | badAclCidr n => s!"invalid CIDR at entry {Text.signedDecimal n.toInt}"
  | badAclProtocol n => s!"invalid protocol at entry {Text.signedDecimal n.toInt}"

end Defect

/-- A rule for models that a model breaks. -/
inductive Violation where
  | uninitialized
  | noMode
  | unknownMode (mode : String)
  | noControllerIp
  | noDnsDomain
  | noDnsServers
  | emptyDnsServer (position : Nat)
  | emptyPublicIp (position : Nat)
  | managedSubnetCount (count : Nat)
  | emptyManagedSubnet (network netmask : Ipv4)
  | segmentSize (size : Int32)
  | minVlan (vlan : Int32)
  | maxVlan (vlan : Int32)
  | vlanOrder (least greatest : Int32)
  | emptySubnet (network netmask gateway : Ipv4)
  | scatteredNetmask (netmask : Ipv4)
  | gatewayOutside (gateway : Ipv4) (block : Cidr)
  | unnamed (kind : EntityKind)
  | entity (kind : EntityKind) (name : String) (defect : Defect)
  deriving DecidableEq

namespace Violation

/-- The violation in words. -/
def message : Violation → String
  | uninitialized => "model is not initialized yet"
  | noMode => "network mode is not set"
  | unknownMode mode => s!"invalid network mode '{mode}'"
  | noControllerIp => "no enabled CLC IP set"
  | noDnsDomain => "no instanceDNSDomain set"
  | noDnsServers => "no instanceDNSServers set"
  | emptyDnsServer i => s!"empty instanceDNSServer set at idx {i}"
  | emptyPublicIp i => s!"empty public_ip set at idx {i}"
  | managedSubnetCount n => s!"invalid number of managed subnets set '{n}'"
  | emptyManagedSubnet s m => s!"invalid managed subnet: subnet={s.toNat} netmask={m.toNat}"
  | segmentSize n => s!"invalid managed subnet: segmentSize={Text.signedDecimal n.toInt}"
  | minVlan n => s!"invalid managed subnet: minVlan={Text.signedDecimal n.toInt}"
  | maxVlan n => s!"invalid managed subnet: maxVlan={Text.signedDecimal n.toInt}"
  | vlanOrder a b =>
    s!"invalid managed subnet: minVlan={Text.signedDecimal a.toInt}, " ++
      s!"maxVlan={Text.signedDecimal b.toInt}"
  | emptySubnet s m g =>
    s!"invalid subnet: subnet={s.toNat} netmask={m.toNat} gateway={g.toNat}"
  | scatteredNetmask m => s!"invalid subnet: netmask {Ipv4.dotted m} is not contiguous"
  | gatewayOutside g block =>
    s!"invalid subnet: gateway {Ipv4.dotted g} is outside {block.text}"
  | unnamed kind => s!"no {kind.label} name"
  | entity kind name defect => s!"{kind.label} {name}: {defect.message}"

end Violation

/-- Why a security rule has no match expression. -/
inductive RuleError where
  | protocolNotNumber (text : String)
  | noProtocol
  | unsupportedProtocol (number : Int32)
  | invalidProtocol (number : Int32)
  | emptyChainHash (group : String)
  deriving DecidableEq, Repr

namespace RuleError

/-- The error in words. -/
def message : RuleError → String
  | protocolNotNumber text => s!"protocol '{text}' is not a number"
  | noProtocol => "not enough information in source rule: no protocol"
  | unsupportedProtocol n => s!"unsupported protocol {Text.signedDecimal n.toInt} in legacy rule"
  | invalidProtocol n => s!"invalid protocol ({Text.signedDecimal n.toInt}) - cannot create rule"
  | emptyChainHash group => s!"empty chain hash for {group}"

end RuleError

/-- The parts of a model that are built from one section of the document each. -/
inductive Section where
  | header | instances | secgroups | vpcs | internetGateways | dhcpOptionSets | configuration
  deriving DecidableEq, Repr

namespace Section

/-- The part in words. -/
def label : Section → String
  | header => "gni data"
  | .instances => "instances"
  | secgroups => "security groups"
  | vpcs => "vpcs"
  | internetGateways => "internet gateways"
  | dhcpOptionSets => "dhcp option sets"
  | configuration => "configuration"

end Section

/-- An operation was used outside its contract. -/
inductive ContractError where
  | uninitialized
  | notEmpty (part : Section)
  | unsorted
  | danglingMember
  | unknownExtent (text : String)
  deriving DecidableEq, Repr

namespace ContractError

/-- The error in words. -/
def message : ContractError → String
  | uninitialized => "model is not initialized"
  | notEmpty part => s!"{part.label} section is not empty"
  | unsorted => "instance collection is not sorted by name"
  | danglingMember => "security group refers to a missing instance"
  | unknownExtent text => s!"unknown populate mode '{text}'"

end ContractError

/-- Input that cannot be used at all. -/
inductive InputError where
  | unreadableFile
  | malformedXml
  | wrongRoot (name : String)
  | malformedSnapshot
  deriving DecidableEq, Repr

/-- The name of a document's root element. -/
def rootName : String := "network-data"

namespace InputError

/-- The error in words. -/
def message : InputError → String
  | unreadableFile => "unable to read XML file"
  | malformedXml => "unable to parse XML"
  | wrongRoot name => s!"unexpected root element '{name}', expected '{rootName}'"
  | malformedSnapshot => "Error parsing snapshot JSON"

end InputError

/-- A failure of an operation. -/
inductive Fault where
  | input (cause : InputError)
  | contract (cause : ContractError)
  | invalid (cause : Violation)
  | tooLong (field : String) (length limit : Nat)
  | conversion (cause : RuleError)
  | noConfiguration
  /-- The memory is used up. -/
  | exhausted (cause : String)
  /-- The log cannot be started. -/
  | noLog (cause : String)
  | noSuchFile
  /-- A directory stands where a file has to be. -/
  | isDirectory
  /-- The contents of a file are no text. -/
  | notText
  deriving DecidableEq

namespace Fault

/-- The fault in words. -/
def message : Fault → String
  | input cause => "fatal input: " ++ cause.message
  | contract cause => "contract violation: " ++ cause.message
  | invalid cause => "validation failed: " ++ cause.message
  | tooLong field length limit => s!"value too long for {field}: {length} > {limit}"
  | conversion cause => "rule conversion failed: " ++ cause.message
  | noConfiguration => "not found: configuration section is required"
  | exhausted cause => "resource exhausted: " ++ cause
  | noLog cause => cause
  | noSuchFile => "no such file or directory"
  | isDirectory => "is a directory"
  | notText => "stream did not contain valid UTF-8"

end Fault

/-! ## Laws -/

/-- What succeeds with its value changed has succeeded before. -/
theorem map_eq_ok_iff {ε α β : Type} {f : α → β} {x : Except ε α} {b : β} :
    x.map f = .ok b ↔ ∃ a, x = .ok a ∧ f a = b := by
  cases x with
  | error e => simp [Except.map]
  | ok a => simp [Except.map]

end CloudNet
