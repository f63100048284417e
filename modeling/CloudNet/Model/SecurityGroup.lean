import CloudNet.Address.Ipv4

/-!
# Security groups

A security group is a named bundle of rules together with its members. `Rule.sameMatch` compares
what two rules match: protocol, ports, ICMP type and code, peer group and source block.
-/

namespace CloudNet

/-- The number that stands for all protocols. -/
def protocolAll : Int32 := -1

/-- The protocol number of ICMP. -/
def protocolIcmp : Int32 := 1

/-- The protocol number of TCP. -/
def protocolTcp : Int32 := 6

/-- The protocol number of UDP. -/
def protocolUdp : Int32 := 17

/-- What traffic a rule is about, in one direction. -/
structure Rule where
  protocol : Int32 := 0
  /-- The peer security group, if the rule is about one instead of a block of addresses. -/
  groupId : String := ""
  groupOwnerId : String := ""
  cidr : String := ""
  cidrAddress : Ipv4 := 0
  cidrLength : UInt8 := 0
  fromPort : Int32 := 0
  toPort : Int32 := 0
  icmpType : Int32 := 0
  icmpCode : Int32 := 0
  deriving DecidableEq, Repr, Inhabited

/-- The rules match the same traffic, field by field. -/
def Rule.sameMatch (a b : Rule) : Bool :=
  a.cidrAddress == b.cidrAddress && a.cidrLength == b.cidrLength && a.protocol == b.protocol &&
    a.fromPort == b.fromPort && a.toPort == b.toPort && a.icmpType == b.icmpType &&
    a.icmpCode == b.icmpCode && a.groupId == b.groupId

/-- A named bundle of rules and its members. -/
structure SecurityGroup where
  name : String := ""
  accountId : String := ""
  /-- The legacy rules as match expressions; empty where a rule has none. -/
  groupRules : List String := []
  ingressRules : List Rule := []
  egressRules : List Rule := []
  /-- The positions of its members among the instances of the model. -/
  instances : List Nat := []
  /-- The positions of its members among the interfaces of the model. -/
  interfaces : List Nat := []
  deriving DecidableEq, Repr, Inhabited

end CloudNet
