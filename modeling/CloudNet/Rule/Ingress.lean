import CloudNet.Rule.Legacy

/-!
# Ingress rules

A structured rule becomes a match expression made of clauses: the source block, unless it is any
address; the protocol with its ports or its ICMP type; and a condition on the packet mark. The
clauses are values (`SourceClause` to `MarkClause`) before they are text, so what an expression
admits can be read off them.
-/

namespace CloudNet

/-- A condition on the mark of a packet, on top of a rule. -/
inductive RuleFlag where
  | none
  /-- Only packets without source NAT in `EDGE` mode. -/
  | excludeEdgeMark
  /-- Only packets with source NAT in the managed modes. -/
  | requireManagedMark
  /-- Only packets without source NAT in the managed modes. -/
  | excludeManagedMark
  /-- A flag without meaning. -/
  | unknown (code : Int32)
  deriving DecidableEq, Repr

namespace RuleFlag

/-- The flag of a number. -/
def ofCode (code : Int32) : RuleFlag :=
  if code = 0 then .none
  else if code = 1 then .excludeEdgeMark
  else if code = 2 then .requireManagedMark
  else if code = 4 then .excludeManagedMark
  else .unknown code

/-- The mark of packets with source NAT in `EDGE` mode. -/
def edgeMark : String := "0x2a"

/-- The mark of packets with source NAT in the managed modes. -/
def managedMark : String := "0x15"

/-- The clause of a flag, if it has one. -/
def clause? : RuleFlag → Option String
  | none => .none
  | excludeEdgeMark => some s!"-m mark ! --mark {edgeMark}"
  | requireManagedMark => some s!"-m mark --mark {managedMark}"
  | excludeManagedMark => some s!"-m mark ! --mark {managedMark}"
  | unknown _ => .none

end RuleFlag

/-- The ports that a rule admits. -/
inductive PortMatch where
  | any
  | single (port : Int32)
  | range (least greatest : Int32)
  deriving DecidableEq, Repr

namespace PortMatch

/-- The match for a rule's two port fields. A first port of zero admits all, and a second one that
is not above the first does not count. -/
def ofPorts (first last : Int32) : PortMatch :=
  if first = 0 then any
  else if last ≠ 0 ∧ last > first then range first last
  else single first

/-- The clause of a match, if it has one. -/
def clause? : PortMatch → Option String
  | any => none
  | single p => some s!"--dport {Text.signedDecimal p.toInt}"
  | range a b => some s!"--dport {Text.signedDecimal a.toInt}:{Text.signedDecimal b.toInt}"

end PortMatch

/-- The ICMP messages that a rule admits. -/
inductive IcmpMatch where
  | any
  | ofType (type : Int32)
  | ofCode (type code : Int32)
  deriving DecidableEq, Repr

namespace IcmpMatch

/-- The match for a rule's ICMP type and code, where `-1` stands for any. -/
def ofFields (type code : Int32) : IcmpMatch :=
  if type = -1 then any else if code = -1 then ofType type else ofCode type code

/-- The clause of a match. -/
def clause : IcmpMatch → String
  | any => "--icmp-type any"
  | ofType t => s!"--icmp-type {Text.signedDecimal t.toInt}"
  | ofCode t c => s!"--icmp-type {Text.signedDecimal t.toInt}/{Text.signedDecimal c.toInt}"

end IcmpMatch

/-- The protocol that a rule admits, with what is specific to it. -/
inductive ProtocolMatch where
  | all
  | icmp (messages : IcmpMatch)
  | tcp (ports : PortMatch)
  | udp (ports : PortMatch)
  | other (number : Int32)
  deriving DecidableEq, Repr

namespace ProtocolMatch

/-- The match for a rule's protocol; none for a number that is not a protocol. -/
def ofRule (r : Rule) : Except RuleError ProtocolMatch :=
  if r.protocol = protocolAll then .ok all
  else if r.protocol = protocolIcmp then .ok (icmp (.ofFields r.icmpType r.icmpCode))
  else if r.protocol = protocolTcp then .ok (tcp (.ofPorts r.fromPort r.toPort))
  else if r.protocol = protocolUdp then .ok (udp (.ofPorts r.fromPort r.toPort))
  else if Protocol.isValid r.protocol then .ok (other r.protocol)
  else .error (.invalidProtocol r.protocol)

/-- The clauses of a match. -/
def clauses : ProtocolMatch → List String
  | all => []
  | icmp messages => ["-p icmp -m icmp", messages.clause]
  | tcp ports => "-p tcp -m tcp" :: ports.clause?.toList
  | udp ports => "-p udp -m udp" :: ports.clause?.toList
  | other n => [s!"-p {Text.signedDecimal n.toInt}"]

end ProtocolMatch

namespace Rule

/-- The source block of a rule, or the one given in its place; empty for any address. -/
def source (given : Option String) (r : Rule) : String :=
  let s := Text.trim (given.getD r.cidr)
  if s = anyCidr then "" else s

/-- The clauses of a rule's match expression. -/
def clauses (given : Option String) (r : Rule) (flag : RuleFlag) :
    Except RuleError (List String) := do
  let source := r.source given
  let protocol ← ProtocolMatch.ofRule r
  return (if source = "" then [] else ["-s " ++ source]) ++ protocol.clauses ++ flag.clause?.toList

/-- The match expression of a rule; `given` replaces its source block. -/
def compile (given : Option String) (r : Rule) (flag : RuleFlag) : Except RuleError String :=
  (r.clauses given flag).map (Text.joinWith " ")

end Rule

end CloudNet
