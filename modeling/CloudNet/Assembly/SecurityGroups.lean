import CloudNet.Assembly.Field
import CloudNet.Lookup
import CloudNet.Rule.Legacy

/-!
# Security groups from a document

Groups and their members know each other: an instance that names a group is one of its members, and
both sides hold the other's position. Interfaces are members only in a network of tenant networks.
-/

namespace CloudNet

/-- Read a structured rule. A source block that is none is noted and leaves its numbers zero. -/
def Rule.ofElement (e : Element) : Noted Rule :=
  let r : Rule :=
    { protocol := e.intAt (Route.child "protocol")
      groupId := e.stringAt (Route.child "groupId")
      groupOwnerId := e.stringAt (Route.child "groupOwnerId")
      fromPort := e.intAt (Route.child "fromPort")
      toPort := e.intAt (Route.child "toPort")
      icmpType := e.intAt (Route.child "icmpType")
      icmpCode := e.intAt (Route.child "icmpCode") }
  match e.lastText? (Route.child "cidr") with
  | none => return r
  | some cidr =>
    match Cidr.ofBlockOrAddress? cidr with
    | some block =>
      return { r with cidr, cidrAddress := block.address, cidrLength := block.length }
    | none => do
      Noted.tell (.badRuleCidr cidr)
      return { r with cidr }

/-- The group with the positions of those that name it. -/
def SecurityGroup.withMembers (g : SecurityGroup) (instances interfaces : List Instance) :
    SecurityGroup :=
  { g with
    instances := positionsWhere (·.hasSecgroup g.name) instances
    interfaces := positionsWhere (·.hasSecgroup g.name) interfaces }

/-- The instance or interface with the positions of the groups it names, the first of which stands
at position `start`. -/
def Instance.withSecgroups (i : Instance) (groups : List SecurityGroup) (start : Nat) : Instance :=
  { i with
    secgroups :=
      i.secgroups ++ (positionsWhere (fun g => i.hasSecgroup g.name) groups).map (start + ·) }

/-- Read a security group without its members. A legacy rule without a match expression is
noted and leaves an empty one. -/
def SecurityGroup.ofElement (e : Element) : Noted SecurityGroup := do
  let converted ← Noted.mapList LegacyRule.convertNoted (e.texts (Route.grandchild "rules" "value"))
  let ingress ← Noted.mapList Rule.ofElement (e.follow (Route.grandchild "ingressRules" "rule"))
  let egress ← Noted.mapList Rule.ofElement (e.follow (Route.grandchild "egressRules" "rule"))
  return {
    name := e.entityName
    accountId := e.stringAt (Route.child "ownerId")
    groupRules := converted.map fun outcome => outcome.toOption.getD ""
    ingressRules := ingress
    egressRules := egress }

/-- Fill in the security groups and link them with the instances and interfaces that name them. -/
def NetworkModel.withSecgroups (m : NetworkModel) (part : Option Element) :
    Noted (Except Fault NetworkModel) :=
  match m.fillable .secgroups m.secgroups.isEmpty, part with
  | .error fault, _ => return .error fault
  | .ok (), none => return .ok m
  | .ok (), some e => do
    let found ← Noted.mapList SecurityGroup.ofElement (e.follow (Route.child "securityGroup"))
    let interfaces := if m.isVpcMido then m.interfaces else []
    let link (i : Instance) : Instance := i.withSecgroups found m.secgroups.length
    return .ok { m with
      instances := m.instances.map link
      interfaces := if m.isVpcMido then m.interfaces.map link else m.interfaces
      secgroups := m.secgroups ++ found.map (·.withMembers m.instances interfaces) }

end CloudNet
