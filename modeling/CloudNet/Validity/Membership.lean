import CloudNet.Validity.Placement

/-!
# Rules for instances, interfaces and security groups

An instance and an interface need an address of their own; a missing hardware address is only
remarked on. The rules of a security group all have a match expression, and its members exist and
have names.
-/

namespace CloudNet

/-- The rules that instances and interfaces have in common. -/
def Instance.memberChecks (i : Instance) (kind : EntityKind) : List Check :=
  identityChecks kind i.name i.accountId ++
  Check.remarkIf (!i.mac.isSet) (.noMac kind i.name) ++
  [ .require (i.privateIp != 0) (.entity kind i.name .noPrivateIp) ] ++
  Check.noneWhere (· == "") i.secgroupNames fun n => .entity kind i.name (.emptySecgroupName n)

/-- The rules for an instance. -/
def Instance.instanceChecks (i : Instance) : List Check :=
  i.memberChecks .machine ++
  [ .require (!i.secgroupNames.isEmpty) (.entity .machine i.name .noSecgroups) ]

/-- The rules for an interface. -/
def Instance.interfaceChecks (i : Instance) : List Check :=
  i.memberChecks .interface ++ [ .lengthAtMost "interface ifname" i.ifname nameLimit ]

/-- The members of a security group: for each position it refers to, the instance or interface if
there is one. -/
def NetworkModel.membersOf (m : NetworkModel) (g : SecurityGroup) : List (Option Instance) :=
  g.instances.map (m.instances[·]?) ++ g.interfaces.map (m.interfaces[·]?)

/-- The rules for a security group of a model. -/
def SecurityGroup.checks (g : SecurityGroup) (m : NetworkModel) : List Check :=
  identityChecks .secgroup g.name g.accountId ++
  Check.noneWhere (· == "") g.groupRules (fun i => .entity .secgroup g.name (.emptyGroupRule i)) ++
  (g.ingressRules ++ g.egressRules).map (fun r =>
    .lengthAtMost "secgroup rule cidr" r.cidr cidrLimit) ++
  Check.noneWhere (fun member => member.all (·.name == "")) (m.membersOf g)
    fun i => .entity .secgroup g.name (.emptyMember i)

end CloudNet
