import CloudNet.Validity.Membership
import CloudNet.Validity.Tenant

/-!
# Validity of models

A model is valid if it passes all rules, which depend on the mode of its network.
`NetworkModel.validate` reports the first rule that is broken.

* `validate_eq_ok_iff`: a model is accepted exactly if every check passes.
-/

namespace CloudNet

/-- The mode of a name, or the violation that it names none. -/
def NetMode.validate (name : String) : Except Violation NetMode :=
  match NetMode.ofName? name with
  | some mode => .ok mode
  | none => .error (if name = "" then .noMode else .unknownMode name)

namespace NetworkModel

/-- The rules for the settings of the whole network that do not depend on the mode. -/
def settingChecks (m : NetworkModel) : List Check :=
  [ .require (m.controllerIp != 0) .noControllerIp,
    .require (m.dnsDomain != "") .noDnsDomain,
    .lengthAtMost "instanceDNSDomain" m.dnsDomain hostnameLimit,
    .require (!m.dnsServers.isEmpty) .noDnsServers ] ++
  Check.noneWhere (· == 0) m.dnsServers .emptyDnsServer

/-- The rules for the settings of a network with one managed subnet. -/
def managedChecks (m : NetworkModel) : List Check :=
  .require (m.managedSubnets.length == 1) (.managedSubnetCount m.managedSubnets.length) ::
    (m.managedSubnets.head?.map ManagedSubnet.checks).getD []

/-- The rules for the declared subnets of a network in `EDGE` mode. -/
def edgeChecks (m : NetworkModel) : List Check :=
  m.subnets.zipIdx.flatMap fun (s, i) => s.checks.map (Check.noting (.invalidSubnet i))

/-- The rules for the settings of a network of tenant networks. -/
def midoChecks (m : NetworkModel) : List Check :=
  [ .lengthAtMost "eucanetdHost" m.eucanetdHost hostnameLimit,
    .lengthAtMost "publicNetworkCidr" m.publicNetworkCidr cidrLimit ]

/-- The rules for the settings that depend on the mode. -/
def modeChecks (m : NetworkModel) : NetMode → List Check
  | .edge => Check.noneWhere (· == 0) m.publicIps .emptyPublicIp ++ m.edgeChecks
  | .managed | .managedNoVlan =>
    Check.noneWhere (· == 0) m.publicIps .emptyPublicIp ++ m.managedChecks
  | .vpcMido => m.midoChecks

/-- The rules for all entities of the model. -/
def entityChecks (m : NetworkModel) (mode : NetMode) : List Check :=
  m.clusters.flatMap (·.checks mode) ++ m.instances.flatMap Instance.instanceChecks ++
  m.interfaces.flatMap Instance.interfaceChecks ++ m.secgroups.flatMap (·.checks m) ++
  (if mode = .vpcMido then m.vpcs.flatMap Vpc.checks else [])

/-- The rules for a model, in the order in which they are checked. -/
def checks (m : NetworkModel) : List Check :=
  .require m.initialized .uninitialized ::
    match NetMode.validate m.mode with
    | .error violation => [.require false violation]
    | .ok mode => m.settingChecks ++ m.modeChecks mode ++ m.entityChecks mode

/-- Check a model against all rules, up to the first that is broken. -/
def validate (m : NetworkModel) : Noted (Except Fault Unit) := Check.run m.checks

/-- The model breaks no rule. -/
def Valid (m : NetworkModel) : Prop := m.validate.value = .ok ()

/-- **A model is accepted exactly if every check passes.** -/
theorem validate_eq_ok_iff (m : NetworkModel) : m.Valid ↔ ∀ c ∈ m.checks, c.passes = true :=
  Check.value_run_eq_ok_iff m.checks

end NetworkModel

end CloudNet
