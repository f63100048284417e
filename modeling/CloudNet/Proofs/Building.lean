import CloudNet.Proofs.Assembled

/-!
# Building a model

A build assembles a model and checks it. What the success of a build says is enough for most
properties of a model: what it was assembled from, and that it breaks no rule.

* `value_ofDocument_eq_ok_iff`: what the success of a build says.
* `assembled_of_ofDocument`: a model built from a whole document is an assembled one.
* `Valid.exists_mode`, `Valid.passes_of_mem_secgroups`: a model that breaks no rule has a mode, and
  the rules for its groups are among those that it does not break.
* `Valid.name_ne_empty`: neither are those for its instances, so these have names.
* `ofDocument_of_sorted`: a build succeeds if sorting and evaluating the rest gives a model that
  breaks no rule.
* `Sample.ofDocument_network`: the build of a small network of tenant networks succeeds.
* `Sample.ofDocument_guarded`: so does that of a network with one rule, whatever its fields.
-/

namespace CloudNet

namespace NetworkModel

/-- A model carries the hostnames that it is assembled with. -/
theorem hostnames_assemble (d : Document) (withAll : Bool) (hostnames : HostnameCache) :
    (assemble d withAll hostnames).value.hostnames = hostnames := by
  cases withAll with
  | true => rfl
  | false => rfl

/-- What a build of a model answers, unless nothing is to be read. -/
theorem value_ofDocument {extent : Extent} (he : extent ≠ .nothing) (d : Document)
    (hostnames : HostnameCache) :
    (ofDocument d extent hostnames).value =
      if d.root.name = rootName then
        (assemble d (extent == .all) hostnames).value.validate.value.map fun () =>
          (assemble d (extent == .all) hostnames).value
      else .error (.input (.wrongRoot d.root.name)) := by
  rw [ofDocument_eq, if_neg he]
  split <;> rfl

/-- **What the success of a build says**: the root is the right one, and the model that is assembled
breaks no rule. -/
theorem value_ofDocument_eq_ok_iff {extent : Extent} (he : extent ≠ .nothing) {d : Document}
    {hostnames : HostnameCache} {m : NetworkModel} :
    (ofDocument d extent hostnames).value = .ok m ↔
      d.root.name = rootName ∧ m = (assemble d (extent == .all) hostnames).value ∧ m.Valid := by
  rw [value_ofDocument he]
  unfold Valid
  split
  · next hroot =>
    cases hv : (assemble d (extent == .all) hostnames).value.validate.value with
    | ok u =>
      simp only [Except.map, Except.ok.injEq, hroot, true_and]
      constructor
      · rintro rfl
        exact ⟨rfl, hv⟩
      · rintro ⟨rfl, -⟩
        rfl
    | error fault =>
      simp only [Except.map, reduceCtorEq, hroot, true_and, false_iff, not_and]
      rintro rfl h
      rw [hv] at h
      exact absurd h (by simp)
  · next hroot =>
    simp only [reduceCtorEq, hroot, false_and]

/-- **A model built from a whole document is assembled from its sections.** -/
theorem assembled_of_ofDocument {d : Document} {hostnames : HostnameCache} {m : NetworkModel}
    (h : (ofDocument d .all hostnames).value = .ok m) : Assembled d.sections m := by
  obtain ⟨-, rfl, -⟩ := (value_ofDocument_eq_ok_iff (by decide)).mp h
  exact assembled_assemble d hostnames

/-- **A model that breaks no rule has a mode**, and none of the rules for that mode is broken. -/
theorem Valid.exists_mode {m : NetworkModel} (h : m.Valid) :
    ∃ mode, NetMode.validate m.mode = .ok mode ∧
      ∀ c ∈ m.settingChecks ++ m.modeChecks mode ++ m.entityChecks mode, c.passes = true := by
  rw [validate_eq_ok_iff] at h
  unfold checks at h
  split at h
  · exact absurd (h _ (List.mem_cons_of_mem _ List.mem_cons_self)) (by simp)
  · next mode hmode => exact ⟨mode, hmode, fun c hc => h c (List.mem_cons_of_mem _ hc)⟩

/-- Nor is a rule for one of its groups. -/
theorem Valid.passes_of_mem_secgroups {m : NetworkModel} (h : m.Valid) {g : SecurityGroup}
    (hg : g ∈ m.secgroups) {c : Check} (hc : c ∈ g.checks m) : c.passes = true := by
  obtain ⟨mode, -, hpasses⟩ := h.exists_mode
  have hentity : c ∈ m.entityChecks mode :=
    List.mem_append_left _ (List.mem_append_right _ (List.mem_flatMap.mpr ⟨g, hg, hc⟩))
  exact hpasses c (List.mem_append_right _ hentity)

/-- The instances of a model that breaks no rule have names. -/
theorem Valid.name_ne_empty {m : NetworkModel} (h : m.Valid) {i : Instance}
    (hi : i ∈ m.instances) : i.name ≠ "" := by
  obtain ⟨mode, -, hpasses⟩ := h.exists_mode
  have hinstance : ∀ c ∈ i.instanceChecks, c ∈ m.entityChecks mode := by
    intro c hc
    have hall : c ∈ m.instances.flatMap Instance.instanceChecks :=
      List.mem_flatMap.mpr ⟨i, hi, hc⟩
    simp only [entityChecks, List.mem_append]
    exact .inl (.inl (.inl (.inr hall)))
  have hnamed := hpasses _ (List.mem_append_right _ (hinstance (.require (i.name != "")
    (.unnamed .machine)) List.mem_cons_self))
  exact bne_iff_ne.mp hnamed

/-! ## Building by evaluation -/

/-- The model that has the header of the document and nothing else. -/
def header (d : Document) : NetworkModel :=
  (empty.orKeep .header (empty.withHeader d d.sections.configuration)).value

/-- The instances of a document as they are read. -/
def unsorted (d : Document) : List Instance :=
  Instance.numbered 0 (Instance.listed (header d).isVpcMido d.sections.instances)

/-- The model of a document, given its instances in order of name. Sorting does not evaluate in a
proof, and all the rest does. -/
def ofSorted (d : Document) (instances : List Instance) (hostnames : HostnameCache) :
    NetworkModel :=
  let groups := SecurityGroup.listed d.sections.securityGroups
  let interfaces := (Instance.listed (header d).isVpcMido d.sections.instances).flatMap Prod.snd
  let filled : NetworkModel := { header d with
    instances := instances.map (·.withSecgroups groups 0)
    interfaces := interfaces.map (·.withSecgroups groups 0)
    sortedInstances := true
    secgroups := groups.map (·.withMembers instances interfaces)
    vpcs := Vpc.listed d.sections.vpcs
    internetGateways := InternetGateway.listed d.sections.internetGateways
    dhcpOptionSets := DhcpOptionSet.listed d.sections.dhcpOptionSets }
  let outcome := (filled.withConfiguration d.sections.configuration).value
  { (filled.orKeep .configuration outcome).value.linked.value with hostnames }

theorem value_assemble_eq_ofSorted (d : Document) (hostnames : HostnameCache) :
    (assemble d true hostnames).value =
      ofSorted d (Instance.byName (unsorted d)) hostnames := by
  unfold assemble
  simp only [if_true, Noted.value_bind, Noted.value_pure]
  rw [value_withEntities (blank_header d _)]
  rfl

/-- **A build succeeds** with the model that is left to evaluate, if that breaks no rule. -/
theorem ofDocument_of_sorted {d : Document} {instances : List Instance} {hostnames : HostnameCache}
    {m : NetworkModel} (hroot : d.root.name = rootName)
    (hsorted : Instance.byName (unsorted d) = instances)
    (hm : ofSorted d instances hostnames = m) (hvalid : ∀ c ∈ m.checks, c.passes = true) :
    (ofDocument d .all hostnames).value = .ok m := by
  have hassemble : (assemble d true hostnames).value = m := by
    rw [value_assemble_eq_ofSorted, hsorted, hm]
  exact (value_ofDocument_eq_ok_iff (by decide)).mpr
    ⟨hroot, hassemble.symm, (validate_eq_ok_iff m).mpr hvalid⟩

end NetworkModel

/-! ## A small network -/

namespace Sample

/-- A field of an entity. -/
def field (name text : String) : Content := .element name [] [.text text]

/-- A part of an entity, without a name of its own. -/
def part (tag : String) (content : List Content) : Content := .element tag [] content

/-- An entity with a name. -/
def entity (tag name : String) (content : List Content) : Content :=
  .element tag [{ name := "name", value := name }] content

/-- A setting of the network or of a cluster. -/
def setting (name value : String) : Content := entity "property" name [field "value" value]

/-- An instance with its interfaces; it names the group `web`. -/
def machine (name address : String) (interfaces : List Content) : Content :=
  entity "instance" name [
    field "ownerId" "account", field "privateIp" address,
    part "securityGroups" [field "value" "web"], part "networkInterfaces" interfaces]

/-- An interface in a subnet of the VPC `vpc-1` that names some groups. -/
def nic (name address index subnet : String) (groups : List String) : Content :=
  entity "networkInterface" name [
    field "ownerId" "account", field "privateIp" address, field "deviceIndex" index,
    field "vpc" "vpc-1", field "subnet" subnet, part "securityGroups" (groups.map (field "value"))]

/-- Two instances that are not in order of name, with three interfaces, in a VPC with one subnet.
The second interface is in a subnet that is not there, the access list of the subnet is missing, and
one of the instances is on no node. -/
def network : Document where
  root := ⟨"network-data", [{ name := "version", value := "7" }], [
    part "configuration" [
      setting "mode" "VPCMIDO", setting "enabledCLCIp" "10.0.0.1",
      setting "instanceDNSDomain" "cloud.internal", setting "instanceDNSServers" "10.0.0.2",
      entity "property" "clusters" [
        entity "cluster" "one" [
          setting "enabledCCIp" "10.0.0.3", setting "macPrefix" "d0:0d",
          entity "property" "nodes" [
            entity "node" "10.0.0.9" [part "instanceIds" [field "value" "i-b"]]]]]],
    part "instances" [
      machine "i-b" "10.1.0.4" [
        nic "eni-1" "10.1.0.4" "0" "subnet-1" ["web"], nic "eni-2" "10.1.0.5" "1" "subnet-2" []],
      machine "i-a" "10.1.0.6" [nic "eni-3" "10.1.0.6" "0" "subnet-1" []]],
    part "securityGroups" [entity "securityGroup" "web" [field "ownerId" "account"]],
    part "vpcs" [
      entity "vpc" "vpc-1" [
        field "ownerId" "account", field "cidr" "10.1.0.0/16", field "dhcpOptionSet" "dopt-1",
        part "routeTables" [entity "routeTable" "rtb-1" [field "ownerId" "account"]],
        part "networkAcls" [entity "networkAcl" "acl-1" [field "ownerId" "account"]],
        part "subnets" [
          entity "subnet" "subnet-1" [
            field "ownerId" "account", field "routeTable" "rtb-1",
            field "networkAcl" "acl-2"]]]]]⟩

/-- The instance that stands first in the document and last in the model. -/
def machineB : Instance where
  name := "i-b"
  accountId := "account"
  privateIp := 167837700
  secgroupNames := ["web"]
  interfaces := [0, 1]

/-- The other instance. -/
def machineA : Instance where
  name := "i-a"
  accountId := "account"
  privateIp := 167837702
  secgroupNames := ["web"]
  interfaces := [2]

/-- The interface that is not the primary one of its instance. -/
def secondary : Instance where
  name := "eni-2"
  ifname := "eni-2"
  instanceName := "i-b"
  accountId := "account"
  privateIp := 167837701
  vpc := "vpc-1"
  subnet := "subnet-2"
  node := "10.0.0.9"
  deviceIndex := 1

/-- The group of both instances and of one interface. -/
def web : SecurityGroup where
  name := "web"
  accountId := "account"
  instances := [0, 1]
  interfaces := [0]

/-- The subnet, whose access list is missing. -/
def subnet : VpcSubnet where
  name := "subnet-1"
  accountId := "account"
  networkAclName := "acl-2"
  routeTableName := "rtb-1"
  routeTable := some 0
  interfaces := [0, 2]

/-- The VPC, whose DHCP option set is missing. -/
def vpc : Vpc where
  name := "vpc-1"
  accountId := "account"
  cidr := "10.1.0.0/16"
  dhcpOptionSetName := "dopt-1"
  routeTables := [{ name := "rtb-1", accountId := "account" }]
  networkAcls := [{ name := "acl-1", accountId := "account" }]
  subnets := [subnet]
  interfaces := [0, 1, 2]

/-- The model of the network. -/
def model : NetworkModel where
  initialized := true
  mode := "VPCMIDO"
  version := "7"
  controllerIp := 167772161
  dnsDomain := "cloud.internal"
  dnsServers := [167772162]
  clusters := [
    { name := "one", controllerIp := 167772163, macPrefix := "d0:0d"
      nodes := [{ name := "10.0.0.9", instanceNames := ["i-b"] }] }]
  instances := [
    { machineA with secgroups := [0] }, { machineB with secgroups := [0], node := "10.0.0.9" }]
  interfaces := [
    { name := "i-b", ifname := "eni-1", instanceName := "i-b", accountId := "account"
      privateIp := 167837700, vpc := "vpc-1", subnet := "subnet-1", node := "10.0.0.9"
      secgroupNames := ["web"], secgroups := [0] },
    secondary,
    { name := "i-a", ifname := "eni-3", instanceName := "i-a", accountId := "account"
      privateIp := 167837702, vpc := "vpc-1", subnet := "subnet-1" }]
  sortedInstances := true
  secgroups := [web]
  vpcs := [vpc]

/-- The instances change places when they are put in order of name. -/
theorem byName_machines : Instance.byName [machineB, machineA] = [machineA, machineB] := by
  have hle : ¬ machineB.name ≤ machineA.name := by decide
  simp [Instance.byName, List.mergeSort, List.MergeSort.Internal.splitInTwo, hle]

/-- **The build of the small network succeeds.** -/
theorem ofDocument_network : (NetworkModel.ofDocument network .all {}).value = .ok model := by
  have hread : NetworkModel.unsorted network = [machineB, machineA] := by decide +kernel
  have hsorted : Instance.byName (NetworkModel.unsorted network) = [machineA, machineB] := by
    rw [hread, byName_machines]
  exact NetworkModel.ofDocument_of_sorted rfl hsorted (by decide +kernel) (by decide +kernel)

/-! ## A network with one rule -/

/-- The fields of a rule for remote logins from a source block. -/
def loginRule (block : String) : List Content := [
  field "protocol" "6", field "cidr" block, field "fromPort" "22", field "toPort" "22"]

/-- A network without tenant networks in which one group has one rule, given its fields. -/
def guarded (fields : List Content) : Document where
  root := ⟨"network-data", [{ name := "version", value := "7" }], [
    part "configuration" [
      setting "mode" "EDGE", setting "enabledCLCIp" "10.0.0.1",
      setting "instanceDNSDomain" "cloud.internal", setting "instanceDNSServers" "10.0.0.2"],
    part "securityGroups" [
      entity "securityGroup" "web" [
        field "ownerId" "account", part "ingressRules" [part "rule" fields]]]]⟩

/-- The network with a rule for remote logins from a source block. -/
def loginNetwork (block : String) : Document := guarded (loginRule block)

/-- The rule for remote logins, given its source block as text and as read. -/
def loginFrom (block : String) (address : Ipv4) (length : UInt8) : Rule where
  protocol := 6
  cidr := block
  cidrAddress := address
  cidrLength := length
  fromPort := 22
  toPort := 22

/-- The group of the network, given its rule. -/
def guardedGroup (rule : Rule) : SecurityGroup where
  name := "web"
  accountId := "account"
  ingressRules := [rule]

/-- The model of the network, given its rule. -/
def guardedModel (rule : Rule) : NetworkModel where
  initialized := true
  mode := "EDGE"
  version := "7"
  controllerIp := 167772161
  dnsDomain := "cloud.internal"
  dnsServers := [167772162]
  sortedInstances := true
  secgroups := [guardedGroup rule]

/-- The network breaks no rule for models if the text for the source block is short enough. -/
theorem valid_guardedModel {rule : Rule} (h : rule.cidr.utf8ByteSize ≤ cidrLimit) :
    (guardedModel rule).Valid := by
  rw [NetworkModel.validate_eq_ok_iff]
  have hchecks : Check.allPass (guardedModel rule).checks =
      (decide (rule.cidr.utf8ByteSize ≤ cidrLimit) && true) := rfl
  rw [decide_eq_true h] at hchecks
  exact List.all_eq_true.1 hchecks

/-- **The build of the network succeeds.** -/
theorem ofDocument_guarded {fields : List Content} {rule : Rule}
    (h : (Rule.ofElement ⟨"rule", [], fields⟩).value = rule)
    (hlength : rule.cidr.utf8ByteSize ≤ cidrLimit) :
    (NetworkModel.ofDocument (guarded fields) .all {}).value = .ok (guardedModel rule) := by
  subst h
  have hsorted : Instance.byName (NetworkModel.unsorted (guarded fields)) = [] :=
    List.mergeSort_nil
  have hvalid := (NetworkModel.validate_eq_ok_iff _).mp (valid_guardedModel hlength)
  exact NetworkModel.ofDocument_of_sorted rfl hsorted rfl hvalid

end Sample

end CloudNet
