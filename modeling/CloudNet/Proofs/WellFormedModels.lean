import CloudNet.Proofs.BitPatterns
import CloudNet.Validity.Model
import Mathlib.Tactic.MkIffOfInductiveProp

/-!
# Well-formed models

What it takes for a model to be usable, said without reference to how models are checked: which
fields have to be there, how long they may be, which numbers are in range and which positions have
to lead somewhere. The checks of an entity pass exactly if the entity is well-formed, and so for the
whole model.

* `allPass_noneWhere_beq`, `allPass_flatMap`: what lists of checks demand of lists of entities.
* `Subnet.allPass_checks_iff` and its neighbours: one such statement for each kind of entity.
* `NetworkModel.accepted_iff_wellFormed`: the models that are accepted.
-/

namespace CloudNet

/-! ## Texts and identities -/

/-- A text of at least one byte and at most `limit` bytes. -/
def Sized (limit : Nat) (s : String) : Prop := 1 ≤ s.utf8ByteSize ∧ s.utf8ByteSize ≤ limit

/-- An entity has a name of at most 32 bytes and an account of at most 128 bytes. -/
@[mk_iff]
structure Identified (name accountId : String) : Prop where
  name : Sized 32 name
  accountId : Sized 128 accountId

theorem sized_iff {limit : Nat} {s : String} :
    Sized limit s ↔ s ≠ "" ∧ s.utf8ByteSize ≤ limit := by
  unfold Sized
  rw [Nat.one_le_iff_ne_zero, Ne, String.utf8ByteSize_eq_zero_iff]

/-! ## Clusters and declared subnets -/

/-- A subnet has a mask of one bits followed by zero bits, and its gateway agrees with its address
under the mask. -/
@[mk_iff]
structure Subnet.WellFormed (s : Subnet) : Prop where
  network : s.network ≠ 0
  netmask : s.netmask ≠ 0
  gateway : s.gateway ≠ 0
  contiguous : ∃ n ≤ 32, s.netmask.toNat = 2 ^ 32 - 2 ^ (32 - n)
  inside : s.gateway &&& s.netmask = s.network &&& s.netmask

/-- A managed subnet has segments of a power of two, at least 16 addresses, and a range of VLANs
from 2 to 4095. -/
@[mk_iff]
structure ManagedSubnet.WellFormed (s : ManagedSubnet) : Prop where
  network : s.network ≠ 0
  netmask : s.netmask ≠ 0
  segmentSize : ∃ k, 4 ≤ k ∧ s.segmentSize.toInt = 2 ^ k
  minVlan : 2 ≤ s.minVlan.toInt
  vlans : s.minVlan.toInt ≤ s.maxVlan.toInt
  maxVlan : s.maxVlan.toInt ≤ 4095

/-- A node has a name and lists no instance without one. -/
@[mk_iff]
structure Node.WellFormed (n : Node) : Prop where
  name : Sized 255 n.name
  instanceNames : "" ∉ n.instanceNames

/-- A cluster has a controller and a prefix for hardware addresses, and in `EDGE` mode addresses of
its own. -/
@[mk_iff]
structure Cluster.WellFormed (c : Cluster) (mode : NetMode) : Prop where
  name : Sized 255 c.name
  controllerIp : c.controllerIp ≠ 0
  macPrefix : Sized 5 c.macPrefix
  privateSubnet : mode = .edge → c.privateSubnet.WellFormed
  privateIps : mode = .edge → c.privateIps ≠ [] ∧ 0 ∉ c.privateIps
  nodes : ∀ n ∈ c.nodes, n.WellFormed

/-! ## Instances and security groups -/

/-- An instance or interface has an address and names no group without a name. -/
@[mk_iff]
structure Instance.WellFormedMember (i : Instance) : Prop where
  identity : Identified i.name i.accountId
  privateIp : i.privateIp ≠ 0
  secgroupNames : "" ∉ i.secgroupNames

/-- An instance names a group. -/
@[mk_iff]
structure Instance.WellFormed (i : Instance) : Prop where
  member : i.WellFormedMember
  grouped : i.secgroupNames ≠ []

/-- An interface has an identifier of at most 32 bytes, or none. -/
@[mk_iff]
structure Instance.WellFormedInterface (i : Instance) : Prop where
  member : i.WellFormedMember
  ifname : i.ifname.utf8ByteSize ≤ 32

/-- There is a record with a name at the position. -/
def NamedAt (xs : List Instance) (position : Nat) : Prop :=
  ∃ i, xs[position]? = some i ∧ i.name ≠ ""

/-- A group has an expression for each legacy rule and short texts for its source blocks, and its
members are there. -/
@[mk_iff]
structure SecurityGroup.WellFormed (g : SecurityGroup) (m : NetworkModel) : Prop where
  identity : Identified g.name g.accountId
  groupRules : "" ∉ g.groupRules
  ingressRules : ∀ r ∈ g.ingressRules, r.cidr.utf8ByteSize ≤ 18
  egressRules : ∀ r ∈ g.egressRules, r.cidr.utf8ByteSize ≤ 18
  instances : ∀ k ∈ g.instances, NamedAt m.instances k
  interfaces : ∀ k ∈ g.interfaces, NamedAt m.interfaces k

/-! ## Tenant networks -/

/-- A subnet of a VPC. -/
@[mk_iff]
structure VpcSubnet.WellFormed (s : VpcSubnet) : Prop where
  identity : Identified s.name s.accountId
  cidr : s.cidr.utf8ByteSize ≤ 18

/-- A NAT gateway has an address and says where it is. -/
@[mk_iff]
structure NatGateway.WellFormed (n : NatGateway) : Prop where
  identity : Identified n.name n.accountId
  privateIp : n.privateIp ≠ 0
  vpc : n.vpc ≠ ""
  subnet : n.subnet ≠ ""

/-- A route has a destination and a target. -/
@[mk_iff]
structure RouteEntry.WellFormed (e : RouteEntry) : Prop where
  destCidr : Sized 18 e.destCidr
  target : e.target ≠ ""

/-- A route table. -/
@[mk_iff]
structure RouteTable.WellFormed (t : RouteTable) : Prop where
  identity : Identified t.name t.accountId
  entries : ∀ e ∈ t.entries, e.WellFormed

/-- An entry of an access list has a number, a block and a protocol. -/
@[mk_iff]
structure AclEntry.WellFormed (e : AclEntry) : Prop where
  number : e.number ≠ 0
  cidr : Sized 18 e.cidr
  protocol : e.protocol ≠ 0

/-- An access list. -/
@[mk_iff]
structure NetworkAcl.WellFormed (a : NetworkAcl) : Prop where
  identity : Identified a.name a.accountId
  ingress : ∀ e ∈ a.ingress, e.WellFormed
  egress : ∀ e ∈ a.egress, e.WellFormed

/-- A VPC and all that belongs to it. -/
@[mk_iff]
structure Vpc.WellFormed (v : Vpc) : Prop where
  identity : Identified v.name v.accountId
  cidr : v.cidr.utf8ByteSize ≤ 18
  subnets : ∀ s ∈ v.subnets, s.WellFormed
  natGateways : ∀ n ∈ v.natGateways, n.WellFormed
  routeTables : ∀ t ∈ v.routeTables, t.WellFormed
  networkAcls : ∀ a ∈ v.networkAcls, a.WellFormed

/-! ## Models -/

namespace NetworkModel

/-- The settings of a model in a mode. -/
@[mk_iff]
structure WellFormedSettings (m : NetworkModel) (mode : NetMode) : Prop where
  controllerIp : m.controllerIp ≠ 0
  dnsDomain : Sized 255 m.dnsDomain
  dnsServers : m.dnsServers ≠ [] ∧ 0 ∉ m.dnsServers
  publicIps : mode ≠ .vpcMido → 0 ∉ m.publicIps
  managedSubnets : mode = .managed ∨ mode = .managedNoVlan →
    ∃ s, m.managedSubnets = [s] ∧ s.WellFormed
  subnets : mode = .edge → ∀ s ∈ m.subnets, s.WellFormed
  eucanetdHost : mode = .vpcMido → m.eucanetdHost.utf8ByteSize ≤ 255
  publicNetworkCidr : mode = .vpcMido → m.publicNetworkCidr.utf8ByteSize ≤ 18

/-- The entities of a model in a mode. VPCs count in a network of tenant networks only. -/
@[mk_iff]
structure WellFormedEntities (m : NetworkModel) (mode : NetMode) : Prop where
  clusters : ∀ c ∈ m.clusters, c.WellFormed mode
  instances : ∀ i ∈ m.instances, i.WellFormed
  interfaces : ∀ i ∈ m.interfaces, i.WellFormedInterface
  secgroups : ∀ g ∈ m.secgroups, g.WellFormed m
  vpcs : mode = .vpcMido → ∀ v ∈ m.vpcs, v.WellFormed

/-- The model is set up, is in a known mode, and has the settings and entities that the mode asks
for. -/
structure WellFormed (m : NetworkModel) : Prop where
  initialized : m.initialized = true
  usable : ∃ mode : NetMode, m.mode = mode.name ∧ m.WellFormedSettings mode ∧
    m.WellFormedEntities mode

end NetworkModel

/-! ## Lists of checks -/

namespace Check

@[simp] theorem allPass_nil : allPass [] = true := rfl

@[simp] theorem allPass_cons (c : Check) (cs : List Check) :
    allPass (c :: cs) = (c.passes && allPass cs) := rfl

@[simp] theorem allPass_noneWhere_beq {α : Type} [BEq α] [LawfulBEq α] (a : α) (xs : List α)
    (v : Nat → Violation) : allPass (noneWhere (· == a) xs v) = true ↔ a ∉ xs := by
  rw [allPass_noneWhere]
  simp only [List.all_eq_true, Bool.not_eq_true', beq_eq_false_iff_ne]
  exact ⟨fun h ha => h a ha rfl, fun h x hx hxa => h (hxa ▸ hx)⟩

@[simp] theorem allPass_flatMap {α : Type} (f : α → List Check) (xs : List α) :
    allPass (xs.flatMap f) = true ↔ ∀ x ∈ xs, allPass (f x) = true := by
  simp [allPass, List.all_flatMap]

@[simp] theorem allPass_map_noting (notice : Notice) (cs : List Check) :
    allPass (cs.map (noting notice)) = allPass cs := by
  simp [allPass, List.all_map, Function.comp_def]

theorem allPass_zipIdx_flatMap {α : Type} {f : α × Nat → List Check} {p : α → Prop}
    (h : ∀ x, allPass (f x) = true ↔ p x.1) (xs : List α) :
    allPass (xs.zipIdx.flatMap f) = true ↔ ∀ x ∈ xs, p x := by
  rw [allPass_flatMap]
  constructor
  · intro hall x hx
    obtain ⟨i, hi⟩ := List.getElem?_of_mem hx
    exact (h (x, i)).1 (hall (x, i) (List.mk_mem_zipIdx_iff_getElem?.2 hi))
  · intro hall x hx
    exact (h x).2 (hall x.1 (List.mem_of_getElem? (List.mk_mem_zipIdx_iff_getElem?.1 hx)))

end Check

open Check

@[simp] theorem allPass_identityChecks_iff (kind : EntityKind) (name accountId : String) :
    allPass (identityChecks kind name accountId) = true ↔ Identified name accountId := by
  simp [identityChecks, identified_iff, sized_iff, nameLimit, accountLimit, and_assoc]

/-! ## Checks of entities -/

theorem Subnet.allPass_checks_iff (s : Subnet) : allPass s.checks = true ↔ s.WellFormed := by
  have hpasses : allPass s.checks = true ↔ (s.network ≠ 0 ∧ s.netmask ≠ 0 ∧ s.gateway ≠ 0) ∧
      ∃ n, Ipv4.maskLength? s.netmask = some n ∧
        s.gateway &&& s.netmask = s.network &&& s.netmask := by
    unfold checks
    cases hfound : Ipv4.maskLength? s.netmask with
    | none => simp
    | some n =>
      obtain ⟨hn, hmask⟩ := Ipv4.maskLength?_eq_some_iff.1 hfound
      have hcontains := Cidr.contains_iff ⟨s.network, n, hn⟩ s.gateway
      rw [Cidr.mask, hmask] at hcontains
      simp [Cidr.ofParts?, hn, hcontains, and_assoc]
  rw [hpasses, exists_and_right, Ipv4.exists_maskLength?_iff, wellFormed_iff, and_assoc, and_assoc]

theorem ManagedSubnet.allPass_checks_iff (s : ManagedSubnet) :
    allPass s.checks = true ↔ s.WellFormed := by
  have hsegment : segmentMin ≤ s.segmentSize ∧ s.segmentSize &&& (s.segmentSize - 1) = 0 ↔
      ∃ k, 4 ≤ k ∧ s.segmentSize.toInt = 2 ^ k := by
    rw [← two_pow_le_and_eq_zero_iff, Int32.le_iff_toInt_le]
    rfl
  have hvlan : ∀ n : Int32, vlanMin ≤ n ∧ n ≤ vlanMax ↔ 2 ≤ n.toInt ∧ n.toInt ≤ 4095 := by
    intro n
    rw [Int32.le_iff_toInt_le, Int32.le_iff_toInt_le]
    rfl
  have hpasses : allPass s.checks = true ↔ (s.network ≠ 0 ∧ s.netmask ≠ 0) ∧
      (segmentMin ≤ s.segmentSize ∧ s.segmentSize &&& (s.segmentSize - 1) = 0) ∧
      (vlanMin ≤ s.minVlan ∧ s.minVlan ≤ vlanMax) ∧ (vlanMin ≤ s.maxVlan ∧ s.maxVlan ≤ vlanMax) ∧
      s.minVlan ≤ s.maxVlan := by
    simp [checks]
  rw [hpasses, hsegment, hvlan, hvlan, Int32.le_iff_toInt_le, wellFormed_iff]
  constructor
  · rintro ⟨⟨hnetwork, hnetmask⟩, hsize, ⟨hlo, -⟩, ⟨-, hhi⟩, hle⟩
    exact ⟨hnetwork, hnetmask, hsize, hlo, hle, hhi⟩
  · rintro ⟨hnetwork, hnetmask, hsize, hlo, hle, hhi⟩
    exact ⟨⟨hnetwork, hnetmask⟩, hsize, ⟨hlo, by omega⟩, ⟨by omega, hhi⟩, hle⟩

theorem Node.allPass_checks_iff (n : Node) : allPass n.checks = true ↔ n.WellFormed := by
  simp [checks, wellFormed_iff, sized_iff, hostnameLimit, and_assoc]

theorem Cluster.allPass_checks_iff (c : Cluster) (mode : NetMode) :
    allPass (c.checks mode) = true ↔ c.WellFormed mode := by
  unfold checks
  by_cases hmode : mode = .edge
  · simp [hmode, edgeChecks, wellFormed_iff, sized_iff, hostnameLimit, macPrefixLimit,
      Subnet.allPass_checks_iff, Node.allPass_checks_iff, and_assoc]
  · simp [hmode, wellFormed_iff, sized_iff, hostnameLimit, macPrefixLimit,
      Node.allPass_checks_iff, and_assoc]

theorem Instance.allPass_memberChecks_iff (i : Instance) (kind : EntityKind) :
    allPass (i.memberChecks kind) = true ↔ i.WellFormedMember := by
  simp [memberChecks, wellFormedMember_iff]

theorem Instance.allPass_instanceChecks_iff (i : Instance) :
    allPass i.instanceChecks = true ↔ i.WellFormed := by
  simp [instanceChecks, wellFormed_iff, allPass_memberChecks_iff]

theorem Instance.allPass_interfaceChecks_iff (i : Instance) :
    allPass i.interfaceChecks = true ↔ i.WellFormedInterface := by
  simp [interfaceChecks, wellFormedInterface_iff, allPass_memberChecks_iff, nameLimit]

/-- No member is missing or without a name exactly if there is a record with a name at each
position. -/
theorem SecurityGroup.allPass_members_iff (g : SecurityGroup) (m : NetworkModel)
    (v : Nat → Violation) :
    allPass (noneWhere (fun member => member.all (·.name == "")) (m.membersOf g) v) = true ↔
      (∀ k ∈ g.instances, NamedAt m.instances k) ∧ ∀ k ∈ g.interfaces, NamedAt m.interfaces k := by
  have hnamed : ∀ (xs : List Instance) (k : Nat),
      (!(xs[k]?).all (·.name == "")) = true ↔ NamedAt xs k := by
    intro xs k
    unfold NamedAt
    cases xs[k]? with
    | none => simp
    | some i => simp
  rw [allPass_noneWhere, NetworkModel.membersOf]
  simp only [List.all_append, List.all_map, Bool.and_eq_true, List.all_eq_true,
    Function.comp_apply, hnamed]

theorem SecurityGroup.allPass_checks_iff (g : SecurityGroup) (m : NetworkModel) :
    allPass (g.checks m) = true ↔ g.WellFormed m := by
  have hrules : ∀ rules : List Rule,
      allPass (rules.map fun r => lengthAtMost "secgroup rule cidr" r.cidr cidrLimit) = true ↔
        ∀ r ∈ rules, r.cidr.utf8ByteSize ≤ 18 := by
    intro rules
    simp [allPass, cidrLimit]
  unfold checks
  rw [wellFormed_iff, allPass_append, allPass_append, allPass_append, Bool.and_eq_true,
    Bool.and_eq_true, Bool.and_eq_true, allPass_identityChecks_iff, allPass_noneWhere_beq, hrules,
    allPass_members_iff, List.forall_mem_append, and_assoc, and_assoc, and_assoc]

theorem VpcSubnet.allPass_checks_iff (s : VpcSubnet) : allPass s.checks = true ↔ s.WellFormed := by
  simp [checks, wellFormed_iff, cidrLimit]

theorem NatGateway.allPass_checks_iff (n : NatGateway) :
    allPass n.checks = true ↔ n.WellFormed := by
  simp [checks, wellFormed_iff]

theorem RouteEntry.allPass_checks_iff (e : RouteEntry) (table : String) (position : Nat) :
    allPass (e.checks table position) = true ↔ e.WellFormed := by
  simp [checks, wellFormed_iff, sized_iff, cidrLimit, and_right_comm]

theorem RouteTable.allPass_checks_iff (t : RouteTable) :
    allPass t.checks = true ↔ t.WellFormed := by
  have hentries := allPass_zipIdx_flatMap (f := fun x => x.1.checks t.name x.2)
    (fun x => x.1.allPass_checks_iff t.name x.2) t.entries
  unfold checks
  rw [allPass_append, Bool.and_eq_true, allPass_identityChecks_iff, hentries, wellFormed_iff]

theorem AclEntry.allPass_checks_iff (e : AclEntry) (acl : String) (direction : Direction) :
    allPass (e.checks acl direction) = true ↔ e.WellFormed := by
  simp [checks, wellFormed_iff, sized_iff, cidrLimit, and_assoc]

theorem NetworkAcl.allPass_checks_iff (a : NetworkAcl) :
    allPass a.checks = true ↔ a.WellFormed := by
  simp [checks, wellFormed_iff, AclEntry.allPass_checks_iff]

theorem Vpc.allPass_checks_iff (v : Vpc) : allPass v.checks = true ↔ v.WellFormed := by
  simp [checks, wellFormed_iff, VpcSubnet.allPass_checks_iff, NatGateway.allPass_checks_iff,
    RouteTable.allPass_checks_iff, NetworkAcl.allPass_checks_iff, cidrLimit]

/-! ## Checks of models -/

theorem NetMode.validate_eq_ok_iff {name : String} {mode : NetMode} :
    validate name = .ok mode ↔ name = mode.name := by
  unfold validate
  constructor
  · intro h
    split at h
    · next found hfound =>
      obtain rfl := Except.ok.inj h
      exact (name_of_ofName? hfound).symm
    · exact absurd h (by simp)
  · rintro rfl
    rw [ofName?_name]

namespace NetworkModel

theorem allPass_managedChecks_iff (m : NetworkModel) :
    allPass m.managedChecks = true ↔ ∃ s, m.managedSubnets = [s] ∧ s.WellFormed := by
  unfold managedChecks
  match m.managedSubnets with
  | [] => simp
  | [s] => simp [ManagedSubnet.allPass_checks_iff]
  | _ :: _ :: _ => simp

theorem allPass_edgeChecks_iff (m : NetworkModel) :
    allPass m.edgeChecks = true ↔ ∀ s ∈ m.subnets, s.WellFormed := by
  have hsubnet : ∀ x : Subnet × Nat,
      allPass (x.1.checks.map (noting (.invalidSubnet x.2))) = true ↔ x.1.WellFormed := by
    intro x
    rw [allPass_map_noting, Subnet.allPass_checks_iff]
  exact allPass_zipIdx_flatMap (p := Subnet.WellFormed) hsubnet m.subnets

theorem allPass_settings_iff (m : NetworkModel) (mode : NetMode) :
    allPass (m.settingChecks ++ m.modeChecks mode) = true ↔ m.WellFormedSettings mode := by
  have hsettings : allPass m.settingChecks = true ↔ m.controllerIp ≠ 0 ∧ Sized 255 m.dnsDomain ∧
      m.dnsServers ≠ [] ∧ 0 ∉ m.dnsServers := by
    simp [settingChecks, sized_iff, hostnameLimit, and_assoc]
  rw [allPass_append, Bool.and_eq_true, hsettings, wellFormedSettings_iff]
  cases mode with
  | edge => simp [modeChecks, allPass_edgeChecks_iff, and_assoc]
  | managed => simp [modeChecks, allPass_managedChecks_iff, and_assoc]
  | managedNoVlan => simp [modeChecks, allPass_managedChecks_iff, and_assoc]
  | vpcMido => simp [modeChecks, midoChecks, hostnameLimit, cidrLimit, and_assoc]

theorem allPass_entityChecks_iff (m : NetworkModel) (mode : NetMode) :
    allPass (m.entityChecks mode) = true ↔ m.WellFormedEntities mode := by
  unfold entityChecks
  by_cases hmode : mode = .vpcMido
  · simp [hmode, wellFormedEntities_iff, Cluster.allPass_checks_iff,
      Instance.allPass_instanceChecks_iff, Instance.allPass_interfaceChecks_iff,
      SecurityGroup.allPass_checks_iff, Vpc.allPass_checks_iff]
  · simp [hmode, wellFormedEntities_iff, Cluster.allPass_checks_iff,
      Instance.allPass_instanceChecks_iff, Instance.allPass_interfaceChecks_iff,
      SecurityGroup.allPass_checks_iff]

/-- **The models that are accepted** are the well-formed ones. -/
theorem accepted_iff_wellFormed (m : NetworkModel) :
    m.validate.value = .ok () ↔ m.WellFormed := by
  have hpasses : m.validate.value = .ok () ↔ allPass m.checks = true := by
    rw [allPass, List.all_eq_true]
    exact m.validate_eq_ok_iff
  rw [hpasses]
  unfold checks
  rw [allPass_cons, Bool.and_eq_true, passes_require]
  constructor
  · rintro ⟨hinit, hmode⟩
    split at hmode
    · exact absurd hmode (by simp)
    · next mode hvalid =>
      rw [allPass_append, Bool.and_eq_true] at hmode
      exact ⟨hinit, mode, NetMode.validate_eq_ok_iff.1 hvalid,
        (m.allPass_settings_iff mode).1 hmode.1, (m.allPass_entityChecks_iff mode).1 hmode.2⟩
  · rintro ⟨hinit, mode, hname, hsettings, hentities⟩
    refine ⟨hinit, ?_⟩
    rw [NetMode.validate_eq_ok_iff.2 hname]
    dsimp only
    rw [allPass_append, Bool.and_eq_true]
    exact ⟨(m.allPass_settings_iff mode).2 hsettings, (m.allPass_entityChecks_iff mode).2 hentities⟩

end NetworkModel

end CloudNet
