import CloudNet.Proofs.Building
import CloudNet.Relation

/-!
# References inside tenant networks

The references of a VPC are resolved in two passes: route tables while the VPC is read, all others
once every entity is there. `Vpc.Linked` says what the finished references are, without either pass:
interfaces are listed completely, and a reference by name leads to the first entity of the name.

* `Assembled.linked`: the VPCs of a finished model are linked.
* `Vpc.Linked.inRange`: no reference leads outside the model.
* `references_exact`: both together, and the relations answer what the references lead to.
-/

namespace CloudNet

/-- `found` is where a reference by `name` leads. One without a name leads nowhere. -/
def Resolved {α : Type} (key : α → String) (name : String) (xs : List α) (found : Option Nat) :
    Prop :=
  if name = "" then found = none else FirstNamed key name xs found

theorem Resolved.lt_length {α : Type} {key : α → String} {name : String} {xs : List α}
    {found : Option Nat} (h : Resolved key name xs found) : ∀ i ∈ found, i < xs.length := by
  unfold Resolved at h
  split at h
  · intro i hi
    rw [h] at hi
    exact absurd hi (Option.not_mem_none i)
  · exact h.lt_length

/-- What is not looked up without a name, and looked up otherwise, is resolved. -/
theorem resolved_ite {α : Type} (key : α → String) (name : String) (xs : List α) :
    Resolved key name xs (if name = "" then none else Lookup.index? key name xs) := by
  unfold Resolved
  split
  · rfl
  · exact Lookup.firstNamed_index? key name xs

/-- A reference leads to the first entity of the name, if it has a name. -/
theorem Resolved.bind_getElem? {α : Type} {key : α → String} {name : String} {xs : List α}
    {found : Option Nat} (h : Resolved key name xs found) :
    (found.bind fun i => xs[i]?) = if name = "" then none else xs.find? fun x => key x = name := by
  unfold Resolved at h
  split at h
  · next hname => rw [h, if_pos hname, Option.bind_none]
  · next hname => rw [if_neg hname, h.bind_getElem?]

/-- Passing to images only changes what the names are read from. -/
theorem Resolved.of_map {α β : Type} {key : β → String} {name : String} {f : α → β} {xs : List α}
    {found : Option Nat} (h : Resolved key name (xs.map f) found) :
    Resolved (fun x => key (f x)) name xs found := by
  unfold Resolved at h ⊢
  split at h
  · next hname => rw [if_pos hname, h]
  · next hname =>
    rw [if_neg hname]
    exact h.of_map

/-- The references of a subnet of the VPC `v`. -/
structure VpcSubnet.Linked (m : NetworkModel) (v : Vpc) (s : VpcSubnet) : Prop where
  interfaces : Indexes s.interfaces (fun i => i.vpc = v.name ∧ i.subnet = s.name) m.interfaces
  routeTable : Resolved RouteTable.name s.routeTableName v.routeTables s.routeTable
  networkAcl : FirstNamed NetworkAcl.name s.networkAclName v.networkAcls s.networkAcl

/-- The references of a VPC and of its subnets. -/
structure Vpc.Linked (m : NetworkModel) (v : Vpc) : Prop where
  interfaces : Indexes v.interfaces (fun i => i.vpc = v.name) m.interfaces
  dhcpOptionSet :
    Resolved DhcpOptionSet.name v.dhcpOptionSetName m.dhcpOptionSets v.dhcpOptionSet
  subnets : ∀ s ∈ v.subnets, s.Linked m v

/-! ## The two passes -/

/-- A subnet that is read has its route table resolved among those of its VPC. -/
theorem resolved_routeTable_ofElement (tables : List RouteTable) (e : Element) :
    Resolved RouteTable.name (VpcSubnet.ofElement tables e).value.routeTableName tables
      (VpcSubnet.ofElement tables e).value.routeTable := by
  have h := resolved_ite RouteTable.name (e.stringAt (Route.child "routeTable")) tables
  unfold VpcSubnet.ofElement
  dsimp only
  split
  · next hname =>
    rw [if_pos hname] at h
    exact h
  · next hname =>
    rw [if_neg hname] at h
    exact h

/-- The subnets of a VPC that is read refer to its own route tables. -/
theorem resolved_routeTable_of_mem_listed {part : Option Element} {v : Vpc}
    (hv : v ∈ Vpc.listed part) {s : VpcSubnet} (hs : s ∈ v.subnets) :
    Resolved RouteTable.name s.routeTableName v.routeTables s.routeTable := by
  obtain ⟨e, -, rfl⟩ := List.mem_map.mp hv
  unfold Vpc.ofElement at hs ⊢
  simp only [Noted.value_bind, Noted.value_mapList, Noted.value_pure] at hs ⊢
  obtain ⟨e', -, rfl⟩ := List.mem_map.mp hs
  exact resolved_routeTable_ofElement _ e'

namespace NetworkModel

/-- Linking lists the interfaces of a VPC completely. -/
theorem indexes_interfacesInVpc (m : NetworkModel) (vpc : String) :
    Indexes (m.interfacesInVpc vpc) (fun i => i.vpc = vpc) m.interfaces :=
  (indexes_positionsWhere _ m.interfaces).congr fun _ _ => decide_eq_true_iff

/-- Linking completes the references of a subnet that is read. -/
theorem linked_linkSubnet (m : NetworkModel) {v : Vpc} {s : VpcSubnet}
    (hs : Resolved RouteTable.name s.routeTableName v.routeTables s.routeTable) :
    (m.linkSubnet v (m.interfacesInVpc v.name) s).value.Linked m v where
  interfaces := by
    have hkept := (m.indexes_interfacesInVpc v.name).filter fun i : Instance => i.subnet = s.name
    exact hkept.congr fun _ _ => and_congr_right fun _ => decide_eq_true_iff
  routeTable := hs
  networkAcl := Lookup.firstNamed_index? _ _ _

/-- Linking completes the references of a VPC that is read. -/
theorem linked_linkVpc (m : NetworkModel) {v : Vpc}
    (hv : ∀ s ∈ v.subnets, Resolved RouteTable.name s.routeTableName v.routeTables s.routeTable) :
    (m.linkVpc v).value.Linked m where
  interfaces := m.indexes_interfacesInVpc v.name
  dhcpOptionSet := resolved_ite _ _ _
  subnets := by
    intro s hs
    have hsubnets : (m.linkVpc v).value.subnets =
        v.subnets.map fun s => (m.linkSubnet v (m.interfacesInVpc v.name) s).value :=
      Noted.value_mapList _ _
    rw [hsubnets] at hs
    obtain ⟨r, hr, rfl⟩ := List.mem_map.mp hs
    have h := m.linked_linkSubnet (hv r hr)
    exact ⟨h.interfaces, h.routeTable, h.networkAcl⟩

/-- **The VPCs of a finished model are linked.** -/
theorem Assembled.linked {s : Sections} {m : NetworkModel} (h : Assembled s m) {v : Vpc}
    (hv : v ∈ m.vpcs) : v.Linked m := by
  rw [h.vpcs] at hv
  obtain ⟨r, hr, rfl⟩ := List.mem_map.mp hv
  exact m.linked_linkVpc fun _ => resolved_routeTable_of_mem_listed hr

/-! ## Consequences -/

/-- The references of the VPC and of its subnets lead to elements of the lists that they are
about. -/
structure InRange (m : NetworkModel) (v : Vpc) : Prop where
  interfaces : ∀ j ∈ v.interfaces, j < m.interfaces.length
  dhcpOptionSet : ∀ i ∈ v.dhcpOptionSet, i < m.dhcpOptionSets.length
  subnetInterfaces : ∀ s ∈ v.subnets, ∀ j ∈ s.interfaces, j < m.interfaces.length
  routeTable : ∀ s ∈ v.subnets, ∀ i ∈ s.routeTable, i < v.routeTables.length
  networkAcl : ∀ s ∈ v.subnets, ∀ i ∈ s.networkAcl, i < v.networkAcls.length

end NetworkModel

namespace Vpc.Linked

variable {m : NetworkModel} {v : Vpc}

/-- **No reference leads outside the model.** -/
theorem inRange (h : v.Linked m) : m.InRange v where
  interfaces := fun _ hj => h.interfaces.lt_length hj
  dhcpOptionSet := h.dhcpOptionSet.lt_length
  subnetInterfaces := fun s hs _ hj => (h.subnets s hs).interfaces.lt_length hj
  routeTable := fun s hs => (h.subnets s hs).routeTable.lt_length
  networkAcl := fun s hs => (h.subnets s hs).networkAcl.lt_length

/-- The interfaces that the model finds for the VPC by name are those at the stored positions. -/
theorem answer_vpcInterfaces (h : v.Linked m) (want : Want) :
    (m.vpcInterfaces v).answer .all want =
      .whole Instance.name (atPositions m.interfaces v.interfaces) want := by
  have hfound : Indexes v.interfaces (fun i => decide (i.vpc = v.name) = true) m.interfaces :=
    h.interfaces.congr fun _ _ => decide_eq_true_iff.symm
  unfold NetworkModel.vpcInterfaces
  rw [Matches.answer_ofEntities_all, hfound.atPositions_eq]

/-- The interfaces that the model finds for a subnet by name are those at the stored positions. -/
theorem answer_vpcSubnetInterfaces (h : v.Linked m) {s : VpcSubnet} (hs : s ∈ v.subnets)
    (want : Want) : (m.vpcSubnetInterfaces v s).answer .all want =
      .whole Instance.name (atPositions m.interfaces s.interfaces) want := by
  have hfound : Indexes s.interfaces
      (fun i => (decide (i.subnet = s.name) && decide (i.vpc = v.name)) = true) m.interfaces := by
    refine (h.subnets s hs).interfaces.congr fun i _ => ?_
    rw [Bool.and_eq_true, decide_eq_true_iff, decide_eq_true_iff]
    exact and_comm
  unfold NetworkModel.vpcSubnetInterfaces
  rw [Matches.answer_ofEntities_all, List.filter_filter, hfound.atPositions_eq]

end Vpc.Linked

namespace NetworkModel

/-- **References inside tenant networks are exact**: they are what the names say, they stay inside
the model, and following them is the same as asking for the interfaces by name. -/
theorem references_exact {d : Document} {hostnames : HostnameCache} {m : NetworkModel}
    (h : (ofDocument d .all hostnames).value = .ok m) {v : Vpc} (hv : v ∈ m.vpcs) :
    v.Linked m ∧ m.InRange v ∧
      (∀ want, (m.vpcInterfaces v).answer .all want =
        .whole Instance.name (atPositions m.interfaces v.interfaces) want) ∧
      ∀ s ∈ v.subnets, ∀ want, (m.vpcSubnetInterfaces v s).answer .all want =
        .whole Instance.name (atPositions m.interfaces s.interfaces) want := by
  have hl : v.Linked m := (assembled_of_ofDocument h).linked hv
  refine ⟨hl, hl.inRange, hl.answer_vpcInterfaces, ?_⟩
  intro s hs want
  exact hl.answer_vpcSubnetInterfaces hs want

/-- In the small network the VPC has all three interfaces and its subnet two of them, whose access
list is missing. -/
theorem references_of_vpc :
    (ofDocument Sample.network .all {}).value = .ok Sample.model ∧
    Sample.vpc ∈ Sample.model.vpcs ∧ Sample.vpc.Linked Sample.model ∧
    (Sample.model.vpcInterfaces Sample.vpc).answer .all .both =
      ⟨some ["i-b", "eni-2", "i-a"], some Sample.model.interfaces⟩ := by
  have hvpc : Sample.vpc ∈ Sample.model.vpcs := by decide
  obtain ⟨hlinked, -, hanswer, -⟩ := references_exact Sample.ofDocument_network hvpc
  have hall : atPositions Sample.model.interfaces Sample.vpc.interfaces =
      Sample.model.interfaces := by decide
  rw [hall] at hanswer
  exact ⟨Sample.ofDocument_network, hvpc, hlinked, hanswer .both⟩

end NetworkModel

end CloudNet
