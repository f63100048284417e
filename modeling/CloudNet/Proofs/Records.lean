import CloudNet.Proofs.Building

/-!
# Records of a finished model

Each instance, interface and group of an assembled model is a record that was read from the
document, with references and a node added. `Assembled.mem_instances` and its neighbours give both
sides: the record that was read, and what was added to it.

* `unlinked_ofElement`: a record that was just read refers to nothing.
* `Assembled.mem_instances`, `Assembled.mem_interfaces`, `Assembled.mem_secgroups`: where the
  records of a finished model come from.
* `Assembled.interfaces_eq_nil`: only a network of tenant networks has interfaces.
-/

namespace CloudNet

namespace Instance

/-- A record as it is read: it belongs to `owner`, refers to no group and no interface, and is on no
node. -/
structure Unlinked (i : Instance) (owner : String) : Prop where
  instanceName : i.instanceName = owner
  secgroups : i.secgroups = []
  interfaces : i.interfaces = []
  node : i.node = ""

theorem unlinked_ofElement (e : Element) (owner : String) :
    Unlinked (ofElement e owner).value owner := by
  unfold ofElement
  simp only [Noted.value_bind, Noted.value_pure]
  split
  · exact ⟨rfl, rfl, rfl, rfl⟩
  · exact ⟨rfl, rfl, rfl, rfl⟩

/-- The records of a section refer to nothing, and interfaces know their instance. -/
theorem unlinked_of_mem_listed {withInterfaces : Bool} {part : Option Element}
    {p : Instance × List Instance} (hp : p ∈ listed withInterfaces part) :
    Unlinked p.1 "" ∧ ∀ x ∈ p.2, Unlinked x p.1.name := by
  obtain ⟨e, -, rfl⟩ := List.mem_map.mp hp
  unfold ofElementWithInterfaces
  simp only [Noted.value_bind, Noted.value_mapList, Noted.value_pure]
  refine ⟨unlinked_ofElement e "", fun x hx => ?_⟩
  obtain ⟨e', -, rfl⟩ := List.mem_map.mp hx
  exact unlinked_ofElement e' _

/-- Numbering gives an instance positions and nothing else. -/
theorem mem_numbered {start : Nat} {xs : List (Instance × List Instance)} {i : Instance}
    (hi : i ∈ numbered start xs) :
    ∃ p ∈ xs, ∃ first, i = { p.1 with interfaces := List.range' first p.2.length } := by
  induction xs generalizing start with
  | nil => exact absurd hi List.not_mem_nil
  | cons p xs ih =>
    rw [numbered] at hi
    rcases List.mem_cons.mp hi with rfl | hi
    · exact ⟨p, List.mem_cons_self, start, rfl⟩
    · obtain ⟨q, hq, first, rfl⟩ := ih hi
      exact ⟨q, List.mem_cons_of_mem _ hq, first, rfl⟩

/-- The positions of the groups that a record names, if it has none yet. -/
theorem withSecgroups_zero {i : Instance} (hi : i.secgroups = []) (groups : List SecurityGroup) :
    i.withSecgroups groups 0 =
      { i with secgroups := positionsWhere (fun g => i.hasSecgroup g.name) groups } := by
  unfold withSecgroups
  simp only [hi, List.nil_append, Nat.zero_add, List.map_id']

theorem mem_byName {i : Instance} {xs : List Instance} : i ∈ byName xs ↔ i ∈ xs :=
  List.mem_mergeSort

end Instance

namespace NetworkModel.Assembled

variable {s : Sections} {m : NetworkModel}

/-- **Where an instance of a finished model comes from.** -/
theorem mem_instances (h : Assembled s m) {i : Instance} (hi : i ∈ m.instances) :
    ∃ p ∈ Instance.listed m.isVpcMido s.instances, ∃ first node, i = { p.1 with
      interfaces := List.range' first p.2.length
      secgroups := positionsWhere (fun g => i.hasSecgroup g.name) m.secgroups
      node } := by
  rw [h.instances] at hi
  obtain ⟨j, hj, rfl⟩ := List.mem_map.mp hi
  obtain ⟨p, hp, first, rfl⟩ := Instance.mem_numbered (Instance.mem_byName.mp hj)
  have hnone := (Instance.unlinked_of_mem_listed hp).1.secgroups
  rw [Instance.withSecgroups_zero (by exact hnone)]
  obtain ⟨node, hnode⟩ := m.place_eq _ _
  rw [hnode]
  exact ⟨p, hp, first, node, rfl⟩

/-- **Where an interface of a finished model comes from.** -/
theorem mem_interfaces (h : Assembled s m) {i : Instance} (hi : i ∈ m.interfaces) :
    ∃ p ∈ Instance.listed m.isVpcMido s.instances, ∃ x ∈ p.2, ∃ node, i = { x with
      secgroups := positionsWhere (fun g => i.hasSecgroup g.name) m.secgroups
      node } := by
  rw [h.interfaces] at hi
  obtain ⟨x, hx, rfl⟩ := List.mem_map.mp hi
  obtain ⟨p, hp, hx⟩ := List.mem_flatMap.mp hx
  have hnone := ((Instance.unlinked_of_mem_listed hp).2 x hx).secgroups
  rw [Instance.withSecgroups_zero hnone]
  obtain ⟨node, hnode⟩ := m.place_eq _ _
  rw [hnode]
  exact ⟨p, hp, x, hx, node, rfl⟩

/-- **Where a group of a finished model comes from.** -/
theorem mem_secgroups (h : Assembled s m) {g : SecurityGroup} (hg : g ∈ m.secgroups) :
    ∃ r ∈ SecurityGroup.listed s.securityGroups, g = { r with
      instances := positionsWhere (·.hasSecgroup g.name) m.instances
      interfaces := positionsWhere (·.hasSecgroup g.name) m.interfaces } := by
  rw [h.secgroups] at hg
  obtain ⟨r, hr, rfl⟩ := List.mem_map.mp hg
  exact ⟨r, hr, rfl⟩

/-- **Only a network of tenant networks has interfaces.** -/
theorem interfaces_eq_nil (h : Assembled s m) (hm : m.isVpcMido = false) :
    m.interfaces = [] ∧ (∀ i ∈ m.instances, i.interfaces = []) ∧
      ∀ g ∈ m.secgroups, g.interfaces = [] := by
  have hx : m.interfaces = [] := by
    rw [h.interfaces, hm, Instance.flatMap_snd_listed_false, List.map_nil]
  refine ⟨hx, fun i hi => ?_, fun g hg => ?_⟩
  · obtain ⟨p, hp, first, node, he⟩ := h.mem_instances hi
    rw [hm] at hp
    obtain ⟨e, -, rfl⟩ := List.mem_map.mp hp
    rw [he]
    rfl
  · obtain ⟨r, -, he⟩ := h.mem_secgroups hg
    rw [he, hx]
    rfl

end NetworkModel.Assembled

end CloudNet
