import CloudNet.Proofs.Records
import CloudNet.Relation

/-!
# Members of security groups

In a model that was built from a whole document, groups and records know each other: a record is
listed by exactly those groups that it names, and it lists exactly these groups. Names may repeat;
positions do not.

* `Assembled.indexes_members`, `Assembled.indexes_secgroups`: each list of positions is complete for
  "names the group".
* `membership_two_way`: the two directions agree, for instances and for interfaces, and asking a
  group for its instances answers all that name it.
-/

namespace CloudNet.NetworkModel

/-- The groups and the records know each other: the group at `g` lists position `i` exactly if the
record there lists position `g`, and that is the case exactly if it names the group. -/
def Mutual (groups : List SecurityGroup) (members : SecurityGroup → List Nat)
    (records : List Instance) : Prop :=
  ∀ g group i record, groups[g]? = some group → records[i]? = some record →
    (i ∈ members group ↔ g ∈ record.secgroups) ∧
      (g ∈ record.secgroups ↔ group.name ∈ record.secgroupNames)

/-- Positions in a list of `length` elements, each once and in ascending order. -/
structure AscendingBelow (length : Nat) (positions : List Nat) : Prop where
  ascending : positions.Pairwise (· < ·)
  inRange : ∀ i ∈ positions, i < length

theorem ascendingBelow_of_indexes {α : Type} {positions : List Nat} {p : α → Prop} {xs : List α}
    (h : Indexes positions p xs) : AscendingBelow xs.length positions :=
  ⟨h.ascending, fun _ hi => h.lt_length hi⟩

/-- What is answered about the entities at a complete list of positions: all with the condition. -/
theorem answer_of_indexes {α : Type} {name : α → String} {positions : List Nat} {p : α → Bool}
    {xs : List α} (h : Indexes positions (fun x => p x = true) xs) (want : Want) :
    (Matches.ofEntities name (atPositions xs positions)).answer .all want =
      .whole name (xs.filter p) want := by
  rw [h.atPositions_eq, Matches.answer_ofEntities_all]

/-- Two complete lists of positions for the same condition agree in both directions. -/
theorem mutual_of_indexes {groups : List SecurityGroup} {members : SecurityGroup → List Nat}
    {records : List Instance}
    (hg : ∀ g ∈ groups, Indexes (members g) (fun i => i.hasSecgroup g.name = true) records)
    (hr : ∀ i ∈ records, Indexes i.secgroups (fun g => i.hasSecgroup g.name = true) groups) :
    Mutual groups members records := by
  intro g group i record hgroup hrecord
  have hmember := (hg group (List.mem_of_getElem? hgroup)).mem_iff_of_getElem? hrecord
  have hlisted := (hr record (List.mem_of_getElem? hrecord)).mem_iff_of_getElem? hgroup
  refine ⟨hmember.trans hlisted.symm, hlisted.trans ?_⟩
  unfold Instance.hasSecgroup
  exact List.contains_iff_mem

namespace Assembled

variable {s : Sections} {m : NetworkModel}

/-- The positions that a group has are those of the instances and interfaces that name it. -/
theorem indexes_members (h : Assembled s m) {g : SecurityGroup} (hg : g ∈ m.secgroups) :
    Indexes g.instances (fun i => i.hasSecgroup g.name = true) m.instances ∧
    Indexes g.interfaces (fun i => i.hasSecgroup g.name = true) m.interfaces := by
  obtain ⟨r, -, he⟩ := h.mem_secgroups hg
  have hinstances : g.instances = positionsWhere (·.hasSecgroup g.name) m.instances :=
    congrArg SecurityGroup.instances he
  have hinterfaces : g.interfaces = positionsWhere (·.hasSecgroup g.name) m.interfaces :=
    congrArg SecurityGroup.interfaces he
  rw [hinstances, hinterfaces]
  exact ⟨indexes_positionsWhere _ _, indexes_positionsWhere _ _⟩

/-- The positions that a record has for groups are those of the groups that it names. -/
theorem indexes_secgroups (h : Assembled s m) {i : Instance}
    (hi : i ∈ m.instances ∨ i ∈ m.interfaces) :
    Indexes i.secgroups (fun g => i.hasSecgroup g.name = true) m.secgroups := by
  have hpos : i.secgroups = positionsWhere (fun g => i.hasSecgroup g.name) m.secgroups := by
    rcases hi with hi | hi
    · obtain ⟨_, -, _, _, he⟩ := h.mem_instances hi
      exact congrArg Instance.secgroups he
    · obtain ⟨_, -, _, -, _, he⟩ := h.mem_interfaces hi
      exact congrArg Instance.secgroups he
  rw [hpos]
  exact indexes_positionsWhere _ _

end Assembled

/-- **Membership is one relation, held on both sides.** -/
theorem membership_two_way {d : Document} {hostnames : HostnameCache} {m : NetworkModel}
    (h : (ofDocument d .all hostnames).value = .ok m) :
    Mutual m.secgroups SecurityGroup.instances m.instances ∧
    Mutual m.secgroups SecurityGroup.interfaces m.interfaces ∧
    (m.isVpcMido = false → m.interfaces = [] ∧ (∀ i ∈ m.instances, i.interfaces = []) ∧
      ∀ g ∈ m.secgroups, g.interfaces = []) ∧
    (∀ g ∈ m.secgroups, AscendingBelow m.instances.length g.instances ∧
      AscendingBelow m.interfaces.length g.interfaces) ∧
    (∀ i, i ∈ m.instances ∨ i ∈ m.interfaces → AscendingBelow m.secgroups.length i.secgroups) ∧
    ∀ g ∈ m.secgroups, ∀ want,
      (m.secgroupInstances g).answer .all want =
        .whole Instance.name (m.instances.filter (·.hasSecgroup g.name)) want ∧
      (m.secgroupInterfaces g).answer .all want =
        .whole Instance.name (m.interfaces.filter (·.hasSecgroup g.name)) want := by
  have ha := assembled_of_ofDocument h
  refine ⟨?_, ?_, ha.interfaces_eq_nil, ?_, ?_, ?_⟩
  · exact mutual_of_indexes (fun _ hg => (ha.indexes_members hg).1) fun _ hi =>
      ha.indexes_secgroups (.inl hi)
  · exact mutual_of_indexes (fun _ hg => (ha.indexes_members hg).2) fun _ hi =>
      ha.indexes_secgroups (.inr hi)
  · intro g hg
    obtain ⟨hinstances, hinterfaces⟩ := ha.indexes_members hg
    exact ⟨ascendingBelow_of_indexes hinstances, ascendingBelow_of_indexes hinterfaces⟩
  · intro i hi
    exact ascendingBelow_of_indexes (ha.indexes_secgroups hi)
  · intro g hg want
    obtain ⟨hinstances, hinterfaces⟩ := ha.indexes_members hg
    exact ⟨answer_of_indexes hinstances want, answer_of_indexes hinterfaces want⟩

/-- In the small network both instances are members of the group `web`, and so is one interface. -/
theorem membership_of_web :
    (ofDocument Sample.network .all {}).value = .ok Sample.model ∧
    Mutual Sample.model.secgroups SecurityGroup.instances Sample.model.instances ∧
    Mutual Sample.model.secgroups SecurityGroup.interfaces Sample.model.interfaces ∧
    (Sample.model.secgroupInstances Sample.web).answer .all .both =
      ⟨some ["i-a", "i-b"], some Sample.model.instances⟩ := by
  obtain ⟨hinstances, hinterfaces, -, -, -, hanswer⟩ :=
    membership_two_way Sample.ofDocument_network
  refine ⟨Sample.ofDocument_network, hinstances, hinterfaces, ?_⟩
  have hweb := (hanswer Sample.web (by decide) .both).1
  have hall : Sample.model.instances.filter (·.hasSecgroup Sample.web.name) =
      Sample.model.instances := by decide +kernel
  rw [hall] at hweb
  exact hweb

end CloudNet.NetworkModel
