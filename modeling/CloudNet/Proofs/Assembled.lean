import CloudNet.Proofs.PassedOver
import CloudNet.Proofs.Positions
import Mathlib.Data.List.Sort

/-!
# What a whole model is made of

A model is assembled in passes: instances, security groups, VPCs, gateways, option sets, settings
with the placement of instances, and links. Later passes change records that earlier ones made.
`NetworkModel.Assembled` says what has become of each list in the end, in terms of the document and
of the finished model alone, so that a property of the model needs no look at the passes again.

* `value_withInstances` and its neighbours: each pass in one equation. None of them fails on the
  model that the passes before it leave.
* `configured_orKeep`: the settings leave the lists of entities as they are, up to placement.
* `assembled_assemble`: every document gives an assembled model, whatever it holds.
-/

namespace CloudNet

/-! ## What the document lists -/

/-- The elements of a name in a section; none if the section is not there. -/
def Element.entries (part : Option Element) (name : String) : List Element :=
  (part.map (·.follow (Route.child name))).getD []

/-- The instances of a section with their interfaces, if there are to be any. -/
def Instance.listed (withInterfaces : Bool) (part : Option Element) :
    List (Instance × List Instance) :=
  (Element.entries part "instance").map fun e => (ofElementWithInterfaces withInterfaces e).value

theorem Instance.flatMap_snd_listed_false (part : Option Element) :
    (listed false part).flatMap Prod.snd = [] := by
  unfold listed
  rw [List.flatMap_map, List.flatMap_eq_nil_iff]
  intro e _
  rfl

/-- The security groups of a section, without members. -/
def SecurityGroup.listed (part : Option Element) : List SecurityGroup :=
  (Element.entries part "securityGroup").map fun e => (ofElement e).value

/-- The VPCs of a section, without links. -/
def Vpc.listed (part : Option Element) : List Vpc :=
  (Element.entries part "vpc").map fun e => (ofElement e).value

/-- The internet gateways of a section. -/
def InternetGateway.listed (part : Option Element) : List InternetGateway :=
  (Element.entries part "internetGateway").map ofElement

/-- The sets of DHCP options of a section. -/
def DhcpOptionSet.listed (part : Option Element) : List DhcpOptionSet :=
  (Element.entries part "dhcpOptionSet").map ofElement

/-- Instances in order of name; those of one name stay in order. -/
def Instance.byName (xs : List Instance) : List Instance :=
  xs.mergeSort fun a b => a.name ≤ b.name

/-! ## Records that later passes change -/

/-- The record placed by the nodes that list a name, if the network places instances at all. -/
def NetworkModel.place (m : NetworkModel) (i : Instance) (listedName : String) : Instance :=
  if m.isVpcMido then i.placed m.clusters listedName else i

theorem Instance.placed_nil (i : Instance) (listedName : String) : i.placed [] listedName = i := rfl

theorem Instance.withSecgroups_nil (i : Instance) (start : Nat) : i.withSecgroups [] start = i := by
  unfold withSecgroups
  rw [positionsWhere_nil, List.map_nil, List.append_nil]

/-- Which groups a record names is a matter of the groups' names. -/
theorem Instance.withSecgroups_map {f : SecurityGroup → SecurityGroup}
    (hf : ∀ g, (f g).name = g.name) (i : Instance) (gs : List SecurityGroup) (start : Nat) :
    i.withSecgroups (gs.map f) start = i.withSecgroups gs start := by
  unfold withSecgroups
  rw [positionsWhere_map]
  simp only [hf]

/-- Which records are members of a group is a matter of the names they give. -/
theorem SecurityGroup.withMembers_map {f g : Instance → Instance}
    (hf : ∀ i, (f i).secgroupNames = i.secgroupNames)
    (hg : ∀ i, (g i).secgroupNames = i.secgroupNames) (s : SecurityGroup) (is xs : List Instance) :
    s.withMembers (is.map f) (xs.map g) = s.withMembers is xs := by
  unfold withMembers
  rw [positionsWhere_map, positionsWhere_map]
  simp only [Instance.hasSecgroup, hf, hg]

namespace NetworkModel

variable (m : NetworkModel)

theorem place_of_not_isVpcMido {m : NetworkModel} (h : m.isVpcMido = false) (i : Instance)
    (listedName : String) : m.place i listedName = i := by
  unfold place
  rw [h]
  rfl

theorem place_of_no_clusters {m : NetworkModel} (h : m.clusters = []) (i : Instance)
    (listedName : String) : m.place i listedName = i := by
  unfold place
  rw [h, Instance.placed_nil, ite_self]

/-- Placing a record sets its node and nothing else. -/
theorem place_eq (i : Instance) (listedName : String) :
    ∃ node, m.place i listedName = { i with node } := by
  unfold place Instance.placed
  split
  · split
    · exact ⟨_, rfl⟩
    · exact ⟨i.node, rfl⟩
  · exact ⟨i.node, rfl⟩

/-- What does not depend on the node of a record stays the same when the record is placed. -/
theorem apply_place {α : Type} {f : Instance → α}
    (hf : ∀ (i : Instance) node, f { i with node } = f i) (i : Instance) (listedName : String) :
    f (m.place i listedName) = f i := by
  obtain ⟨node, h⟩ := m.place_eq i listedName
  rw [h, hf]

/-- **Sorting the instances of a model is sorting them by name.** -/
theorem map_fst_ranked : m.ranked.map Prod.fst = Instance.byName m.instances := by
  have h := List.map_mergeSort (f := Prod.fst) (l := m.instances.zipIdx)
    (r := fun a b : Instance × Nat => a.1.name ≤ b.1.name)
    (s := fun a b : Instance => a.name ≤ b.name) fun _ _ _ _ => rfl
  rw [List.zipIdx_map_fst] at h
  exact h

/-- Without groups there is nothing to renumber, and sorting succeeds. -/
theorem sortInstances?_of_no_secgroups {m : NetworkModel} (hg : m.secgroups = []) :
    m.sortInstances? =
      some { m with instances := Instance.byName m.instances, sortedInstances := true } := by
  have hm : m.membersExist = true := by
    unfold membersExist
    rw [hg]
    rfl
  unfold sortInstances?
  rw [if_pos hm]
  simp only [map_fst_ranked, hg, List.map_nil]

/-! ## The passes -/

@[simp] theorem value_orKeep_ok (next : NetworkModel) (part : Section) :
    (m.orKeep part (.ok next)).value = next := rfl

theorem fillable_eq_ok {m : NetworkModel} (hm : m.initialized = true) {isEmpty : Bool}
    (he : isEmpty = true) (part : Section) : m.fillable part isEmpty = .ok () := by
  unfold fillable
  rw [hm, he]
  rfl

variable {m} (part : Option Element)

/-- The pass over the instances. -/
theorem value_withInstances (hm : m.initialized = true) (hi : m.instances = [])
    (hx : m.interfaces = []) (hg : m.secgroups = []) :
    (m.withInstances part).value = .ok { m with
      instances := Instance.byName (Instance.numbered 0 (Instance.listed m.isVpcMido part))
      interfaces := (Instance.listed m.isVpcMido part).flatMap Prod.snd
      sortedInstances := true } := by
  unfold withInstances
  rw [fillable_eq_ok hm (by rw [hi]; rfl)]
  cases part with
  | none =>
    have hs : Instance.byName [] = [] := List.mergeSort_nil
    simp [Instance.listed, Element.entries, Instance.numbered, hs, hi, hx]
  | some e =>
    simp only [Noted.value_bind, Noted.value_mapList, hi, hx, List.nil_append, List.length_nil]
    rw [sortInstances?_of_no_secgroups (by exact hg)]
    rfl

/-- The pass over the security groups. Only a network of tenant networks has interfaces. -/
theorem value_withSecgroups (hm : m.initialized = true) (hg : m.secgroups = [])
    (hx : m.isVpcMido = false → m.interfaces = []) :
    (m.withSecgroups part).value = .ok { m with
      instances := m.instances.map (·.withSecgroups (SecurityGroup.listed part) 0)
      interfaces := m.interfaces.map (·.withSecgroups (SecurityGroup.listed part) 0)
      secgroups := (SecurityGroup.listed part).map
        (·.withMembers m.instances m.interfaces) } := by
  unfold withSecgroups
  rw [fillable_eq_ok hm (by rw [hg]; rfl)]
  cases part with
  | none =>
    have hl : SecurityGroup.listed none = m.secgroups := hg.symm
    have hn : ∀ xs : List Instance, xs.map (·.withSecgroups m.secgroups 0) = xs := fun xs => by
      rw [hg]
      simp only [Instance.withSecgroups_nil, List.map_id']
    have hs : m.secgroups.map (·.withMembers m.instances m.interfaces) = m.secgroups := by
      rw [hg, List.map_nil]
    rw [hl, hn, hn, hs]
    rfl
  | some e =>
    simp only [Noted.value_bind, Noted.value_mapList, Noted.value_pure, hg, List.nil_append,
      List.length_nil]
    cases hmido : m.isVpcMido with
    | true => rfl
    | false =>
      rw [hx hmido]
      rfl

/-- The pass over the VPCs. -/
theorem value_withVpcs (hm : m.initialized = true) (hv : m.vpcs = []) :
    (m.withVpcs part).value = .ok { m with vpcs := Vpc.listed part } := by
  unfold withVpcs
  rw [fillable_eq_ok hm (by rw [hv]; rfl)]
  cases part with
  | none => simp [Vpc.listed, Element.entries, ← hv]
  | some e => simp [Vpc.listed, Element.entries]

/-- The pass over the internet gateways. -/
theorem withInternetGateways_eq_ok (hm : m.initialized = true) (hg : m.internetGateways = []) :
    m.withInternetGateways part =
      .ok { m with internetGateways := InternetGateway.listed part } := by
  unfold withInternetGateways
  rw [fillable_eq_ok hm (by rw [hg]; rfl)]
  cases part with
  | none => simp [InternetGateway.listed, Element.entries, ← hg]
  | some e => rfl

/-- The pass over the sets of DHCP options. -/
theorem withDhcpOptionSets_eq_ok (hm : m.initialized = true) (hd : m.dhcpOptionSets = []) :
    m.withDhcpOptionSets part = .ok { m with dhcpOptionSets := DhcpOptionSet.listed part } := by
  unfold withDhcpOptionSets
  rw [fillable_eq_ok hm (by rw [hd]; rfl)]
  cases part with
  | none => simp [DhcpOptionSet.listed, Element.entries, ← hd]
  | some e => rfl

/-! ## Settings and links -/

/-- What filling in the settings of the network does to the lists of entities: `after` has those of
`before`, with the instances and interfaces on their nodes. -/
structure Configured (before after : NetworkModel) : Prop where
  mode : after.mode = before.mode
  sortedInstances : after.sortedInstances = before.sortedInstances
  instances : after.instances = before.instances.map fun i => after.place i i.name
  interfaces : after.interfaces = before.interfaces.map fun i => after.place i i.instanceName
  secgroups : after.secgroups = before.secgroups
  vpcs : after.vpcs = before.vpcs
  internetGateways : after.internetGateways = before.internetGateways
  dhcpOptionSets : after.dhcpOptionSets = before.dhcpOptionSets

/-- The models agree in their mode and in their lists of entities. -/
structure SameEntities (before after : NetworkModel) : Prop where
  mode : after.mode = before.mode
  sortedInstances : after.sortedInstances = before.sortedInstances
  instances : after.instances = before.instances
  interfaces : after.interfaces = before.interfaces
  secgroups : after.secgroups = before.secgroups
  vpcs : after.vpcs = before.vpcs
  internetGateways : after.internetGateways = before.internetGateways
  dhcpOptionSets : after.dhcpOptionSets = before.dhcpOptionSets

theorem sameEntities_self (m : NetworkModel) : SameEntities m m :=
  ⟨rfl, rfl, rfl, rfl, rfl, rfl, rfl, rfl⟩

theorem sameEntities_withMido (m : NetworkModel) (e : Element) :
    SameEntities m (m.withMido e).value := by
  unfold withMido
  split
  · exact ⟨rfl, rfl, rfl, rfl, rfl, rfl, rfl, rfl⟩
  · exact sameEntities_self m

theorem sameEntities_withSettings (m : NetworkModel) (e : Element) :
    SameEntities m (m.withSettings e).value :=
  ⟨rfl, rfl, rfl, rfl, rfl, rfl, rfl, rfl⟩

theorem SameEntities.trans {a b c : NetworkModel} (h : SameEntities a b) (h' : SameEntities b c) :
    SameEntities a c where
  mode := h'.mode.trans h.mode
  sortedInstances := h'.sortedInstances.trans h.sortedInstances
  instances := h'.instances.trans h.instances
  interfaces := h'.interfaces.trans h.interfaces
  secgroups := h'.secgroups.trans h.secgroups
  vpcs := h'.vpcs.trans h.vpcs
  internetGateways := h'.internetGateways.trans h.internetGateways
  dhcpOptionSets := h'.dhcpOptionSets.trans h.dhcpOptionSets

/-- Only a network of tenant networks has its instances and interfaces placed. -/
theorem SameEntities.configured {before filled : NetworkModel} (h : SameEntities before filled) :
    Configured before (if filled.isVpcMido then filled.placed else filled) := by
  obtain ⟨hmode, hsorted, hi, hx, hg, hv, hig, hd⟩ := h
  split
  · next hm =>
    have hp : ∀ i name, filled.placed.place i name = i.placed filled.clusters name := by
      rw [placed_eq]
      exact fun i name => if_pos hm
    rw [placed_eq] at hp ⊢
    refine ⟨hmode, hsorted, ?_, ?_, hg, hv, hig, hd⟩
    · simp only [hp, ← hi]
    · simp only [hp, ← hx]
  · next hm =>
    have hp : ∀ i name, filled.place i name = i :=
      place_of_not_isVpcMido (by simpa using hm)
    refine ⟨hmode, hsorted, ?_, ?_, hg, hv, hig, hd⟩
    · simp only [hp, List.map_id', hi]
    · simp only [hp, List.map_id', hx]

/-- A model whose network has no nodes has its settings already. -/
theorem configured_self {m : NetworkModel} (hc : m.clusters = []) : Configured m m where
  mode := rfl
  sortedInstances := rfl
  instances := by simp only [place_of_no_clusters hc, List.map_id']
  interfaces := by simp only [place_of_no_clusters hc, List.map_id']
  secgroups := rfl
  vpcs := rfl
  internetGateways := rfl
  dhcpOptionSets := rfl

/-- **The pass over the settings**, which fails without a configuration section. -/
theorem configured_orKeep {m : NetworkModel} (hc : m.clusters = []) (part : Option Element) :
    Configured m (m.orKeep .configuration (m.withConfiguration part).value).value := by
  unfold withConfiguration
  split
  · exact configured_self hc
  · exact configured_self hc
  · next e _ =>
    split
    · exact ((sameEntities_withMido m e).trans (sameEntities_withSettings _ e)).configured
    · exact (sameEntities_withSettings m e).configured

/-- The pass over the links. -/
theorem value_linked (m : NetworkModel) :
    m.linked.value = { m with vpcs := m.vpcs.map fun v => (m.linkVpc v).value } := by
  unfold linked
  simp only [Noted.value_bind, Noted.value_mapList, Noted.value_pure]

/-! ## The finished model -/

/-- What the lists of a model built from a whole document hold. The references of a record are
those that the finished lists give rise to. -/
structure Assembled (s : Sections) (m : NetworkModel) : Prop where
  sortedInstances : m.sortedInstances = true
  instances : m.instances =
    (Instance.byName (Instance.numbered 0 (Instance.listed m.isVpcMido s.instances))).map
      fun i => m.place (i.withSecgroups m.secgroups 0) i.name
  interfaces : m.interfaces =
    ((Instance.listed m.isVpcMido s.instances).flatMap Prod.snd).map
      fun i => m.place (i.withSecgroups m.secgroups 0) i.instanceName
  secgroups : m.secgroups =
    (SecurityGroup.listed s.securityGroups).map (·.withMembers m.instances m.interfaces)
  vpcs : m.vpcs = (Vpc.listed s.vpcs).map fun v => (m.linkVpc v).value
  internetGateways : m.internetGateways = InternetGateway.listed s.internetGateways
  dhcpOptionSets : m.dhcpOptionSets = DhcpOptionSet.listed s.dhcpOptionSets

/-- A model that may be filled and holds no entities yet. -/
structure Blank (m : NetworkModel) : Prop where
  initialized : m.initialized = true
  clusters : m.clusters = []
  instances : m.instances = []
  interfaces : m.interfaces = []
  secgroups : m.secgroups = []
  vpcs : m.vpcs = []
  internetGateways : m.internetGateways = []
  dhcpOptionSets : m.dhcpOptionSets = []

/-- The header of a document is no entity. -/
theorem blank_header (d : Document) (configuration : Option Element) :
    Blank (empty.orKeep .header (empty.withHeader d configuration)).value :=
  ⟨rfl, rfl, rfl, rfl, rfl, rfl, rfl, rfl⟩

/-- The passes over all sections about entities. -/
theorem value_withEntities {m : NetworkModel} (hm : m.Blank) (s : Sections) :
    let found := Instance.listed m.isVpcMido s.instances
    let groups := SecurityGroup.listed s.securityGroups
    let instances := Instance.byName (Instance.numbered 0 found)
    let interfaces := found.flatMap Prod.snd
    (m.withEntities s).value = { m with
      instances := instances.map (·.withSecgroups groups 0)
      interfaces := interfaces.map (·.withSecgroups groups 0)
      sortedInstances := true
      secgroups := groups.map (·.withMembers instances interfaces)
      vpcs := Vpc.listed s.vpcs
      internetGateways := InternetGateway.listed s.internetGateways
      dhcpOptionSets := DhcpOptionSet.listed s.dhcpOptionSets } := by
  intro found groups instances interfaces
  have hnone : m.isVpcMido = false → interfaces = [] := fun h => by
    simp only [interfaces, found, h, Instance.flatMap_snd_listed_false]
  unfold withEntities
  simp only [Noted.value_bind]
  rw [value_withInstances _ hm.initialized hm.instances hm.interfaces hm.secgroups,
    value_orKeep_ok]
  rw [value_withSecgroups _ (by exact hm.initialized) (by exact hm.secgroups) (by exact hnone),
    value_orKeep_ok]
  rw [value_withVpcs _ (by exact hm.initialized) (by exact hm.vpcs), value_orKeep_ok]
  rw [withInternetGateways_eq_ok _ (by exact hm.initialized) (by exact hm.internetGateways),
    value_orKeep_ok]
  rw [withDhcpOptionSets_eq_ok _ (by exact hm.initialized) (by exact hm.dhcpOptionSets),
    value_orKeep_ok]

/-- A linked record on its node names the groups that it named before. -/
theorem secgroupNames_place_withSecgroups (m : NetworkModel) (groups : List SecurityGroup)
    (listedName : Instance → String) (i : Instance) :
    (m.place (i.withSecgroups groups 0) (listedName i)).secgroupNames = i.secgroupNames :=
  m.apply_place (f := Instance.secgroupNames) (fun _ _ => rfl) (i.withSecgroups groups 0)
    (listedName i)

/-- The model is assembled once its entities are there, its settings are filled in and its VPCs are
linked. -/
theorem Configured.assembled {blank filled c : NetworkModel} (hb : blank.Blank) {s : Sections}
    (hf : (blank.withEntities s).value = filled) (hc : Configured filled c)
    (hostnames : HostnameCache) : Assembled s { c.linked.value with hostnames } := by
  obtain ⟨hmode, hsorted, hi, hx, hg, hv, hig, hd⟩ := hc
  rw [value_withEntities hb] at hf
  subst hf
  have hmido : c.isVpcMido = blank.isVpcMido := by
    unfold isVpcMido netMode?
    rw [hmode]
  -- what the records refer to is a matter of names, and these stay as they were read
  have hgroups : ∀ i : Instance, i.withSecgroups c.secgroups 0 =
      i.withSecgroups (SecurityGroup.listed s.securityGroups) 0 := fun i => by
    rw [hg]
    exact i.withSecgroups_map (f := (·.withMembers _ _)) (fun _ => rfl) _ 0
  rw [List.map_map] at hi hx
  have hmembers : ∀ g : SecurityGroup, g.withMembers c.instances c.interfaces = g.withMembers
      (Instance.byName (Instance.numbered 0 (Instance.listed blank.isVpcMido s.instances)))
      ((Instance.listed blank.isVpcMido s.instances).flatMap Prod.snd) := fun g => by
    rw [hi, hx]
    exact g.withMembers_map
      (c.secgroupNames_place_withSecgroups (SecurityGroup.listed s.securityGroups) Instance.name)
      (c.secgroupNames_place_withSecgroups _ Instance.instanceName) _ _
  rw [value_linked]
  refine ⟨hsorted, ?_, ?_, ?_, ?_, hig, hd⟩
  · show c.instances = (Instance.byName (Instance.numbered 0
      (Instance.listed c.isVpcMido s.instances))).map
        fun i => c.place (i.withSecgroups c.secgroups 0) i.name
    simp only [hgroups, hmido, hi]
    rfl
  · show c.interfaces = ((Instance.listed c.isVpcMido s.instances).flatMap Prod.snd).map
      fun i => c.place (i.withSecgroups c.secgroups 0) i.instanceName
    simp only [hgroups, hmido, hx]
    rfl
  · show c.secgroups = (SecurityGroup.listed s.securityGroups).map
      (·.withMembers c.instances c.interfaces)
    simp only [hmembers, hg]
  · show c.vpcs.map _ = _
    rw [hv]
    rfl

/-- **The model of a whole document is assembled from its sections**, whatever these hold. -/
theorem assembled_assemble (d : Document) (hostnames : HostnameCache) :
    Assembled d.sections (assemble d true hostnames).value :=
  (configured_orKeep (by rw [value_withEntities (blank_header d _)]; rfl) _).assembled
    (blank_header d _) rfl hostnames

end NetworkModel

end CloudNet
