import CloudNet.Proofs.DeclaredNames
import CloudNet.Proofs.Selections

/-!
# Where instances are placed

The nodes of a network of tenant networks list the instances that they host, by name. Nothing keeps
two nodes from listing one name. The listings are gone through in the order of the document and each
of them moves the instance and its interfaces to its node, so the last one decides. `PlacedOn` says
so in terms of the nodes alone.

* `placedOn_placed`: a record that is on no node yet is placed by the last listing.
* `Assembled.placedOn_of_mem_instances`, `Assembled.placedOn_of_mem_interfaces`: so is each record
  of a finished model. Instances go by their own name, interfaces by that of their instance.
* `PlacedOn.eq_of_only`: if one node lists a name, it is the one.
* `nodes_of_ofDocument`: the nodes are those of the document, cluster by cluster.
* `placed_by_last_listing`: all of this of every model that is built from a whole document.
-/

namespace CloudNet

/-- Where a name is placed: on the last of the nodes that list it, and nowhere if none does. -/
inductive PlacedOn (nodes : List Node) (name : String) : String → Prop
  | last {before after : List Node} {n : Node} (hnodes : nodes = before ++ n :: after)
      (hlists : name ∈ n.instanceNames) (hafter : ∀ other ∈ after, name ∉ other.instanceNames) :
      PlacedOn nodes name n.name
  | nowhere (hnone : ∀ n ∈ nodes, name ∉ n.instanceNames) : PlacedOn nodes name ""

/-- The nodes of all clusters, in order. -/
def NetworkModel.nodes (m : NetworkModel) : List Node := m.clusters.flatMap Cluster.nodes

/-- The elements from which the nodes of a document are read. -/
def Document.nodeElements (d : Document) : List Element :=
  d.clusterElements.flatMap (·.follow (Route.propertyItem "nodes" "node"))

/-- **If one node lists a name, it is the one** that the name is placed on. -/
theorem PlacedOn.eq_of_only {nodes : List Node} {name node : String} (h : PlacedOn nodes name node)
    {before after : List Node} {n : Node} (hnodes : nodes = before ++ n :: after)
    (hlists : name ∈ n.instanceNames)
    (honly : ∀ other ∈ before ++ after, name ∉ other.instanceNames) : node = n.name := by
  cases h with
  | nowhere hnone => exact absurd hlists (hnone n (by simp [hnodes]))
  | @last before' after' n' hnodes' hlists' _ =>
    have hmem : n' ∈ before ++ n :: after := by
      rw [← hnodes, hnodes']
      exact List.mem_append_right _ List.mem_cons_self
    rw [List.mem_append, List.mem_cons] at hmem
    rcases hmem with hbefore | rfl | hafter
    · exact absurd hlists' (honly n' (List.mem_append_left _ hbefore))
    · rfl
    · exact absurd hlists' (honly n' (List.mem_append_right _ hafter))

/-! ## Records -/

/-- **A record is placed by the last listing** if it is on no node before. -/
theorem placedOn_placed {i : Instance} (hi : i.node = "") (clusters : List Cluster)
    (name : String) :
    PlacedOn (clusters.flatMap Cluster.nodes) name (i.placed clusters name).node := by
  unfold Instance.placed
  split
  · next n hn =>
    obtain ⟨hlists, after, before, hreverse, hafter⟩ := List.find?_eq_some_iff_append.mp hn
    refine @PlacedOn.last _ _ before.reverse after.reverse n ?_ (by simpa using hlists) ?_
    · rw [← List.reverse_reverse (clusters.flatMap Cluster.nodes), hreverse]
      simp
    · intro other hother
      simpa using hafter other (List.mem_reverse.mp hother)
  · next hn =>
    rw [hi]
    refine .nowhere fun n hmem => ?_
    simpa using List.find?_eq_none.mp hn n (List.mem_reverse.mpr hmem)

namespace NetworkModel

variable {s : Sections} {m : NetworkModel}

theorem placedOn_place (hm : m.isVpcMido = true) {i : Instance} (hi : i.node = "")
    (name : String) : PlacedOn m.nodes name (m.place i name).node := by
  unfold place
  rw [if_pos hm]
  exact placedOn_placed hi m.clusters name

/-- An instance of a finished model was on no node before it was placed by its name. -/
theorem Assembled.exists_place_of_mem_instances (h : Assembled s m) {i : Instance}
    (hi : i ∈ m.instances) : ∃ r : Instance, r.node = "" ∧ i = m.place r i.name := by
  rw [h.instances] at hi
  obtain ⟨j, hj, rfl⟩ := List.mem_map.mp hi
  obtain ⟨p, hp, first, hread⟩ := Instance.mem_numbered (Instance.mem_byName.mp hj)
  have hnode : (j.withSecgroups m.secgroups 0).node = "" := by
    rw [hread]
    exact (Instance.unlinked_of_mem_listed hp).1.node
  refine ⟨j.withSecgroups m.secgroups 0, hnode, ?_⟩
  rw [m.apply_place (f := Instance.name) fun _ _ => rfl]
  rfl

/-- An interface of a finished model was on no node before it was placed by the name of its
instance. -/
theorem Assembled.exists_place_of_mem_interfaces (h : Assembled s m) {x : Instance}
    (hx : x ∈ m.interfaces) : ∃ r : Instance, r.node = "" ∧ x = m.place r x.instanceName := by
  rw [h.interfaces] at hx
  obtain ⟨j, hj, rfl⟩ := List.mem_map.mp hx
  obtain ⟨p, hp, hj⟩ := List.mem_flatMap.mp hj
  refine ⟨j.withSecgroups m.secgroups 0, ((Instance.unlinked_of_mem_listed hp).2 j hj).node, ?_⟩
  rw [m.apply_place (f := Instance.instanceName) fun _ _ => rfl]
  rfl

/-- **Instances are placed by the last listing of their name.** -/
theorem Assembled.placedOn_of_mem_instances (h : Assembled s m) (hm : m.isVpcMido = true)
    {i : Instance} (hi : i ∈ m.instances) : PlacedOn m.nodes i.name i.node := by
  obtain ⟨r, hnode, hplace⟩ := h.exists_place_of_mem_instances hi
  have hplaced := placedOn_place hm hnode i.name
  rwa [← hplace] at hplaced

/-- **Interfaces are placed by the last listing of their instance.** -/
theorem Assembled.placedOn_of_mem_interfaces (h : Assembled s m) (hm : m.isVpcMido = true)
    {x : Instance} (hx : x ∈ m.interfaces) : PlacedOn m.nodes x.instanceName x.node := by
  obtain ⟨r, hnode, hplace⟩ := h.exists_place_of_mem_interfaces hx
  have hplaced := placedOn_place hm hnode x.instanceName
  rwa [← hplace] at hplaced

/-- Only a network of tenant networks places its instances. -/
theorem Assembled.node_eq_empty (h : Assembled s m) (hm : m.isVpcMido = false) {i : Instance}
    (hi : i ∈ m.instances ++ m.interfaces) : i.node = "" := by
  rcases List.mem_append.mp hi with hi | hi
  · obtain ⟨r, hnode, hplace⟩ := h.exists_place_of_mem_instances hi
    rw [hplace, place_of_not_isVpcMido hm, hnode]
  · rw [(h.interfaces_eq_nil hm).1] at hi
    exact absurd hi List.not_mem_nil

/-! ## Nodes -/

/-- The nodes of a cluster are read in the order of the document. -/
theorem nodes_ofElement (e : Element) : (Cluster.ofElement e).value.nodes =
    (e.follow (Route.propertyItem "nodes" "node")).map Node.ofElement := by
  unfold Cluster.ofElement
  simp only [Noted.value_bind]
  split <;> rfl

/-- **The nodes of a model are those of its document**, cluster by cluster. -/
theorem nodes_of_ofDocument {d : Document} {hostnames : HostnameCache}
    (h : (ofDocument d .all hostnames).value = .ok m) :
    m.nodes = d.nodeElements.map Node.ofElement := by
  obtain ⟨-, rfl, -⟩ := (value_ofDocument_eq_ok_iff (by decide)).mp h
  unfold nodes Document.nodeElements
  rw [show Extent.all == Extent.all from rfl, clusters_assemble, List.flatMap_map, List.map_flatMap]
  simp only [nodes_ofElement]

/-- A node answers all the names that it lists. -/
theorem nameList_nodeInstances (m : NetworkModel) (n : Node) {want : Want}
    (hwant : want.wantsNames = true) :
    (Traversal.nodeInstances m n .all want).nameList = n.instanceNames := by
  rw [Traversal.nodeInstances_eq]
  unfold Matches.answer Answer.nameList
  simp only [hwant, if_true, Option.getD_some, Matches.filter_all]
  show (n.instanceNames.map _).map Match.name = n.instanceNames
  rw [List.map_map]
  exact List.map_id' _

/-- **The last listing decides** where the instances of a network of tenant networks and their
interfaces are. If one node lists an instance, it is there, and the node answers its name. In other
networks nothing is placed. -/
theorem placed_by_last_listing {d : Document} {hostnames : HostnameCache}
    (h : (ofDocument d .all hostnames).value = .ok m) :
    m.nodes = d.nodeElements.map Node.ofElement ∧
    (m.isVpcMido = true →
      (∀ i ∈ m.instances, PlacedOn m.nodes i.name i.node) ∧
      (∀ x ∈ m.interfaces, PlacedOn m.nodes x.instanceName x.node) ∧
      ∀ i ∈ m.instances, ∀ before n after, m.nodes = before ++ n :: after →
        i.name ∈ n.instanceNames → (∀ other ∈ before ++ after, i.name ∉ other.instanceNames) →
          i.node = n.name ∧ ∀ want, want.wantsNames = true →
            i.name ∈ (Traversal.nodeInstances m n .all want).nameList) ∧
    (m.isVpcMido = false → ∀ i ∈ m.instances ++ m.interfaces, i.node = "") := by
  have ha := assembled_of_ofDocument h
  refine ⟨nodes_of_ofDocument h, fun hm => ⟨?_, ?_, ?_⟩, fun hm _ hi => ha.node_eq_empty hm hi⟩
  · exact fun _ hi => ha.placedOn_of_mem_instances hm hi
  · exact fun _ hx => ha.placedOn_of_mem_interfaces hm hx
  · intro i hi before n after hnodes hlists honly
    refine ⟨(ha.placedOn_of_mem_instances hm hi).eq_of_only hnodes hlists honly, ?_⟩
    intro want hwant
    rw [nameList_nodeInstances m n hwant]
    exact hlists

end NetworkModel

/-! ## A name that two nodes list -/

namespace Sample

/-- A cluster of one node that lists some names. -/
def hostCluster (name node : String) (names : List String) : Content :=
  entity "cluster" name [
    setting "enabledCCIp" "10.0.0.3", setting "macPrefix" "d0:0d",
    entity "property" "nodes" [
      entity "node" node [part "instanceIds" (names.map (field "value"))]]]

/-- Two instances, one with an interface, and two nodes that both list that one. -/
def relisted : Document where
  root := ⟨"network-data", [], [
    part "configuration" [
      setting "mode" "VPCMIDO", setting "enabledCLCIp" "10.0.0.1",
      setting "instanceDNSDomain" "cloud.internal", setting "instanceDNSServers" "10.0.0.2",
      entity "property" "clusters" [
        hostCluster "one" "10.0.0.8" ["i-b", "i-a"], hostCluster "two" "10.0.0.9" ["i-b"]]],
    part "instances" [
      machine "i-a" "10.1.0.6" [],
      machine "i-b" "10.1.0.4" [nic "eni-1" "10.1.0.4" "0" "subnet-1" []]]]⟩

/-- The model of the two instances. -/
def relistedModel : NetworkModel where
  initialized := true
  mode := "VPCMIDO"
  controllerIp := 167772161
  dnsDomain := "cloud.internal"
  dnsServers := [167772162]
  clusters := [
    { name := "one", controllerIp := 167772163, macPrefix := "d0:0d"
      nodes := [{ name := "10.0.0.8", instanceNames := ["i-b", "i-a"] }] },
    { name := "two", controllerIp := 167772163, macPrefix := "d0:0d"
      nodes := [{ name := "10.0.0.9", instanceNames := ["i-b"] }] }]
  instances := [
    { machineA with node := "10.0.0.8", interfaces := [] },
    { machineB with node := "10.0.0.9", interfaces := [0] }]
  interfaces := [
    { name := "i-b", ifname := "eni-1", instanceName := "i-b", accountId := "account"
      privateIp := 167837700, vpc := "vpc-1", subnet := "subnet-1", node := "10.0.0.9" }]
  sortedInstances := true

theorem ofDocument_relisted :
    (NetworkModel.ofDocument relisted .all {}).value = .ok relistedModel := by
  have hread : NetworkModel.unsorted relisted =
      [{ machineA with interfaces := [] }, { machineB with interfaces := [0] }] := by
    decide +kernel
  have hle : machineA.name ≤ machineB.name := by decide
  have hsorted : Instance.byName (NetworkModel.unsorted relisted) =
      [{ machineA with interfaces := [] }, { machineB with interfaces := [0] }] := by
    rw [hread]
    simp [Instance.byName, List.mergeSort, List.MergeSort.Internal.splitInTwo, hle]
  exact NetworkModel.ofDocument_of_sorted rfl hsorted (by decide +kernel) (by decide +kernel)

end Sample

/-- The instance that both nodes list is on the later one, and so is its interface. The other one is
where it is listed. -/
theorem NetworkModel.placed_of_relisted :
    (ofDocument Sample.relisted .all {}).value = .ok Sample.relistedModel ∧
    Sample.relistedModel.isVpcMido = true ∧
    PlacedOn Sample.relistedModel.nodes "i-b" "10.0.0.9" ∧
    (∀ x ∈ Sample.relistedModel.interfaces, PlacedOn Sample.relistedModel.nodes "i-b" x.node) ∧
    "i-a" ∈ (Traversal.nodeInstances Sample.relistedModel ⟨"10.0.0.8", ["i-b", "i-a"]⟩ .all
      .names).nameList := by
  have hmido : Sample.relistedModel.isVpcMido = true := by decide
  obtain ⟨-, hplaced, -⟩ := placed_by_last_listing Sample.ofDocument_relisted
  obtain ⟨hinstances, hinterfaces, honly⟩ := hplaced hmido
  refine ⟨Sample.ofDocument_relisted, hmido, ?_, ?_, ?_⟩
  · exact hinstances { Sample.machineB with node := "10.0.0.9", interfaces := [0] } (by decide)
  · intro x hx
    obtain rfl := List.mem_singleton.mp hx
    exact hinterfaces _ hx
  · exact (honly { Sample.machineA with node := "10.0.0.8", interfaces := [] } (by decide) []
      ⟨"10.0.0.8", ["i-b", "i-a"]⟩ [⟨"10.0.0.9", ["i-b"]⟩] rfl (by decide) (by decide)).2 .names rfl

end CloudNet
