import CloudNet.Proofs.Selections

/-!
# Clusters as unions of nodes

What a cluster relates to is what its nodes relate to, put together. The walks over a cluster do not
go through those over its nodes: they look the cluster up by name, and the groups come from the
instances that are there, so that names without an instance are lost on the way.

* `Answer.concat`: answers one after the other.
* `Matches.answer_flatMap`: matches that are listed one after the other answer so.
* `answer_secgroupsInUse`: the groups in use are those at the positions of the groups that some of
  the instances name.
* `cluster_is_union_of_nodes`: the instances of a cluster are those of its nodes, one node after the
  other, and its groups are at the positions that its nodes have.
-/

namespace CloudNet

/-! ## Answers one after the other -/

namespace Answer

variable {α : Type}

/-- Answers one after the other, in the form that is wanted. -/
def concat (want : Want) (answers : List (Answer α)) : Answer α where
  names := if want.wantsNames then some (answers.flatMap nameList) else none
  entities := if want.wantsEntities then some (answers.flatMap entityList) else none

end Answer

namespace Matches

variable {α β : Type} (selection : Selection) (want : Want)

/-- **Matches that are listed one after the other answer one after the other.** -/
theorem answer_flatMap (xs : List β) (f : β → Matches α) :
    Matches.answer (xs.flatMap f) selection want =
      .concat want (xs.map fun x => (f x).answer selection want) := by
  have hselected : (xs.flatMap f).filter (fun y => selection.admits y.name) =
      xs.flatMap fun x => (f x).filter fun y => selection.admits y.name := List.filter_flatMap
  have hentities : entities (xs.flatMap fun x => (f x).filter fun y => selection.admits y.name) =
      xs.flatMap fun x => entities ((f x).filter fun y => selection.admits y.name) :=
    List.filterMap_flatMap
  unfold Answer.concat
  rw [answer, hselected, hentities]
  cases want with
  | names => simp [answer, Want.wantsNames, Want.wantsEntities, Answer.nameList,
      List.map_flatMap, List.flatMap_map]
  | entities => simp [answer, Want.wantsNames, Want.wantsEntities, Answer.entityList,
      List.flatMap_map]
  | both => simp [answer, Want.wantsNames, Want.wantsEntities, Answer.nameList,
      Answer.entityList, List.map_flatMap, List.flatMap_map]

end Matches

/-! ## Groups in use -/

/-- The group is selected, and some of the instances name it. -/
def Selection.admitsInUse (selection : Selection) (instances : List Instance) (g : SecurityGroup) :
    Bool :=
  selection.admits g.name && instances.any (·.hasSecgroup g.name)

theorem Selection.admitsInUse_flatMap {β : Type} (selection : Selection) (xs : List β)
    (f : β → List Instance) (g : SecurityGroup) :
    selection.admitsInUse (xs.flatMap f) g = true ↔
      ∃ x ∈ xs, selection.admitsInUse (f x) g = true := by
  unfold admitsInUse
  rw [List.any_flatMap, Bool.and_eq_true, List.any_eq_true]
  constructor
  · rintro ⟨hg, x, hx, hi⟩
    exact ⟨x, hx, Bool.and_eq_true_iff.mpr ⟨hg, hi⟩⟩
  · rintro ⟨x, hx, h⟩
    obtain ⟨hg, hi⟩ := Bool.and_eq_true_iff.mp h
    exact ⟨hg, x, hx, hi⟩

namespace NetworkModel

variable (m : NetworkModel)

/-- The positions of the groups that are among the given ones. -/
def positionsOf (groups : List SecurityGroup) : List Nat :=
  positionsWhere (fun g => decide (g ∈ groups)) m.secgroups

/-- The groups that the model has of a kind are at the positions of that kind. -/
theorem positionsOf_filter (p : SecurityGroup → Bool) :
    m.positionsOf (m.secgroups.filter p) = positionsWhere p m.secgroups := by
  refine Indexes.eq_positionsWhere ((indexes_positionsWhere _ m.secgroups).congr fun g hg => ?_)
  rw [decide_eq_true_iff, List.mem_filter, and_iff_right hg]

/-- **The groups in use**, as far as they are selected, in the order of the model. -/
theorem answer_secgroupsInUse (instances : List Instance) (selection : Selection) (want : Want) :
    (m.secgroupsInUse instances).answer selection want =
      .whole SecurityGroup.name (m.secgroups.filter (selection.admitsInUse instances)) want := by
  have hselected : (m.secgroupsInUse instances).filter (fun x => selection.admits x.name) =
      Matches.ofEntities SecurityGroup.name
        (m.secgroups.filter (selection.admitsInUse instances)) := by
    unfold secgroupsInUse Matches.ofEntities
    rw [List.filter_map, List.filter_filter]
    rfl
  rw [← Matches.answer_ofEntities_all, ← hselected]
  unfold Matches.answer
  simp only [Matches.filter_all]

end NetworkModel

/-! ## Nodes and clusters -/

namespace Traversal

variable (m : NetworkModel)

/-- The nodes that are answered for a cluster. -/
def nodesOf (c : Cluster) : List Node := (clusterNodes m c .all .both).value.entityList

/-- The positions of the groups that are answered for a node. -/
def nodePositions (selection : Selection) (n : Node) : List Nat :=
  m.positionsOf (nodeSecgroups m n selection .both).entityList

/-- The positions of the groups that are answered for a cluster. -/
def clusterPositions (selection : Selection) (c : Cluster) : List Nat :=
  m.positionsOf (clusterSecgroups m c selection .both).value.entityList

theorem nodesOf_eq (c : Cluster) :
    nodesOf m c = ((m.clusterNamed c.name).value.map Cluster.nodes).getD [] := by
  unfold nodesOf
  rw [value_clusterNodes, Matches.entityList_answer_both]
  exact Matches.entities_ofEntities _ _

/-- The instances of a cluster are matched node after node. -/
theorem value_clusterInstances_eq_flatMap (c : Cluster) :
    (m.clusterInstances c).value = (nodesOf m c).flatMap m.nodeInstances := by
  rw [nodesOf_eq]
  rfl

theorem nodeSecgroups_eq_whole (n : Node) (selection : Selection) (want : Want) :
    nodeSecgroups m n selection want = .whole SecurityGroup.name
      (m.secgroups.filter (selection.admitsInUse (m.nodeInstances n).entities)) want := by
  rw [nodeSecgroups_eq]
  exact m.answer_secgroupsInUse _ _ _

theorem clusterSecgroups_eq_whole (c : Cluster) (selection : Selection) (want : Want) :
    (clusterSecgroups m c selection want).value = .whole SecurityGroup.name
      (m.secgroups.filter (selection.admitsInUse (m.clusterInstances c).value.entities)) want := by
  rw [value_clusterSecgroups]
  exact m.answer_secgroupsInUse _ _ _

theorem nodePositions_eq (selection : Selection) (n : Node) :
    nodePositions m selection n =
      positionsWhere (selection.admitsInUse (m.nodeInstances n).entities) m.secgroups := by
  unfold nodePositions
  rw [nodeSecgroups_eq_whole]
  exact m.positionsOf_filter _

theorem clusterPositions_eq (selection : Selection) (c : Cluster) :
    clusterPositions m selection c =
      positionsWhere (selection.admitsInUse (m.clusterInstances c).value.entities) m.secgroups := by
  unfold clusterPositions
  rw [clusterSecgroups_eq_whole]
  exact m.positionsOf_filter _

/-- **A group of a cluster is one of some of its nodes**, by position. -/
theorem mem_clusterPositions_iff (selection : Selection) (c : Cluster) (k : Nat) :
    k ∈ clusterPositions m selection c ↔ ∃ n ∈ nodesOf m c, k ∈ nodePositions m selection n := by
  have hentities : (m.clusterInstances c).value.entities =
      (nodesOf m c).flatMap fun n => (m.nodeInstances n).entities := by
    rw [value_clusterInstances_eq_flatMap]
    exact List.filterMap_flatMap
  simp only [clusterPositions_eq, nodePositions_eq, mem_positionsWhere, hentities,
    Selection.admitsInUse_flatMap]
  constructor
  · rintro ⟨g, hg, n, hn, huse⟩
    exact ⟨n, hn, g, hg, huse⟩
  · rintro ⟨n, hn, g, hg, huse⟩
    exact ⟨g, hg, n, hn, huse⟩

/-- What is answered for a cluster is what is answered for its nodes, put together: instances one
node after the other, groups by their positions in the model. -/
structure UnionOfNodes (c : Cluster) (selection : Selection) : Prop where
  instances : ∀ want, (clusterInstances m c selection want).value =
    .concat want ((nodesOf m c).map fun n => nodeInstances m n selection want)
  nodeSecgroups : ∀ n want, Traversal.nodeSecgroups m n selection want =
    .whole SecurityGroup.name (atPositions m.secgroups (nodePositions m selection n)) want
  clusterSecgroups : ∀ want, (Traversal.clusterSecgroups m c selection want).value =
    .whole SecurityGroup.name (atPositions m.secgroups (clusterPositions m selection c)) want
  mem_positions_iff : ∀ k, k ∈ clusterPositions m selection c ↔
    ∃ n ∈ nodesOf m c, k ∈ nodePositions m selection n

theorem unionOfNodes (c : Cluster) (selection : Selection) : UnionOfNodes m c selection where
  instances want := by
    rw [value_clusterInstances, value_clusterInstances_eq_flatMap, Matches.answer_flatMap]
    simp only [nodeInstances_eq]
  nodeSecgroups n want := by
    rw [nodePositions_eq, atPositions_positionsWhere]
    exact nodeSecgroups_eq_whole m n selection want
  clusterSecgroups want := by
    rw [clusterPositions_eq, atPositions_positionsWhere]
    exact clusterSecgroups_eq_whole m c selection want
  mem_positions_iff := mem_clusterPositions_iff m selection c

/-- **What a cluster relates to is what its nodes relate to**, in every model and whatever cluster
is asked about. The first cluster of its name counts as many placements as it has names of
instances. -/
theorem cluster_is_union_of_nodes (c : Cluster) :
    (∀ selection, UnionOfNodes m c selection) ∧
      (m.clusters.find? (·.name = c.name) = some c →
        c.instanceCount = (clusterInstances m c .all .names).value.nameList.length) := by
  refine ⟨unionOfNodes m c, fun hfirst => ?_⟩
  have hnodes : nodesOf m c = c.nodes := by
    rw [nodesOf_eq]
    show ((m.clusters.find? (·.name = c.name)).map Cluster.nodes).getD [] = c.nodes
    rw [hfirst]
    rfl
  have hnames : (clusterInstances m c .all .names).value.nameList =
      c.nodes.flatMap Node.instanceNames := by
    rw [value_clusterInstances, value_clusterInstances_eq_flatMap, hnodes]
    show (((c.nodes.flatMap m.nodeInstances).filter _).map Match.name) = _
    rw [Matches.filter_all, List.map_flatMap]
    refine List.flatMap_congr fun n _ => ?_
    show ((n.instanceNames.map _).map Match.name) = n.instanceNames
    rw [List.map_map]
    exact List.map_id' _
  rw [hnames]
  rfl

end Traversal

/-! ## A cluster with two nodes -/

namespace Sample

/-- Two nodes that share an instance; one of the names has no instance. -/
def twoNodes : Cluster where
  name := "one"
  nodes := [⟨"10.0.0.8", ["i-a", "i-gone"]⟩, ⟨"10.0.0.9", ["i-b", "i-a"]⟩]

/-- A model in which the name of the cluster and that of a group come twice. -/
def crowded : NetworkModel where
  clusters := [twoNodes, { name := "one" }]
  instances := [
    { name := "i-a", secgroupNames := ["web"] }, { name := "i-b", secgroupNames := ["db"] }]
  secgroups := [{ name := "db" }, { name := "idle" }, { name := "web" }, { name := "db" }]

end Sample

namespace Traversal

/-- The two nodes have four placements and three groups, of which each has a part. -/
theorem union_of_two_nodes :
    Sample.crowded.clusters.find? (·.name = Sample.twoNodes.name) = some Sample.twoNodes ∧
    Sample.twoNodes.instanceCount =
      (clusterInstances Sample.crowded Sample.twoNodes .all .names).value.nameList.length ∧
    nodesOf Sample.crowded Sample.twoNodes = Sample.twoNodes.nodes ∧
    Sample.twoNodes.nodes.map (nodePositions Sample.crowded .all) = [[2], [0, 2, 3]] ∧
    (clusterSecgroups Sample.crowded Sample.twoNodes .all .names).value =
      ⟨some ["db", "web", "db"], none⟩ := by
  have hfirst : Sample.crowded.clusters.find? (·.name = Sample.twoNodes.name) =
      some Sample.twoNodes := by decide
  obtain ⟨hunion, hcount⟩ := cluster_is_union_of_nodes Sample.crowded Sample.twoNodes
  have hpositions : clusterPositions Sample.crowded .all Sample.twoNodes = [0, 2, 3] := by decide
  refine ⟨hfirst, hcount hfirst, by decide, by decide, ?_⟩
  rw [(hunion .all).clusterSecgroups, hpositions]
  rfl

end Traversal

end CloudNet
