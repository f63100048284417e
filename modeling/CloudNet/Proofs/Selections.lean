import CloudNet.Proofs.References
import CloudNet.Traversal

/-!
# Selections

A traversal that is asked for a selection of names gives that part of what it gives for all names,
and one that is asked for names or entities alone gives these. Whatever the model holds, an answer
has its entities in the order of their names, some of which may have none.

* `Answer.foldl_record`: what a walk has recorded in the end.
* `Traversal.cloudClusters_eq` and its neighbours: each traversal answers with the matches of its
  relation.
* `Matches.Consistent.selective`: what a list of matches answers treats selections as it should.
* `Traversal.all_selective`: so does every relation.
-/

namespace CloudNet

/-! ## Recording matches -/

namespace Answer

variable {α : Type} (selection : Selection)

/-- **What a walk has recorded in the end**, on top of what it started with. -/
theorem foldl_record (a : Answer α) (ms : Matches α) :
    ms.foldl (fun a x => a.record selection x.name x.entity) a =
      let selected := ms.filter fun x => selection.admits x.name
      { names := a.names.map (· ++ selected.map Match.name)
        entities := a.entities.map (· ++ Matches.entities selected) } := by
  -- the walk goes on with what it has recorded, so the start is any answer
  induction ms generalizing a with
  | nil => simp [Matches.entities]
  | cons x ms ih =>
    rw [List.foldl_cons, ih]
    unfold record
    cases hx : selection.admits x.name with
    | false => simp [hx]
    | true =>
      cases hentity : x.entity <;> simp [hx, push, Matches.entities, hentity, Function.comp_def]

/-- A walk that starts with no matches answers with those that it comes by. -/
theorem foldl_record_empty (want : Want) (ms : Matches α) :
    ms.foldl (fun a x => a.record selection x.name x.entity) (.empty want) =
      ms.answer selection want := by
  rw [foldl_record]
  unfold empty Matches.answer
  cases want <;> simp [Want.wantsNames, Want.wantsEntities]

theorem recordEntities_eq (a : Answer α) (name : α → String) (xs : List α) :
    a.recordEntities selection name xs =
      (Matches.ofEntities name xs).foldl (fun a x => a.record selection x.name x.entity) a := by
  unfold recordEntities Matches.ofEntities
  rw [List.foldl_map]

theorem recordNames_eq (a : Answer α) (find : String → Option α) (names : List String) :
    a.recordNames selection find names =
      (Matches.ofNames find names).foldl (fun a x => a.record selection x.name x.entity) a := by
  unfold recordNames Matches.ofNames
  rw [List.foldl_map]

/-- Recording entities answers with them. -/
theorem recordEntities_empty (want : Want) (name : α → String) (xs : List α) :
    (empty want).recordEntities selection name xs =
      (Matches.ofEntities name xs).answer selection want := by
  rw [recordEntities_eq, foldl_record_empty]

/-- Recording names answers with them. -/
theorem recordNames_empty (want : Want) (find : String → Option α) (names : List String) :
    (empty want).recordNames selection find names =
      (Matches.ofNames find names).answer selection want := by
  rw [recordNames_eq, foldl_record_empty]

end Answer

namespace Matches

variable {α : Type} (ms : Matches α)

theorem filter_all : (ms.filter fun x => Selection.all.admits x.name) = ms :=
  List.filter_eq_self.mpr fun _ _ => rfl

theorem entityList_answer_entities : (ms.answer .all .entities).entityList = ms.entities :=
  congrArg entities ms.filter_all

theorem nameList_answer_both : (ms.answer .all .both).nameList = ms.map Match.name :=
  congrArg (List.map Match.name) ms.filter_all

theorem entityList_answer_both : (ms.answer .all .both).entityList = ms.entities :=
  congrArg entities ms.filter_all

end Matches

/-! ## Traversals and matches -/

namespace Traversal

variable (m : NetworkModel) (selection : Selection) (want : Want)

theorem secgroupsInUse_eq (instances : List Instance) :
    secgroupsInUse m instances selection want =
      (m.secgroupsInUse instances).answer selection want := by
  unfold NetworkModel.secgroupsInUse secgroupsInUse
  rw [← Answer.recordEntities_empty, Answer.recordEntities, List.foldl_filter]

/-- The interfaces at complete positions are those with the condition. -/
theorem interfacesAt_eq {positions : List Nat} {p : Instance → Bool}
    (h : Indexes positions (fun i => p i = true) m.interfaces) :
    interfacesAt m positions selection want =
      (Matches.ofEntities Instance.name (m.interfaces.filter p)).answer selection want := by
  unfold interfacesAt
  rw [Answer.recordEntities_empty, h.atPositions_eq]

theorem cloudClusters_eq :
    cloudClusters m selection want = m.cloudClusters.answer selection want :=
  Answer.recordEntities_empty selection want Cluster.name m.clusters

theorem cloudSecgroups_eq :
    cloudSecgroups m selection want = m.cloudSecgroups.answer selection want :=
  Answer.recordEntities_empty selection want SecurityGroup.name m.secgroups

theorem value_clusterNodes (c : Cluster) :
    (clusterNodes m c selection want).value =
      (m.clusterNodes c).value.answer selection want := by
  unfold clusterNodes NetworkModel.clusterNodes
  simp only [Noted.value_bind, Noted.value_pure]
  cases (m.clusterNamed c.name).value with
  | none => exact Answer.recordEntities_empty selection want Node.name []
  | some own => exact Answer.recordEntities_empty selection want Node.name own.nodes

theorem value_clusterInstances (c : Cluster) :
    (clusterInstances m c selection want).value =
      (m.clusterInstances c).value.answer selection want := by
  unfold clusterInstances NetworkModel.clusterInstances
  simp only [Noted.value_bind, Noted.value_pure]
  cases (m.clusterNamed c.name).value with
  | none => exact Answer.foldl_record_empty selection want []
  | some own =>
    simp only [Noted.value_pure, Option.map_some, Option.getD_some, Answer.recordNames_eq]
    rw [← Answer.foldl_record_empty, List.foldl_flatMap]
    rfl

theorem nodeInstances_eq (n : Node) :
    nodeInstances m n selection want = (m.nodeInstances n).answer selection want :=
  Answer.recordNames_empty selection want m.instanceNamed? n.instanceNames

theorem value_clusterSecgroups (c : Cluster) :
    (clusterSecgroups m c selection want).value =
      (m.clusterSecgroups c).value.answer selection want := by
  unfold clusterSecgroups NetworkModel.clusterSecgroups
  simp only [Noted.value_bind, Noted.value_pure]
  rw [value_clusterInstances, Matches.entityList_answer_entities, secgroupsInUse_eq]

theorem nodeSecgroups_eq (n : Node) :
    nodeSecgroups m n selection want = (m.nodeSecgroups n).answer selection want := by
  unfold nodeSecgroups NetworkModel.nodeSecgroups
  rw [nodeInstances_eq, Matches.entityList_answer_entities, secgroupsInUse_eq]

theorem instanceSecgroups_eq (i : Instance) :
    instanceSecgroups m i selection want = (m.instanceSecgroups i).answer selection want :=
  Answer.recordNames_empty selection want m.secgroupNamed? i.secgroupNames

theorem secgroupInstances_eq (g : SecurityGroup) :
    secgroupInstances m g selection want = (m.secgroupInstances g).answer selection want :=
  Answer.recordEntities_empty selection want Instance.name (atPositions m.instances g.instances)

theorem secgroupInterfaces_eq (g : SecurityGroup) :
    secgroupInterfaces m g selection want = (m.secgroupInterfaces g).answer selection want :=
  Answer.recordEntities_empty selection want Instance.name (atPositions m.interfaces g.interfaces)

theorem vpcInterfaces_eq (v : Vpc) :
    vpcInterfaces m v selection want = (m.vpcInterfaces v).answer selection want :=
  interfacesAt_eq m selection want (indexes_positionsWhere _ m.interfaces)

theorem vpcSubnetInterfaces_eq (v : Vpc) (s : VpcSubnet) :
    vpcSubnetInterfaces m v s selection want =
      (m.vpcSubnetInterfaces v s).answer selection want := by
  have hkept := (indexes_positionsWhere (fun i : Instance => decide (i.vpc = v.name))
    m.interfaces).filter fun i : Instance => i.subnet = s.name
  have hboth : Indexes (m.interfacesInSubnet s.name (m.interfacesInVpc v.name))
      (fun i => (decide (i.subnet = s.name) && decide (i.vpc = v.name)) = true) m.interfaces := by
    refine hkept.congr fun i _ => ?_
    rw [Bool.and_eq_true]
    exact and_comm
  unfold vpcSubnetInterfaces NetworkModel.vpcSubnetInterfaces
  rw [interfacesAt_eq m selection want hboth, List.filter_filter]

end Traversal

/-! ## Selecting -/

namespace Matches

variable {α : Type} {name : α → String} {ms : Matches α}

/-- The entities of the matches go by the names of these. -/
def Consistent (name : α → String) (ms : Matches α) : Prop :=
  ∀ x ∈ ms, ∀ entity ∈ x.entity, name entity = x.name

theorem consistent_ofEntities (name : α → String) (xs : List α) :
    Consistent name (ofEntities name xs) := by
  intro x hx entity hentity
  obtain ⟨y, -, rfl⟩ := List.mem_map.mp hx
  cases hentity
  rfl

/-- Looking names up in a list finds entities of these names. -/
theorem consistent_ofNames (name : α → String) (xs : List α) (names : List String) :
    Consistent name (ofNames (fun n => xs.find? fun x => name x = n) names) := by
  intro x hx entity hentity
  obtain ⟨n, -, rfl⟩ := List.mem_map.mp hx
  have hfound : xs.find? (fun x => name x = n) = some entity := hentity
  exact of_decide_eq_true (List.find?_some hfound :)

theorem Consistent.tail {x : Match α} (h : Consistent name (x :: ms)) : Consistent name ms :=
  fun y hy => h y (List.mem_cons_of_mem _ hy)

/-- Selecting matches by their names is selecting their entities by their own. -/
theorem Consistent.entities_filter (h : Consistent name ms) (p : String → Bool) :
    entities (ms.filter fun x => p x.name) = (entities ms).filter fun x => p (name x) := by
  unfold entities
  rw [List.filterMap_filter, List.filter_filterMap]
  refine List.filterMap_congr fun x hx => ?_
  cases hentity : x.entity with
  | none => rw [ite_self, Option.filter_none]
  | some entity => rw [Option.filter_some, h x hx entity hentity]

/-- The entities stand in the order of the names, some of which may have none. -/
theorem Consistent.sublist (h : Consistent name ms) :
    ((entities ms).map name).Sublist (ms.map Match.name) := by
  induction ms with
  | nil => exact List.Sublist.slnil
  | cons x ms ih =>
    have hrest := ih h.tail
    cases hentity : x.entity with
    | none =>
      rw [entities, List.filterMap_cons_none hentity]
      exact hrest.cons _
    | some entity =>
      have hname := h x List.mem_cons_self entity hentity
      rw [entities, List.filterMap_cons_some hentity, List.map_cons, List.map_cons, hname]
      exact hrest.cons_cons _

end Matches

/-- The answers of a relation, given what is selected and what is wanted. -/
abbrev Answers (α : Type) := Selection → Want → Answer α

/-- Answers are parts of the answer with everything: what is wanted of it is there, as far as it is
selected. Its entities stand in the order of its names. -/
structure Selective {α : Type} (name : α → String) (answer : Answers α) : Prop where
  names : ∀ selection want, (answer selection want).names =
    if want.wantsNames then some ((answer .all .both).nameList.filter selection.admits) else none
  entities : ∀ selection want, (answer selection want).entities =
    if want.wantsEntities then
      some ((answer .all .both).entityList.filter fun x => selection.admits (name x))
    else none
  sublist : ((answer .all .both).entityList.map name).Sublist (answer .all .both).nameList

/-- **What a list of matches answers is selective.** -/
theorem Matches.Consistent.selective {α : Type} {name : α → String} {ms : Matches α}
    (h : Consistent name ms) : Selective name ms.answer where
  names selection want := by
    rw [nameList_answer_both, List.filter_map]
    rfl
  entities selection want := by
    rw [entityList_answer_both, ← h.entities_filter]
    rfl
  sublist := by
    rw [nameList_answer_both, entityList_answer_both]
    exact h.sublist

/-- A traversal that answers with consistent matches is selective. -/
theorem Selective.of_matches {α : Type} {name : α → String} {answer : Answers α} {ms : Matches α}
    (h : ∀ selection want, answer selection want = ms.answer selection want)
    (hms : ms.Consistent name) : Selective name answer := by
  obtain rfl : answer = ms.answer := funext fun s => funext fun w => h s w
  exact hms.selective

/-! ## All relations -/

namespace NetworkModel

variable (m : NetworkModel)

theorem consistent_secgroupsInUse (instances : List Instance) :
    (m.secgroupsInUse instances).Consistent SecurityGroup.name :=
  Matches.consistent_ofEntities _ _

theorem consistent_clusterNodes (c : Cluster) :
    (m.clusterNodes c).value.Consistent Node.name :=
  Matches.consistent_ofEntities _ _

theorem consistent_nodeInstances (n : Node) : (m.nodeInstances n).Consistent Instance.name :=
  Matches.consistent_ofNames Instance.name m.instances n.instanceNames

theorem consistent_clusterInstances (c : Cluster) :
    (m.clusterInstances c).value.Consistent Instance.name := by
  intro x hx
  obtain ⟨n, -, hn⟩ := List.mem_flatMap.mp hx
  exact m.consistent_nodeInstances n x hn

theorem consistent_instanceSecgroups (i : Instance) :
    (m.instanceSecgroups i).Consistent SecurityGroup.name :=
  Matches.consistent_ofNames SecurityGroup.name m.secgroups i.secgroupNames

end NetworkModel

namespace Traversal

/-- The relations of a model treat selections alike, whatever they are asked about. -/
structure AllSelective (m : NetworkModel) : Prop where
  cloudClusters : Selective Cluster.name (Traversal.cloudClusters m)
  cloudSecgroups : Selective SecurityGroup.name (Traversal.cloudSecgroups m)
  clusterNodes : ∀ c, Selective Node.name fun s w => (Traversal.clusterNodes m c s w).value
  clusterInstances : ∀ c,
    Selective Instance.name fun s w => (Traversal.clusterInstances m c s w).value
  clusterSecgroups : ∀ c,
    Selective SecurityGroup.name fun s w => (Traversal.clusterSecgroups m c s w).value
  nodeInstances : ∀ n, Selective Instance.name (Traversal.nodeInstances m n)
  nodeSecgroups : ∀ n, Selective SecurityGroup.name (Traversal.nodeSecgroups m n)
  instanceSecgroups : ∀ i, Selective SecurityGroup.name (Traversal.instanceSecgroups m i)
  secgroupInstances : ∀ g, Selective Instance.name (Traversal.secgroupInstances m g)
  secgroupInterfaces : ∀ g, Selective Instance.name (Traversal.secgroupInterfaces m g)
  vpcInterfaces : ∀ v, Selective Instance.name (Traversal.vpcInterfaces m v)
  vpcSubnetInterfaces : ∀ v s, Selective Instance.name (Traversal.vpcSubnetInterfaces m v s)

/-- **All relations treat selections alike**, in every model and whatever they are asked about. -/
theorem all_selective (m : NetworkModel) : AllSelective m where
  cloudClusters := .of_matches (cloudClusters_eq m) (Matches.consistent_ofEntities _ _)
  cloudSecgroups := .of_matches (cloudSecgroups_eq m) (Matches.consistent_ofEntities _ _)
  clusterNodes c := .of_matches (value_clusterNodes m · · c) (m.consistent_clusterNodes c)
  clusterInstances c :=
    .of_matches (value_clusterInstances m · · c) (m.consistent_clusterInstances c)
  clusterSecgroups c :=
    .of_matches (value_clusterSecgroups m · · c) (m.consistent_secgroupsInUse _)
  nodeInstances n := .of_matches (nodeInstances_eq m · · n) (m.consistent_nodeInstances n)
  nodeSecgroups n := .of_matches (nodeSecgroups_eq m · · n) (m.consistent_secgroupsInUse _)
  instanceSecgroups i :=
    .of_matches (instanceSecgroups_eq m · · i) (m.consistent_instanceSecgroups i)
  secgroupInstances g :=
    .of_matches (secgroupInstances_eq m · · g) (Matches.consistent_ofEntities _ _)
  secgroupInterfaces g :=
    .of_matches (secgroupInterfaces_eq m · · g) (Matches.consistent_ofEntities _ _)
  vpcInterfaces v := .of_matches (vpcInterfaces_eq m · · v) (Matches.consistent_ofEntities _ _)
  vpcSubnetInterfaces v s :=
    .of_matches (vpcSubnetInterfaces_eq m · · v s) (Matches.consistent_ofEntities _ _)

/-- A node that lists a missing instance: there is a name for it and no entity. -/
example :
    let answer := nodeInstances Sample.model { name := "n", instanceNames := ["i-x", "i-b"] } .all
    (answer .names).names = some ["i-x", "i-b"] ∧
      (answer .entities).entityList.map Instance.name = ["i-b"] := by
  decide

end Traversal

end CloudNet
