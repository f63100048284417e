import CloudNet.Lookup

/-!
# Relations

"Which X belong to Y" over a model. A relation lists matches, each a name and the entity of that
name if the model has one. `Matches.answer` then applies a selection of names and hands out names,
entities or both, so all relations treat selections alike. `CloudNet.Traversal` finds the answers
without a list of matches.
-/

namespace CloudNet

/-- Which names are wanted. -/
inductive Selection where
  | all
  | named (names : List String)
  deriving DecidableEq, Repr

namespace Selection

/-- The selection of a list of names; an empty list, or one that starts with `*`, selects all. -/
def ofNames : List String → Selection
  | [] => all
  | name :: names => if name = "*" then all else named (name :: names)

/-- The name is selected. -/
def admits : Selection → String → Bool
  | all, _ => true
  | named names, name => names.contains name

end Selection

/-- What is wanted of the matches. -/
inductive Want where
  | names | entities | both
  deriving DecidableEq, Repr

namespace Want

/-- Names are wanted. -/
def wantsNames : Want → Bool
  | entities => false
  | _ => true

/-- Entities are wanted. -/
def wantsEntities : Want → Bool
  | names => false
  | _ => true

end Want

/-- A name that a relation reports, and the entity of that name if there is one. -/
structure Match (α : Type) where
  name : String
  entity : Option α

/-- What a relation hands out: what was asked for is there, the rest is not. -/
structure Answer (α : Type) where
  names : Option (List String)
  entities : Option (List α)

namespace Answer

variable {α : Type}

/-- All of the entities under their own names, in the form that is wanted. -/
def whole (name : α → String) (xs : List α) (want : Want) : Answer α where
  names := if want.wantsNames then some (xs.map name) else none
  entities := if want.wantsEntities then some xs else none

/-- The names, or none if they were not asked for. -/
def nameList (a : Answer α) : List String := a.names.getD []

/-- The entities, or none if they were not asked for. -/
def entityList (a : Answer α) : List α := a.entities.getD []

/-- The number of names or, without names, of entities. -/
def length (a : Answer α) : Nat :=
  match a.names with
  | some names => names.length
  | none => a.entityList.length

end Answer

/-- The matches of a relation, in order. -/
abbrev Matches (α : Type) := List (Match α)

namespace Matches

variable {α : Type}

/-- Entities that match under their own names. -/
def ofEntities (name : α → String) (xs : List α) : Matches α := xs.map fun x => ⟨name x, some x⟩

/-- Names that match, with the entities that `find` knows for them. -/
def ofNames (find : String → Option α) (names : List String) : Matches α :=
  names.map fun n => ⟨n, find n⟩

/-- The entities of the matches; names without an entity are passed over. -/
def entities (ms : Matches α) : List α := ms.filterMap Match.entity

/-- The selected matches in the form that is wanted. -/
def answer (ms : Matches α) (selection : Selection) (want : Want) : Answer α :=
  let selected := ms.filter fun m => selection.admits m.name
  { names := if want.wantsNames then some (selected.map Match.name) else none
    entities := if want.wantsEntities then some (entities selected) else none }

@[simp] theorem entities_ofEntities (name : α → String) (xs : List α) :
    entities (ofEntities name xs) = xs := by
  rw [entities, ofEntities, List.filterMap_map]
  exact List.filterMap_some

/-- Nothing is left out of entities under their own names if all names are selected. -/
theorem answer_ofEntities_all (name : α → String) (xs : List α) (want : Want) :
    (ofEntities name xs).answer .all want = .whole name xs want := by
  have hall : (ofEntities name xs).filter (fun m => Selection.all.admits m.name) =
      ofEntities name xs := List.filter_eq_self.mpr fun _ _ => rfl
  have hnames : (ofEntities name xs).map Match.name = xs.map name := by
    rw [ofEntities, List.map_map]
    rfl
  unfold answer Answer.whole
  simp only [hall, hnames, entities_ofEntities]

end Matches

namespace NetworkModel

/-- The first instance of a name. -/
def instanceNamed? (m : NetworkModel) (name : String) : Option Instance :=
  m.instances.find? (·.name = name)

/-- The first security group of a name. -/
def secgroupNamed? (m : NetworkModel) (name : String) : Option SecurityGroup :=
  m.secgroups.find? (·.name = name)

/-- The model's own cluster of a name. It is noted if there is none. -/
def clusterNamed (m : NetworkModel) (name : String) : Noted (Option Cluster) := do
  let found := m.clusters.find? (·.name = name)
  Noted.tellIf found.isNone (.noSuchCluster name)
  return found

/-- The security groups that some of the instances name, in the order of the model. -/
def secgroupsInUse (m : NetworkModel) (instances : List Instance) : Matches SecurityGroup :=
  .ofEntities SecurityGroup.name
    (m.secgroups.filter fun g => instances.any (·.hasSecgroup g.name))

/-- The clusters of the cloud. -/
def cloudClusters (m : NetworkModel) : Matches Cluster := .ofEntities Cluster.name m.clusters

/-- The security groups of the cloud. -/
def cloudSecgroups (m : NetworkModel) : Matches SecurityGroup :=
  .ofEntities SecurityGroup.name m.secgroups

/-- The nodes of a cluster. -/
def clusterNodes (m : NetworkModel) (c : Cluster) : Noted (Matches Node) := do
  let own ← m.clusterNamed c.name
  return .ofEntities Node.name ((own.map Cluster.nodes).getD [])

/-- The instances placed on a node. -/
def nodeInstances (m : NetworkModel) (n : Node) : Matches Instance :=
  .ofNames m.instanceNamed? n.instanceNames

/-- The instances placed on the nodes of a cluster. -/
def clusterInstances (m : NetworkModel) (c : Cluster) : Noted (Matches Instance) := do
  let own ← m.clusterNamed c.name
  return ((own.map Cluster.nodes).getD []).flatMap m.nodeInstances

/-- The security groups of the instances of a cluster. -/
def clusterSecgroups (m : NetworkModel) (c : Cluster) : Noted (Matches SecurityGroup) := do
  return m.secgroupsInUse (← m.clusterInstances c).entities

/-- The security groups of the instances placed on a node. -/
def nodeSecgroups (m : NetworkModel) (n : Node) : Matches SecurityGroup :=
  m.secgroupsInUse (m.nodeInstances n).entities

/-- The security groups that an instance names. -/
def instanceSecgroups (m : NetworkModel) (i : Instance) : Matches SecurityGroup :=
  .ofNames m.secgroupNamed? i.secgroupNames

/-- The instances that are members of a security group. -/
def secgroupInstances (m : NetworkModel) (g : SecurityGroup) : Matches Instance :=
  .ofEntities Instance.name (atPositions m.instances g.instances)

/-- The interfaces that are members of a security group. -/
def secgroupInterfaces (m : NetworkModel) (g : SecurityGroup) : Matches Instance :=
  .ofEntities Instance.name (atPositions m.interfaces g.interfaces)

/-- The interfaces in a VPC. -/
def vpcInterfaces (m : NetworkModel) (v : Vpc) : Matches Instance :=
  .ofEntities Instance.name (m.interfaces.filter (·.vpc = v.name))

/-- The interfaces in a subnet of a VPC. -/
def vpcSubnetInterfaces (m : NetworkModel) (v : Vpc) (s : VpcSubnet) : Matches Instance :=
  .ofEntities Instance.name
    ((m.interfaces.filter (·.vpc = v.name)).filter (·.subnet = s.name))

end NetworkModel

end CloudNet
