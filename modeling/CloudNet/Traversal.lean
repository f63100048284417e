import CloudNet.Assembly.Links
import CloudNet.Relation

/-!
# Traversals

The relations as walks over a model. A walk starts with an answer that has no matches, in the form
that is wanted, and records every match with a selected name on its way. Names, entities and
positions are resolved while it goes; a name without an entity is recorded as a name only, and a
position without an entity is passed over.
-/

namespace CloudNet

namespace Answer

variable {α : Type}

/-- An answer without matches, in the form that is wanted. -/
def empty (want : Want) : Answer α where
  names := if want.wantsNames then some [] else none
  entities := if want.wantsEntities then some [] else none

/-- The answer with one more match. A name that has no entity is reported all the same. -/
def push (a : Answer α) (name : String) (entity? : Option α) : Answer α where
  names := a.names.map (· ++ [name])
  entities := a.entities.map (· ++ entity?.toList)

/-- The answer with one more match if its name is selected. -/
def record (a : Answer α) (selection : Selection) (name : String) (entity? : Option α) : Answer α :=
  if selection.admits name then a.push name entity? else a

/-- Record entities under their own names. -/
def recordEntities (a : Answer α) (selection : Selection) (name : α → String) (xs : List α) :
    Answer α :=
  xs.foldl (fun a x => a.record selection (name x) (some x)) a

/-- Record names with the entities that `find` knows for them. -/
def recordNames (a : Answer α) (selection : Selection) (find : String → Option α)
    (names : List String) : Answer α :=
  names.foldl (fun a n => a.record selection n (find n)) a

end Answer

namespace Traversal

variable (m : NetworkModel)

/-- The security groups that some of the instances name. -/
def secgroupsInUse (instances : List Instance) (selection : Selection) (want : Want) :
    Answer SecurityGroup :=
  m.secgroups.foldl
    (fun a g =>
      if instances.any (·.hasSecgroup g.name) then a.record selection g.name (some g) else a)
    (.empty want)

/-- The interfaces at the given positions. -/
def interfacesAt (positions : List Nat) (selection : Selection) (want : Want) : Answer Instance :=
  (Answer.empty want).recordEntities selection Instance.name (atPositions m.interfaces positions)

/-- The clusters of the cloud. -/
def cloudClusters (selection : Selection) (want : Want) : Answer Cluster :=
  (Answer.empty want).recordEntities selection Cluster.name m.clusters

/-- The security groups of the cloud. -/
def cloudSecgroups (selection : Selection) (want : Want) : Answer SecurityGroup :=
  (Answer.empty want).recordEntities selection SecurityGroup.name m.secgroups

/-- The nodes of a cluster. -/
def clusterNodes (c : Cluster) (selection : Selection) (want : Want) : Noted (Answer Node) := do
  match ← m.clusterNamed c.name with
  | none => return .empty want
  | some own => return (Answer.empty want).recordEntities selection Node.name own.nodes

/-- The instances placed on the nodes of a cluster, node after node. -/
def clusterInstances (c : Cluster) (selection : Selection) (want : Want) :
    Noted (Answer Instance) := do
  match ← m.clusterNamed c.name with
  | none => return .empty want
  | some own =>
    return own.nodes.foldl
      (fun a n => a.recordNames selection m.instanceNamed? n.instanceNames) (.empty want)

/-- The security groups of the instances of a cluster, whatever is selected of the groups. -/
def clusterSecgroups (c : Cluster) (selection : Selection) (want : Want) :
    Noted (Answer SecurityGroup) := do
  let instances ← clusterInstances m c .all .entities
  return secgroupsInUse m instances.entityList selection want

/-- The instances placed on a node. -/
def nodeInstances (n : Node) (selection : Selection) (want : Want) : Answer Instance :=
  (Answer.empty want).recordNames selection m.instanceNamed? n.instanceNames

/-- The security groups of the instances placed on a node, whatever is selected of the groups. -/
def nodeSecgroups (n : Node) (selection : Selection) (want : Want) : Answer SecurityGroup :=
  secgroupsInUse m (nodeInstances m n .all .entities).entityList selection want

/-- The security groups that an instance names. -/
def instanceSecgroups (i : Instance) (selection : Selection) (want : Want) :
    Answer SecurityGroup :=
  (Answer.empty want).recordNames selection m.secgroupNamed? i.secgroupNames

/-- The instances that are members of a security group. -/
def secgroupInstances (g : SecurityGroup) (selection : Selection) (want : Want) :
    Answer Instance :=
  (Answer.empty want).recordEntities selection Instance.name (atPositions m.instances g.instances)

/-- The interfaces that are members of a security group. -/
def secgroupInterfaces (g : SecurityGroup) (selection : Selection) (want : Want) :
    Answer Instance :=
  interfacesAt m g.interfaces selection want

/-- The interfaces in a VPC. -/
def vpcInterfaces (v : Vpc) (selection : Selection) (want : Want) : Answer Instance :=
  interfacesAt m (m.interfacesInVpc v.name) selection want

/-- The interfaces in a subnet of a VPC. -/
def vpcSubnetInterfaces (v : Vpc) (s : VpcSubnet) (selection : Selection) (want : Want) :
    Answer Instance :=
  interfacesAt m (m.interfacesInSubnet s.name (m.interfacesInVpc v.name)) selection want

end Traversal

end CloudNet
