import CloudNet.Proofs.InstanceOrder
import CloudNet.Proofs.References
import Mathlib.Data.List.Forall2

/-!
# Names as keys

Nothing in a build asks whether a name is used twice. `DeclaredNames` says what names are worth
then: the entities of a collection have the names that the document declares for it, each as often
as it is declared, and a name that is declared once leads to its entity. So the names of a model are
keys exactly if those of its document are.

* `find?_eq_some_of_count`: a name that occurs once leads to its entity.
* `Instance.name_ofElement_of_ne`: an instance that has a name has the one that is declared. One
  that is declared like a primary interface has none, and the model is refused.
* `named_after_document`: the names of a model are those of its document, collection by collection.
* `every_name_twice`: a model can have each of its names twice.
-/

namespace CloudNet

/-! ## Collections -/

section Collection

variable {α : Type}

/-- Two entities of a name that occurs once are the same. -/
theorem eq_of_count_eq_one {name : α → String} {xs : List α} {x y : α} (hx : x ∈ xs) (hy : y ∈ xs)
    (hname : name y = name x) (h : (xs.map name).count (name x) = 1) : y = x := by
  have hone : (xs.filter fun z => name z = name x).length = 1 := by
    have hsame : (fun n => n == name x) ∘ name = fun z => decide (name z = name x) := by
      funext z
      exact beq_eq_decide _ _
    rwa [List.count, List.countP_map, hsame, List.countP_eq_length_filter] at h
  obtain ⟨z, hz⟩ := List.length_eq_one_iff.mp hone
  have hkept : ∀ w ∈ xs, name w = name x → w = z := by
    intro w hw hwx
    have hmem : w ∈ xs.filter fun z => name z = name x :=
      List.mem_filter.mpr ⟨hw, decide_eq_true hwx⟩
    rw [hz] at hmem
    exact List.mem_singleton.mp hmem
  exact (hkept y hy hname).trans (hkept x hx rfl).symm

/-- **A name that occurs once leads to its entity.** -/
theorem find?_eq_some_of_count {name : α → String} {xs : List α} {x : α} (hx : x ∈ xs)
    (h : (xs.map name).count (name x) = 1) : xs.find? (fun y => name y = name x) = some x := by
  cases hfound : xs.find? fun y => name y = name x with
  | none => exact absurd (decide_eq_true rfl) (List.find?_eq_none.mp hfound x hx)
  | some y =>
    have hname := List.find?_some hfound
    rw [decide_eq_true_eq] at hname
    rw [eq_of_count_eq_one hx (List.mem_of_find?_eq_some hfound) hname h]

/-- Entities that are read from elements have the names that these declare, each as often as it is
declared. A name that is declared once leads to its entity. -/
structure DeclaredNames (name : α → String) (xs : List α) (es : List Element) : Prop where
  names : (xs.map name).Perm (es.map Element.entityName)
  found : ∀ x ∈ xs, (es.map Element.entityName).count (name x) = 1 →
    xs.find? (fun y => name y = name x) = some x ∧ (Lookup.findFrom name (name x) xs 0).1 = some x

namespace DeclaredNames

variable {name : α → String} {xs : List α} {es : List Element}

/-- Having the declared names is enough. -/
theorem of_perm (h : (xs.map name).Perm (es.map Element.entityName)) :
    DeclaredNames name xs es where
  names := h
  found := by
    intro x hx hcount
    rw [← h.count_eq] at hcount
    have hfound := find?_eq_some_of_count hx hcount
    exact ⟨hfound, (Lookup.fst_findFrom_zero name (name x) xs).trans hfound⟩

/-- Entities are named after elements if each of them is. -/
theorem of_map {f : Element → α} (hf : ∀ e, name (f e) = e.entityName) (es : List Element) :
    DeclaredNames name (es.map f) es := by
  refine of_perm (List.Perm.of_eq ?_)
  rw [List.map_map]
  exact List.map_congr_left fun e _ => hf e

/-- **Names are keys exactly if they are declared as keys.** -/
theorem nodup_iff (h : DeclaredNames name xs es) :
    (xs.map name).Nodup ↔ (es.map Element.entityName).Nodup := h.names.nodup_iff

end DeclaredNames

/-- What holds of related elements alike holds of all elements of both lists or of neither. -/
theorem forall_mem_iff_of_forall₂ {β : Type} {p : α → Prop} {q : β → Prop} {xs : List α}
    {ys : List β} (h : List.Forall₂ (fun x y => p x ↔ q y) xs ys) :
    (∀ x ∈ xs, p x) ↔ ∀ y ∈ ys, q y := by
  induction h with
  | nil => simp
  | cons hxy _ ih => rw [List.forall_mem_cons, List.forall_mem_cons, hxy, ih]

end Collection

/-! ## Distinct names -/

/-- The names inside a VPC are keys. -/
@[mk_iff]
structure Vpc.DistinctNames (v : Vpc) : Prop where
  subnets : (v.subnets.map VpcSubnet.name).Nodup
  routeTables : (v.routeTables.map RouteTable.name).Nodup
  natGateways : (v.natGateways.map NatGateway.name).Nodup
  networkAcls : (v.networkAcls.map NetworkAcl.name).Nodup

/-- The names of a model are keys of their collections. -/
@[mk_iff]
structure NetworkModel.DistinctNames (m : NetworkModel) : Prop where
  clusters : (m.clusters.map Cluster.name).Nodup
  instances : (m.instances.map Instance.name).Nodup
  secgroups : (m.secgroups.map SecurityGroup.name).Nodup
  vpcs : (m.vpcs.map Vpc.name).Nodup
  inVpcs : ∀ v ∈ m.vpcs, v.DistinctNames

namespace Element

/-- The elements of a part of a VPC. -/
def partElements (e : Element) (part tag : String) : List Element :=
  e.follow (Route.grandchild part tag)

/-- The names that are declared inside the element of a VPC are keys. -/
@[mk_iff]
structure DistinctParts (e : Element) : Prop where
  subnets : ((e.partElements "subnets" "subnet").map entityName).Nodup
  routeTables : ((e.partElements "routeTables" "routeTable").map entityName).Nodup
  natGateways : ((e.partElements "natGateways" "natGateway").map entityName).Nodup
  networkAcls : ((e.partElements "networkAcls" "networkAcl").map entityName).Nodup

end Element

namespace Document

/-- The elements from which the clusters of a document are read. -/
def clusterElements (d : Document) : List Element :=
  (d.sections.configuration.map (·.follow (Route.propertyItem "clusters" "cluster"))).getD []

/-- The elements from which the security groups of a document are read. -/
def secgroupElements (d : Document) : List Element :=
  Element.entries d.sections.securityGroups "securityGroup"

/-- The elements from which the VPCs of a document are read. -/
def vpcElements (d : Document) : List Element := Element.entries d.sections.vpcs "vpc"

/-- The names that a document declares are keys of their collections. -/
@[mk_iff]
structure DistinctNames (d : Document) : Prop where
  clusters : (d.clusterElements.map Element.entityName).Nodup
  instances : (d.instanceElements.map Element.entityName).Nodup
  secgroups : (d.secgroupElements.map Element.entityName).Nodup
  vpcs : (d.vpcElements.map Element.entityName).Nodup
  inVpcs : ∀ e ∈ d.vpcElements, e.DistinctParts

end Document

instance (v : Vpc) : Decidable v.DistinctNames := decidable_of_iff _ v.distinctNames_iff.symm

instance (m : NetworkModel) : Decidable m.DistinctNames :=
  decidable_of_iff _ m.distinctNames_iff.symm

instance (e : Element) : Decidable e.DistinctParts := decidable_of_iff _ e.distinctParts_iff.symm

instance (d : Document) : Decidable d.DistinctNames := decidable_of_iff _ d.distinctNames_iff.symm

/-! ## Names as they are declared -/

/-- The names inside a VPC are those that its element declares. -/
structure Vpc.NamedAfter (v : Vpc) (e : Element) : Prop where
  subnets : DeclaredNames VpcSubnet.name v.subnets (e.partElements "subnets" "subnet")
  routeTables : DeclaredNames RouteTable.name v.routeTables
    (e.partElements "routeTables" "routeTable")
  natGateways : DeclaredNames NatGateway.name v.natGateways
    (e.partElements "natGateways" "natGateway")
  networkAcls : DeclaredNames NetworkAcl.name v.networkAcls
    (e.partElements "networkAcls" "networkAcl")

theorem Vpc.NamedAfter.distinctNames_iff {v : Vpc} {e : Element} (h : v.NamedAfter e) :
    v.DistinctNames ↔ e.DistinctParts := by
  rw [Vpc.distinctNames_iff, Element.distinctParts_iff, h.subnets.nodup_iff,
    h.routeTables.nodup_iff, h.natGateways.nodup_iff, h.networkAcls.nodup_iff]

theorem Cluster.name_ofElement (e : Element) : (ofElement e).value.name = e.entityName := by
  unfold ofElement
  simp only [Noted.value_bind, Element.value_notedName]
  split
  · rfl
  · rfl

theorem VpcSubnet.name_ofElement (tables : List RouteTable) (e : Element) :
    (ofElement tables e).value.name = e.entityName := by
  unfold ofElement
  dsimp only
  split
  · rfl
  · rfl

/-- What is in a VPC is named as it is declared, and linking leaves the names alone. -/
theorem Vpc.namedAfter_linked (m : NetworkModel) (e : Element) :
    (m.linkVpc (ofElement e).value).value.NamedAfter e where
  subnets := by
    have hlinked : (m.linkVpc (ofElement e).value).value.subnets =
        (ofElement e).value.subnets.map fun s =>
          (m.linkSubnet (ofElement e).value (m.interfacesInVpc (ofElement e).value.name) s).value :=
      Noted.value_mapList _ _
    have hread : (ofElement e).value.subnets = (e.partElements "subnets" "subnet").map fun e' =>
        (VpcSubnet.ofElement (ofElement e).value.routeTables e').value := Noted.value_mapList _ _
    rw [hlinked, hread, List.map_map]
    refine .of_map (fun e' => ?_) _
    exact VpcSubnet.name_ofElement (ofElement e).value.routeTables e'
  routeTables := .of_map (f := RouteTable.ofElement) (fun _ => rfl) _
  natGateways := .of_map (f := NatGateway.ofElement) (fun _ => rfl) _
  networkAcls := .of_map (f := NetworkAcl.ofElement) (fun _ => rfl) _

namespace Instance

/-- An instance that has a name has the one that is declared. -/
theorem name_ofElement_of_ne {e : Element} (h : (ofElement e "").value.name ≠ "") :
    (ofElement e "").value.name = e.entityName := by
  rw [name_ofElement_eq] at h ⊢
  split at h
  · exact absurd rfl h
  · next hdeclared => rw [if_neg hdeclared]

end Instance

namespace NetworkModel

/-- The names of a model are those that its document declares. The VPCs are in the order of the
document. -/
structure NamedAfter (m : NetworkModel) (d : Document) : Prop where
  clusters : DeclaredNames Cluster.name m.clusters d.clusterElements
  instances : DeclaredNames Instance.name m.instances d.instanceElements
  secgroups : DeclaredNames SecurityGroup.name m.secgroups d.secgroupElements
  vpcs : DeclaredNames Vpc.name m.vpcs d.vpcElements
  inVpcs : List.Forall₂ Vpc.NamedAfter m.vpcs d.vpcElements
  findInstance : ∀ i ∈ m.instances, (d.instanceElements.map Element.entityName).count i.name = 1 →
    m.findInstance i.name = .ok (some i)

theorem NamedAfter.distinctNames_iff {m : NetworkModel} {d : Document} (h : m.NamedAfter d) :
    m.DistinctNames ↔ d.DistinctNames := by
  have hinVpcs : (∀ v ∈ m.vpcs, v.DistinctNames) ↔ ∀ e ∈ d.vpcElements, e.DistinctParts :=
    forall_mem_iff_of_forall₂ (h.inVpcs.imp fun v e hv => hv.distinctNames_iff)
  rw [NetworkModel.distinctNames_iff, Document.distinctNames_iff, h.clusters.nodup_iff,
    h.instances.nodup_iff, h.secgroups.nodup_iff, h.vpcs.nodup_iff, hinVpcs]

/-- Filling in the settings reads the clusters, and placing instances leaves them alone. -/
theorem clusters_withSettings (m filled : NetworkModel) (e : Element)
    (hfilled : filled = (m.withSettings e).value) :
    (if filled.isVpcMido then filled.placed else filled).clusters =
      (e.follow (Route.propertyItem "clusters" "cluster")).map fun c =>
        (Cluster.ofElement c).value := by
  have hread : filled.clusters = _ :=
    (congrArg NetworkModel.clusters hfilled).trans (Noted.value_mapList _ _)
  rw [placed_eq]
  split
  · exact hread
  · exact hread

/-- The pass over the settings reads the clusters, if there is a configuration section. -/
theorem clusters_configured {m : NetworkModel} (hm : m.initialized = true) (hc : m.clusters = [])
    (part : Option Element) :
    (m.configured part).clusters =
      ((part.map (·.follow (Route.propertyItem "clusters" "cluster"))).getD []).map fun e =>
        (Cluster.ofElement e).value := by
  unfold configured withConfiguration
  rw [hm]
  cases part with
  | none => exact hc
  | some e =>
    dsimp only
    split
    · exact clusters_withSettings (m.withMido e).value _ e rfl
    · exact clusters_withSettings m _ e rfl

/-- **The clusters of a finished model** are read from its document. -/
theorem clusters_assemble (d : Document) (hostnames : HostnameCache) :
    (assemble d true hostnames).value.clusters =
      d.clusterElements.map fun e => (Cluster.ofElement e).value := by
  have hblank : (header d).Blank := blank_header d _
  rw [value_assemble_eq, value_linked]
  refine clusters_configured ?_ ?_ d.sections.configuration
  · rw [value_withEntities hblank]
    exact hblank.initialized
  · rw [value_withEntities hblank]
    exact hblank.clusters

/-- The instances of a valid model are read under the names that are declared. -/
theorem Assembled.name_ofElement {d : Document} {m : NetworkModel} (h : Assembled d.sections m)
    (hvalid : m.Valid) {e : Element} (he : e ∈ d.instanceElements) :
    (Instance.ofElement e "").value.name = e.entityName := by
  have hmem : (Instance.ofElement e "").value.name ∈ m.instances.map Instance.name :=
    h.perm_names.mem_iff.mpr (List.mem_map_of_mem he)
  obtain ⟨i, hi, hname⟩ := List.mem_map.mp hmem
  refine Instance.name_ofElement_of_ne ?_
  rw [← hname]
  exact hvalid.name_ne_empty hi

/-- The instances of a valid model have the names that are declared, in some order. -/
theorem Assembled.declaredNames_instances {d : Document} {m : NetworkModel}
    (h : Assembled d.sections m) (hvalid : m.Valid) :
    DeclaredNames Instance.name m.instances d.instanceElements := by
  refine .of_perm (h.perm_names.trans (List.Perm.of_eq ?_))
  exact List.map_congr_left fun e he => h.name_ofElement hvalid he

/-- **Names are as declared**: each collection of a model has the names that its document declares
there, so they are keys exactly if they are declared as keys. -/
theorem named_after_document {d : Document} {hostnames : HostnameCache} {m : NetworkModel}
    (h : (ofDocument d .all hostnames).value = .ok m) :
    m.NamedAfter d ∧ (m.DistinctNames ↔ d.DistinctNames) := by
  have ha := assembled_of_ofDocument h
  obtain ⟨-, hm, hvalid⟩ := (value_ofDocument_eq_ok_iff (by decide)).mp h
  have hclusters : m.clusters = d.clusterElements.map fun e => (Cluster.ofElement e).value := by
    rw [hm]
    exact clusters_assemble d hostnames
  have hsecgroups : m.secgroups = d.secgroupElements.map fun e =>
      (SecurityGroup.ofElement e).value.withMembers m.instances m.interfaces :=
    ha.secgroups.trans List.map_map
  have hvpcs : m.vpcs = d.vpcElements.map fun e => (m.linkVpc (Vpc.ofElement e).value).value :=
    ha.vpcs.trans List.map_map
  have hinstances := ha.declaredNames_instances hvalid
  have hnamed : m.NamedAfter d := {
    clusters := by
      rw [hclusters]
      exact .of_map Cluster.name_ofElement _
    instances := hinstances
    secgroups := by
      rw [hsecgroups]
      exact .of_map (fun e => by rfl) _
    vpcs := by
      rw [hvpcs]
      exact .of_map (fun e => by rfl) _
    inVpcs := by
      rw [hvpcs]
      refine List.forall₂_map_left_iff.mpr (List.forall₂_same.mpr fun e _ => ?_)
      exact Vpc.namedAfter_linked m e
    findInstance := by
      intro i hi hcount
      rw [← hinstances.names.count_eq] at hcount
      obtain ⟨j, hj, hname, hfound⟩ := ha.searchable.exactSearch.found i.name ⟨i, hi, rfl⟩
      rw [hfound, eq_of_count_eq_one hi hj hname hcount] }
  exact ⟨hnamed, hnamed.distinctNames_iff⟩

/-- The names of the small network are keys, and so its last instance is found by its name. -/
theorem named_after_network :
    (ofDocument Sample.network .all {}).value = .ok Sample.model ∧
    Sample.network.DistinctNames ∧ Sample.model.DistinctNames ∧
    ∃ i, Sample.model.instances.getLast? = some i ∧ i.name = "i-b" ∧
      Sample.model.findInstance "i-b" = .ok (some i) := by
  obtain ⟨hnamed, hiff⟩ := named_after_document Sample.ofDocument_network
  have hdeclared : Sample.network.DistinctNames := by decide +kernel
  obtain ⟨i, hlast, hname⟩ :
      ∃ i, Sample.model.instances.getLast? = some i ∧ i.name = "i-b" := ⟨_, rfl, rfl⟩
  have honce : (Sample.network.instanceElements.map Element.entityName).count i.name = 1 := by
    rw [hname]
    decide +kernel
  have hfound := hnamed.findInstance i (List.mem_of_getLast? hlast) honce
  rw [hname] at hfound
  exact ⟨Sample.ofDocument_network, hdeclared, hiff.mpr hdeclared, i, hlast, hname, hfound⟩

end NetworkModel

/-! ## Names that occur twice -/

namespace Sample

/-- Two entities of one name for two accounts. -/
def twice (tag name : String) (content : List Content) : List Content :=
  ["first", "second"].map fun account => entity tag name (field "ownerId" account :: content)

/-- A network in which every name is declared twice. -/
def doubled : Document where
  root := ⟨"network-data", [{ name := "version", value := "7" }], [
    part "configuration" [
      setting "mode" "VPCMIDO", setting "enabledCLCIp" "10.0.0.1",
      setting "instanceDNSDomain" "cloud.internal", setting "instanceDNSServers" "10.0.0.2",
      entity "property" "clusters" (["10.0.0.3", "10.0.0.4"].map fun address =>
        entity "cluster" "one" [setting "enabledCCIp" address, setting "macPrefix" "d0:0d"])],
    part "instances" (twice "instance" "i-a" [
      field "privateIp" "10.1.0.4", part "securityGroups" [field "value" "web"]]),
    part "securityGroups" (twice "securityGroup" "web" []),
    part "vpcs" (twice "vpc" "vpc-1" [
      part "routeTables" (twice "routeTable" "rtb-1" []),
      part "networkAcls" (twice "networkAcl" "acl-1" []),
      part "natGateways" (twice "natGateway" "nat-1" [
        field "privateIp" "10.1.0.5", field "vpc" "vpc-1", field "subnet" "subnet-1"]),
      part "subnets" (twice "subnet" "subnet-1" [
        field "routeTable" "rtb-1", field "networkAcl" "acl-1"])])]⟩

/-- The model of the network. References lead to the first entity of a name, and each instance is a
member of both groups. -/
def doubledModel : NetworkModel where
  initialized := true
  mode := "VPCMIDO"
  version := "7"
  controllerIp := 167772161
  dnsDomain := "cloud.internal"
  dnsServers := [167772162]
  clusters := [167772163, 167772164].map fun controllerIp =>
    { name := "one", controllerIp, macPrefix := "d0:0d" }
  instances := ["first", "second"].map fun accountId =>
    { name := "i-a", accountId, privateIp := 167837700, secgroupNames := ["web"]
      secgroups := [0, 1] }
  sortedInstances := true
  secgroups := ["first", "second"].map fun accountId =>
    { name := "web", accountId, instances := [0, 1] }
  vpcs := ["first", "second"].map fun accountId =>
    { name := "vpc-1", accountId
      routeTables := ["first", "second"].map fun accountId => { name := "rtb-1", accountId }
      networkAcls := ["first", "second"].map fun accountId => { name := "acl-1", accountId }
      natGateways := ["first", "second"].map fun accountId =>
        { name := "nat-1", accountId, privateIp := 167837701, vpc := "vpc-1", subnet := "subnet-1" }
      subnets := ["first", "second"].map fun accountId =>
        { name := "subnet-1", accountId, networkAclName := "acl-1", routeTableName := "rtb-1"
          routeTable := some 0, networkAcl := some 0 } }

/-- The instances of the network as they are read. -/
def doubledInstances : List Instance := ["first", "second"].map fun accountId =>
  { name := "i-a", accountId, privateIp := 167837700, secgroupNames := ["web"] }

/-- **The build of the network succeeds.** -/
theorem ofDocument_doubled :
    (NetworkModel.ofDocument doubled .all {}).value = .ok doubledModel := by
  have hread : NetworkModel.unsorted doubled = doubledInstances := by decide +kernel
  have hsorted : Instance.byName (NetworkModel.unsorted doubled) = doubledInstances := by
    rw [hread]
    simp [doubledInstances, Instance.byName, List.mergeSort, List.MergeSort.Internal.splitInTwo]
  exact NetworkModel.ofDocument_of_sorted rfl hsorted (by decide +kernel) (by decide +kernel)

end Sample

namespace NetworkModel

/-- **No collection is safe from a name that is there twice**, and what is looked up by such a name
is the first of the two. -/
theorem every_name_twice :
    (ofDocument Sample.doubled .all {}).value = .ok Sample.doubledModel ∧
    ¬ (Sample.doubledModel.clusters.map Cluster.name).Nodup ∧
    ¬ (Sample.doubledModel.instances.map Instance.name).Nodup ∧
    ¬ (Sample.doubledModel.secgroups.map SecurityGroup.name).Nodup ∧
    ¬ (Sample.doubledModel.vpcs.map Vpc.name).Nodup ∧
    (∀ v ∈ Sample.doubledModel.vpcs,
      ¬ (v.subnets.map VpcSubnet.name).Nodup ∧ ¬ (v.routeTables.map RouteTable.name).Nodup ∧
      ¬ (v.natGateways.map NatGateway.name).Nodup ∧
      ¬ (v.networkAcls.map NetworkAcl.name).Nodup) ∧
    Sample.doubledModel.secgroups.map SecurityGroup.accountId = ["first", "second"] ∧
    Sample.doubledModel.secgroups.map (fun g =>
      (Sample.doubledModel.secgroup? g.name).map SecurityGroup.accountId) =
        [some "first", some "first"] := by
  refine ⟨Sample.ofDocument_doubled, ?_⟩
  decide

end NetworkModel

end CloudNet
