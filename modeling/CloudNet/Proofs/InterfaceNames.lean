import CloudNet.Proofs.DeclaredNames
import Mathlib.Data.List.Perm.Basic

/-!
# Instances and interfaces by name

One reader serves the elements of instances and those of interfaces, and the name of an element
decides which record it gives: that of an interface if the name is the identifier of one. So an
interface that is named otherwise loses its identifier and its device index, and an instance with
such a name is taken for an interface, though never for a primary one.

* `Instance.readAs_ofElement`: what the reader makes of an element.
* `Instance.ReadAs.isInterface_eq`: the name of the element decides.
* `Assembled.readAs_interfaces`, `Assembled.readAs_instances`: the records of a finished model next
  to their elements.
* `kinds_by_name`: instances and interfaces are told apart exactly as far as the document names them
  apart.
* `each_taken_for_the_other`: a model in which they are confused.
-/

namespace CloudNet

/-! ## One reader for both -/

namespace Instance

/-- The element is named like an interface, and declares that it is the primary one. -/
def DeclaresPrimary (e : Element) : Prop :=
  isInterfaceName e.entityName ∧ e.intAt (Route.child "deviceIndex") = 0

instance (e : Element) : Decidable (DeclaresPrimary e) := instDecidableAnd

/-- The record has what its element declares: `owner` is the name of the instance that an interface
belongs to, and empty for an instance. -/
structure ReadAs (i : Instance) (e : Element) (owner : String) : Prop where
  name : i.name = if DeclaresPrimary e then owner else e.entityName
  ifname : i.ifname = if isInterfaceName e.entityName then e.entityName else ""
  deviceIndex : i.deviceIndex =
    if isInterfaceName e.entityName then e.intAt (Route.child "deviceIndex") else 0
  instanceName : i.instanceName = owner

/-- **What the reader makes of an element.** -/
theorem readAs_ofElement (e : Element) (owner : String) :
    (ofElement e owner).value.ReadAs e owner := by
  refine ⟨name_ofElement_eq e owner, ?_, ?_, (unlinked_ofElement e owner).instanceName⟩
  -- both fields branch where the reader does
  all_goals
    unfold ofElement
    by_cases hinterface : isInterfaceName e.entityName = true
    · simp only [Noted.value_bind, Element.value_notedName, Noted.value_pure, hinterface, if_true]
      rfl
    · simp only [Noted.value_bind, Element.value_notedName, Noted.value_pure, hinterface, if_false,
        Bool.false_eq_true]

namespace ReadAs

variable {i : Instance} {e : Element} {owner : String}

/-- **The name of the element decides** whether the record is that of an interface. -/
theorem isInterface_eq (h : i.ReadAs e owner) : i.isInterface = isInterfaceName e.entityName := by
  unfold isInterface
  rw [h.ifname]
  cases hname : isInterfaceName e.entityName with
  | false => rfl
  | true =>
    rw [if_pos rfl, bne_iff_ne]
    intro hempty
    rw [hempty] at hname
    exact absurd hname (by decide)

/-- Members and nodes leave alone what the element declares. -/
theorem finished (h : i.ReadAs e owner) (m : NetworkModel) (groups : List SecurityGroup)
    (listedName : String) : (m.place (i.withSecgroups groups 0) listedName).ReadAs e owner := by
  obtain ⟨node, hnode⟩ := m.place_eq (i.withSecgroups groups 0) listedName
  rw [hnode]
  exact ⟨h.name, h.ifname, h.deviceIndex, h.instanceName⟩

/-- The name of a named instance is the one that its element declares. If it is taken for an
interface, then not for a primary one. -/
theorem of_named (h : i.ReadAs e "") (hname : i.name ≠ "") :
    i.name = e.entityName ∧ i.isSecondary = isInterfaceName e.entityName := by
  have hread := h.name
  split at hread
  · exact absurd hread hname
  · next hdeclared =>
    refine ⟨hread, ?_⟩
    unfold isSecondary
    rw [h.isInterface_eq, h.deviceIndex]
    cases hkind : isInterfaceName e.entityName with
    | false => rfl
    | true =>
      rw [if_pos rfl, Bool.true_and, bne_iff_ne]
      exact fun hindex => hdeclared ⟨hkind, hindex⟩

end ReadAs

/-- Instances are numbered next to their elements. -/
theorem readAs_numbered (start : Nat) (withInterfaces : Bool) (es : List Element) :
    List.Forall₂ (fun i e => i.ReadAs e "")
      (numbered start (es.map fun e => (ofElementWithInterfaces withInterfaces e).value)) es := by
  induction es generalizing start with
  | nil => exact .nil
  | cons e es ih =>
    obtain ⟨hname, hifname, hindex, howner⟩ := readAs_ofElement e ""
    exact .cons ⟨hname, hifname, hindex, howner⟩ (ih _)

end Instance

/-! ## The elements of interfaces -/

/-- The elements from which interfaces are read, in order, each after the element of its instance.
Only a network of tenant networks has interfaces. -/
def Document.interfaceElements (d : Document) : List (Element × Element) :=
  if d.mode = NetMode.vpcMido.name then
    d.instanceElements.flatMap fun e =>
      (e.follow (Route.grandchild "networkInterfaces" "networkInterface")).map fun x => (e, x)
  else []

namespace NetworkModel

theorem isVpcMido_iff {m : NetworkModel} : m.isVpcMido = true ↔ m.mode = NetMode.vpcMido.name := by
  constructor
  · intro h
    exact (NetMode.name_of_ofName? (beq_iff_eq.mp h)).symm
  · intro h
    rw [isVpcMido, netMode?, h, NetMode.ofName?_name]
    rfl

/-- The settings leave the mode that the header gives. -/
theorem mode_assemble (d : Document) (hostnames : HostnameCache) :
    (assemble d true hostnames).value.mode = d.mode := by
  have hblank : (header d).Blank := blank_header d _
  have hentities : ((header d).withEntities d.sections).value.mode = d.mode := by
    rw [value_withEntities hblank, mode_header]
  have hclusters : ((header d).withEntities d.sections).value.clusters = [] := by
    rw [value_withEntities hblank]
    exact hblank.clusters
  rw [value_assemble_eq, value_linked]
  exact (configured_orKeep hclusters d.sections.configuration).mode.trans hentities

namespace Assembled

variable {d : Document} {m : NetworkModel}

/-- The interfaces of a section, each read for the instance that it stands in. -/
theorem flatMap_snd_listed (h : Assembled d.sections m) (hmode : m.mode = d.mode)
    (hvalid : m.Valid) :
    (Instance.listed m.isVpcMido d.sections.instances).flatMap Prod.snd =
      d.interfaceElements.map fun p => (Instance.ofElement p.2 p.1.entityName).value := by
  unfold Document.interfaceElements
  split
  · next hmido =>
    have hlisted : m.isVpcMido = true := isVpcMido_iff.mpr (hmode.trans hmido)
    rw [hlisted, List.map_flatMap]
    unfold Instance.listed
    rw [List.flatMap_map]
    refine List.flatMap_congr fun e he => ?_
    unfold Instance.ofElementWithInterfaces
    simp only [Noted.value_bind, Noted.value_mapList, Noted.value_pure, if_true]
    rw [h.name_ofElement hvalid he, List.map_map]
    rfl
  · next hmido =>
    have hlisted : m.isVpcMido = false := isVpcMido_eq_false (by rwa [hmode])
    rw [hlisted, Instance.flatMap_snd_listed_false, List.map_nil]

/-- **The interfaces of a finished model** next to their elements. -/
theorem readAs_interfaces (h : Assembled d.sections m) (hmode : m.mode = d.mode)
    (hvalid : m.Valid) :
    List.Forall₂ (fun i p => i.ReadAs p.2 p.1.entityName) m.interfaces d.interfaceElements := by
  rw [h.interfaces, h.flatMap_snd_listed hmode hvalid, List.map_map]
  refine List.forall₂_map_left_iff.mpr (List.forall₂_same.mpr fun p _ => ?_)
  exact (Instance.readAs_ofElement p.2 p.1.entityName).finished m m.secgroups _

/-- **The instances of a finished model** next to their elements, which are in another order. -/
theorem readAs_instances (h : Assembled d.sections m) :
    ∃ es, es.Perm d.instanceElements ∧
      List.Forall₂ (fun i e => i.ReadAs e "") m.instances es := by
  have hsorted : ∀ xs : List Instance, (Instance.byName xs).Perm xs :=
    fun xs => List.mergeSort_perm xs _
  obtain ⟨es, hread, hperm⟩ := List.perm_comp_forall₂ (hsorted _)
    (Instance.readAs_numbered 0 m.isVpcMido d.instanceElements)
  refine ⟨es, hperm, ?_⟩
  rw [h.instances]
  exact List.forall₂_map_left_iff.mpr (hread.imp fun i e hi => hi.finished m m.secgroups i.name)

end Assembled

/-! ## Kinds -/

/-- The instances and the interfaces of a model are what the names in its document make them. -/
structure KindsByName (m : NetworkModel) (d : Document) : Prop where
  /-- The interfaces are in the order of the document. -/
  interfaces : List.Forall₂
    (fun i p => i.ReadAs p.2 p.1.entityName ∧ i.isInterface = isInterfaceName p.2.entityName)
    m.interfaces d.interfaceElements
  /-- The instances are in another order, and none is taken for a primary interface. -/
  instances : ∃ es, es.Perm d.instanceElements ∧ List.Forall₂
    (fun i e => i.ReadAs e "" ∧ i.name = e.entityName ∧
      i.isInterface = isInterfaceName e.entityName ∧
      i.isSecondary = isInterfaceName e.entityName)
    m.instances es
  interfacesTold : (∀ i ∈ m.interfaces, i.isInterface = true) ↔
    ∀ p ∈ d.interfaceElements, isInterfaceName p.2.entityName = true
  instancesTold : (∀ i ∈ m.instances, i.isInterface = false) ↔
    ∀ e ∈ d.instanceElements, isInterfaceName e.entityName = false

/-- **Names decide what is an interface**: the records of a model are told apart exactly as far as
the document names instances and interfaces apart. -/
theorem kinds_by_name {d : Document} {hostnames : HostnameCache} {m : NetworkModel}
    (h : (ofDocument d .all hostnames).value = .ok m) : m.KindsByName d := by
  have ha := assembled_of_ofDocument h
  obtain ⟨-, hm, hvalid⟩ := (value_ofDocument_eq_ok_iff (by decide)).mp h
  have hmode : m.mode = d.mode := by
    rw [hm]
    exact mode_assemble d hostnames
  have hinterfaces := ha.readAs_interfaces hmode hvalid
  obtain ⟨es, hperm, hinstances⟩ := ha.readAs_instances
  have hnamed := (List.forall₂_and_left _ _).mpr ⟨fun i hi => hvalid.name_ne_empty hi, hinstances⟩
  refine ⟨hinterfaces.imp fun i p hi => ⟨hi, hi.isInterface_eq⟩, ⟨es, hperm, ?_⟩, ?_, ?_⟩
  · refine hnamed.imp fun i e hi => ?_
    obtain ⟨hname, hsecondary⟩ := hi.2.of_named hi.1
    exact ⟨hi.2, hname, hi.2.isInterface_eq, hsecondary⟩
  · refine forall_mem_iff_of_forall₂ (hinterfaces.imp fun i p hi => ?_)
    rw [hi.isInterface_eq]
  · have hsame := forall_mem_iff_of_forall₂ (hinstances.imp fun i e hi =>
      show i.isInterface = false ↔ isInterfaceName e.entityName = false by rw [hi.isInterface_eq])
    rw [hsame]
    exact forall_congr' fun e => imp_congr_left hperm.mem_iff

/-- In the small network all are named for what they are, so they are told apart. -/
theorem kinds_of_network :
    (ofDocument Sample.network .all {}).value = .ok Sample.model ∧
    Sample.model.KindsByName Sample.network ∧
    Sample.network.interfaceElements.map (fun p => p.2.entityName) = ["eni-1", "eni-2", "eni-3"] ∧
    (∀ i ∈ Sample.model.interfaces, i.isInterface = true) ∧
    ∀ i ∈ Sample.model.instances, i.isInterface = false := by
  have hkinds := kinds_by_name Sample.ofDocument_network
  exact ⟨Sample.ofDocument_network, hkinds, by decide +kernel,
    hkinds.interfacesTold.mpr (by decide +kernel), hkinds.instancesTold.mpr (by decide +kernel)⟩

end NetworkModel

/-! ## Misleading names -/

namespace Sample

/-- A network of tenant networks in which an instance has the name of an interface, and its
interface has not. -/
def misnamed : Document where
  root := ⟨"network-data", [{ name := "version", value := "7" }], [
    part "configuration" [
      setting "mode" "VPCMIDO", setting "enabledCLCIp" "10.0.0.1",
      setting "instanceDNSDomain" "cloud.internal", setting "instanceDNSServers" "10.0.0.2"],
    part "instances" [
      entity "instance" "eni-5" [
        field "ownerId" "account", field "privateIp" "10.1.0.4", field "deviceIndex" "1",
        part "securityGroups" [field "value" "web"],
        part "networkInterfaces" [nic "nic-1" "10.1.0.4" "1" "subnet-1" []]]]]⟩

/-- The model of the network. -/
def misnamedModel : NetworkModel where
  initialized := true
  mode := "VPCMIDO"
  version := "7"
  controllerIp := 167772161
  dnsDomain := "cloud.internal"
  dnsServers := [167772162]
  instances := [
    { name := "eni-5", ifname := "eni-5", accountId := "account", privateIp := 167837700
      secgroupNames := ["web"], deviceIndex := 1, interfaces := [0] }]
  interfaces := [
    { name := "nic-1", instanceName := "eni-5", accountId := "account", privateIp := 167837700
      vpc := "vpc-1", subnet := "subnet-1" }]
  sortedInstances := true

/-- **The build of the network succeeds.** -/
theorem ofDocument_misnamed :
    (NetworkModel.ofDocument misnamed .all {}).value = .ok misnamedModel := by
  have hsorted : Instance.byName (NetworkModel.unsorted misnamed) =
      NetworkModel.unsorted misnamed := List.mergeSort_singleton _
  exact NetworkModel.ofDocument_of_sorted rfl hsorted (by decide +kernel) (by decide +kernel)

end Sample

namespace NetworkModel

/-- **Names can mislead**: here the instance is taken for an interface, and the interface for an
instance, so its identifier and its device index are lost. -/
theorem each_taken_for_the_other :
    (ofDocument Sample.misnamed .all {}).value = .ok Sample.misnamedModel ∧
    Sample.misnamed.instanceElements.map Element.entityName = ["eni-5"] ∧
    Sample.misnamedModel.instances.map (fun i => (i.ifname, i.isInterface)) = [("eni-5", true)] ∧
    Sample.misnamed.interfaceElements.map
      (fun p => (p.2.entityName, p.2.intAt (Route.child "deviceIndex"))) = [("nic-1", 1)] ∧
    Sample.misnamedModel.interfaces.map (fun i => (i.ifname, i.deviceIndex, i.isInterface)) =
      [("", 0, false)] :=
  ⟨Sample.ofDocument_misnamed, by decide +kernel, by decide, by decide +kernel, by decide⟩

end NetworkModel

end CloudNet
