import CloudNet.Proofs.DocumentSize
import CloudNet.Proofs.Membership
import CloudNet.Proofs.Ownership
import CloudNet.Proofs.References
import CloudNet.Proofs.SettingsAlone
import CloudNet.Proofs.SnapshotFiles

/-!
# Bounds for positions

No list of a built model is longer than its document is large, and no record refers to a position
outside the lists. So the limit for the nodes of a document bounds all positions in its model, which
therefore have 64 bits, and the text of its snapshot reads as the model.

* `Assembled.atMost`: the lists of a finished model are no longer than the document is large.
* `Assembled.lt_of_mem_positions`: all positions are those of records.
* `ofSnapshot_toSnapshot_of_ofXml`: the snapshot of a model that was built from a text reads as the
  model.
-/

namespace CloudNet

/-! ## The elements of sections -/

/-- The elements of a section are part of the document. -/
theorem Document.sum_elementCount_entries_le (d : Document) (part name : String) :
    ((Element.entries (d.root.children.find? fun e => e.name = part) name).map
      Element.elementCount).sum ≤ d.root.elementCount := by
  unfold Element.entries
  cases hfound : d.root.children.find? fun e => e.name = part with
  | none => exact Nat.zero_le _
  | some e =>
    have hchild : e.elementCount ≤ (d.root.children.map Element.elementCount).sum :=
      List.single_le_sum (fun _ _ => Nat.zero_le _) _
        (List.mem_map_of_mem (List.mem_of_find?_eq_some hfound))
    have hroot := d.root.sum_elementCount_children
    have hentries := e.sum_elementCount_follow_le (Route.child name)
    rw [Option.map_some, Option.getD_some]
    omega

theorem Document.length_entries_le (d : Document) (part name : String) :
    (Element.entries (d.root.children.find? fun e => e.name = part) name).length ≤
      d.root.elementCount :=
  (Element.length_le_sum_elementCount _).trans (d.sum_elementCount_entries_le part name)

theorem Document.elementCount_le_of_mem_entries {d : Document} {part name : String} {e : Element}
    (he : e ∈ Element.entries (d.root.children.find? fun e => e.name = part) name) :
    e.elementCount ≤ d.root.elementCount :=
  (List.single_le_sum (fun _ _ => Nat.zero_le _) _ (List.mem_map_of_mem he)).trans
    (d.sum_elementCount_entries_le part name)

/-- The interfaces of instances are read from elements inside those of the instances. -/
theorem Instance.length_flatMap_snd_le (withInterfaces : Bool) (es : List Element) :
    ((es.map fun e => (ofElementWithInterfaces withInterfaces e).value).flatMap Prod.snd).length ≤
      (es.map Element.elementCount).sum := by
  induction es with
  | nil => exact le_rfl
  | cons e es ih =>
    have hone : (ofElementWithInterfaces withInterfaces e).value.2.length ≤ e.elementCount := by
      unfold ofElementWithInterfaces
      simp only [Noted.value_bind, Noted.value_mapList, Noted.value_pure, List.length_map]
      cases withInterfaces with
      | true => exact e.length_follow_le _
      | false => exact Nat.zero_le _
    rw [List.map_cons, List.flatMap_cons, List.length_append, List.map_cons, List.sum_cons]
    exact Nat.add_le_add hone ih

namespace NetworkModel

/-! ## Lists -/

/-- The lists that positions lead into are no longer than `bound`. -/
structure AtMost (m : NetworkModel) (bound : Nat) : Prop where
  instances : m.instances.length ≤ bound
  interfaces : m.interfaces.length ≤ bound
  secgroups : m.secgroups.length ≤ bound
  dhcpOptionSets : m.dhcpOptionSets.length ≤ bound
  routeTables : ∀ v ∈ m.vpcs, v.routeTables.length ≤ bound
  networkAcls : ∀ v ∈ m.vpcs, v.networkAcls.length ≤ bound

/-- The lists inside the VPCs of a finished model are read from elements of the document. -/
theorem Assembled.exists_element_of_mem_vpcs {d : Document} {m : NetworkModel}
    (h : Assembled d.sections m) {v : Vpc} (hv : v ∈ m.vpcs) :
    ∃ e : Element, e.elementCount ≤ d.root.elementCount ∧
      v = (m.linkVpc (Vpc.ofElement e).value).value := by
  rw [h.vpcs] at hv
  obtain ⟨r, hr, rfl⟩ := List.mem_map.mp hv
  obtain ⟨e, he, rfl⟩ := List.mem_map.mp hr
  exact ⟨e, Document.elementCount_le_of_mem_entries he, rfl⟩

/-- **The lists of a finished model are no longer than the document is large.** -/
theorem Assembled.atMost {d : Document} {m : NetworkModel} (h : Assembled d.sections m) :
    m.AtMost d.root.elementCount where
  instances := by
    rw [h.instances, List.length_map]
    unfold Instance.byName
    rw [List.length_mergeSort, Instance.length_numbered]
    unfold Instance.listed
    rw [List.length_map]
    exact d.length_entries_le "instances" "instance"
  interfaces := by
    rw [h.interfaces, List.length_map]
    exact (Instance.length_flatMap_snd_le m.isVpcMido _).trans
      (d.sum_elementCount_entries_le "instances" "instance")
  secgroups := by
    rw [h.secgroups, List.length_map]
    unfold SecurityGroup.listed
    rw [List.length_map]
    exact d.length_entries_le "securityGroups" "securityGroup"
  dhcpOptionSets := by
    rw [h.dhcpOptionSets]
    unfold DhcpOptionSet.listed
    rw [List.length_map]
    exact d.length_entries_le "dhcpOptionSets" "dhcpOptionSet"
  routeTables := by
    intro v hv
    obtain ⟨e, he, rfl⟩ := h.exists_element_of_mem_vpcs hv
    have hread : (m.linkVpc (Vpc.ofElement e).value).value.routeTables =
        (e.follow (Route.grandchild "routeTables" "routeTable")).map RouteTable.ofElement := rfl
    rw [hread, List.length_map]
    exact (e.length_follow_le _).trans he
  networkAcls := by
    intro v hv
    obtain ⟨e, he, rfl⟩ := h.exists_element_of_mem_vpcs hv
    have hread : (m.linkVpc (Vpc.ofElement e).value).value.networkAcls =
        (e.follow (Route.grandchild "networkAcls" "networkAcl")).map NetworkAcl.ofElement := rfl
    rw [hread, List.length_map]
    exact (e.length_follow_le _).trans he

/-! ## Positions -/

namespace Assembled

variable {s : Sections} {m : NetworkModel} {bound n : Nat}

/-- The positions of an instance. -/
theorem lt_of_mem_instance (h : Assembled s m) (hm : m.AtMost bound) {i : Instance}
    (hi : i ∈ m.instances) (hn : n ∈ i.positions) : n < bound := by
  rcases List.mem_append.mp hn with hgroup | hinterface
  · exact ((h.indexes_secgroups (.inl hi)).lt_length hgroup).trans_le hm.secgroups
  · obtain ⟨x, hx, -⟩ := h.owned.owner i hi n hinterface
    exact (List.getElem?_eq_some_iff.mp hx).1.trans_le hm.interfaces

/-- The positions of an interface, which has no interfaces itself. -/
theorem lt_of_mem_interface (h : Assembled s m) (hm : m.AtMost bound) {x : Instance}
    (hx : x ∈ m.interfaces) (hn : n ∈ x.positions) : n < bound := by
  rcases List.mem_append.mp hn with hgroup | hinterface
  · exact ((h.indexes_secgroups (.inr hx)).lt_length hgroup).trans_le hm.secgroups
  · obtain ⟨p, hp, r, hr, node, he⟩ := h.mem_interfaces hx
    have hread := ((Instance.unlinked_of_mem_listed hp).2 r hr).interfaces
    have hnone : x.interfaces = [] := (congrArg Instance.interfaces he).trans hread
    rw [hnone] at hinterface
    exact absurd hinterface List.not_mem_nil

/-- The positions of a security group. -/
theorem lt_of_mem_secgroup (h : Assembled s m) (hm : m.AtMost bound) {g : SecurityGroup}
    (hg : g ∈ m.secgroups) (hn : n ∈ g.positions) : n < bound := by
  obtain ⟨hinstances, hinterfaces⟩ := h.indexes_members hg
  rcases List.mem_append.mp hn with hinstance | hinterface
  · exact (hinstances.lt_length hinstance).trans_le hm.instances
  · exact (hinterfaces.lt_length hinterface).trans_le hm.interfaces

/-- The positions of a VPC and of its subnets. -/
theorem lt_of_mem_vpc (h : Assembled s m) (hm : m.AtMost bound) {v : Vpc} (hv : v ∈ m.vpcs)
    (hn : n ∈ v.positions) : n < bound := by
  obtain ⟨hinterfaces, hoptions, hsubnets, htables, hacls⟩ := (h.linked hv).inRange
  simp only [Vpc.positions, VpcSubnet.positions, List.mem_append, List.mem_flatMap,
    Option.mem_toList] at hn
  rcases hn with (hoption | ⟨r, hr, (htable | hacl) | hinterface⟩) | hinterface
  · exact (hoptions n hoption).trans_le hm.dhcpOptionSets
  · exact (htables r hr n htable).trans_le (hm.routeTables v hv)
  · exact (hacls r hr n hacl).trans_le (hm.networkAcls v hv)
  · exact (hsubnets r hr n hinterface).trans_le hm.interfaces
  · exact (hinterfaces n hinterface).trans_le hm.interfaces

/-- **All positions in a finished model are those of records.** -/
theorem lt_of_mem_positions (h : Assembled s m) (hm : m.AtMost bound) :
    ∀ n ∈ m.positions, n < bound := by
  intro n hn
  simp only [positions, List.mem_append, List.mem_flatMap] at hn
  rcases hn with ((⟨i, hi, hn⟩ | ⟨x, hx, hn⟩) | ⟨g, hg, hn⟩) | ⟨v, hv, hn⟩
  · exact h.lt_of_mem_instance hm hi hn
  · exact h.lt_of_mem_interface hm hx hn
  · exact h.lt_of_mem_secgroup hm hg hn
  · exact h.lt_of_mem_vpc hm hv hn

end Assembled

/-! ## Snapshots -/

/-- The positions in a model that was built from a text are below the limit for its nodes. -/
theorem lt_nodeLimit_of_mem_positions {settings : Xml.Settings} {text : String} {d : Document}
    {extent : Extent} {hostnames : HostnameCache} {m : NetworkModel}
    (hread : Document.ofXml settings text = .ok d)
    (hbuild : (ofDocument d extent hostnames).value = .ok m) :
    ∀ n ∈ m.positions, n < settings.nodeLimit := by
  cases extent with
  | all =>
    have ha := assembled_of_ofDocument hbuild
    have hroot : d.root.elementCount ≤ d.elementCount := Nat.le_add_right _ _
    have hlimit := Document.elementCount_lt_of_ofXml hread
    exact fun n hn => (ha.lt_of_mem_positions ha.atMost n hn).trans (hroot.trans_lt hlimit)
  | configOnly =>
    obtain ⟨-, rfl, -⟩ := (value_ofDocument_eq_ok_iff (by decide)).mp hbuild
    have hnone : (assemble d false hostnames).value.positions = [] := by
      rw [← settingsOnly_assemble]
      rfl
    intro n hn
    exact absurd (hnone ▸ hn) List.not_mem_nil
  | nothing =>
    obtain rfl := Except.ok.inj hbuild
    exact fun n hn => absurd hn List.not_mem_nil

/-- **The snapshot of a model that was built from a text reads as the model.** -/
theorem ofSnapshot_toSnapshot_of_ofXml {settings : Xml.Settings}
    (hlimit : settings.nodeLimit ≤ 2 ^ 64) {text : String} {d : Document} {extent : Extent}
    {hostnames : HostnameCache} {m : NetworkModel} (hread : Document.ofXml settings text = .ok d)
    (hbuild : (ofDocument d extent hostnames).value = .ok m) :
    ofSnapshot m.toSnapshot = .ok m :=
  ofSnapshot_toSnapshot fun n hn =>
    (lt_nodeLimit_of_mem_positions hread hbuild n hn).trans_le hlimit

end NetworkModel

end CloudNet
