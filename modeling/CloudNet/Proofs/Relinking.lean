import CloudNet.Proofs.Building

/-!
# Links made anew

The links of a tenant network are its interfaces and its DHCP option set, and for each of its
subnets the interfaces there and the access list. `unlinked` forgets them and nothing else, so
models that differ in their links alone, dangling ones included, are those with one `unlinked`.

Linking goes through the VPCs one after the other, and each of them is linked in the model as the
ones before have left it. What is read there is no link: interfaces, option sets, access lists and
names. So the order does not matter, links that were there before do not matter, and there is
nothing left to do for a second pass.

* `linkVpc_unlinked`, `unlinked_linkVpc`: one VPC, whose links neither matter nor survive.
* `foldlM_linkAt`: the model in the middle of the pass.
* `linking_starts_afresh`: the whole pass.
-/

namespace CloudNet

/-- The subnet before it is linked. Its route table is resolved while it is read and is kept. -/
def VpcSubnet.unlinked (s : VpcSubnet) : VpcSubnet :=
  { s with interfaces := [], networkAcl := none }

/-- The VPC before it is linked. -/
def Vpc.unlinked (v : Vpc) : Vpc :=
  { v with
    interfaces := []
    dhcpOptionSet := none
    subnets := v.subnets.map VpcSubnet.unlinked }

namespace NetworkModel

/-- The model before its VPCs are linked. -/
def unlinked (m : NetworkModel) : NetworkModel := { m with vpcs := m.vpcs.map Vpc.unlinked }

/-- The model with the VPC at a position linked, if there is one. -/
def linkAt (m : NetworkModel) (i : Nat) : Noted NetworkModel :=
  match m.vpcs[i]? with
  | none => return m
  | some v => do
    let v ← m.linkVpc v
    return { m with vpcs := m.vpcs.set i v }

/-- The model with its VPCs linked one after the other, each as the ones before have left the
model. -/
def linkedInTurn (m : NetworkModel) : Noted NetworkModel :=
  (List.range m.vpcs.length).foldlM linkAt m

/-! ## One VPC -/

/-- Of the model, linking a VPC reads the interfaces and the option sets. -/
theorem linkVpc_congr {a b : NetworkModel} (hi : a.interfaces = b.interfaces)
    (hd : a.dhcpOptionSets = b.dhcpOptionSets) (v : Vpc) : a.linkVpc v = b.linkVpc v := by
  unfold linkVpc linkSubnet interfacesInVpc interfacesInSubnet
  rw [hi, hd]

/-- **The links of a VPC do not matter** for linking it, nor for what is remarked on. -/
theorem linkVpc_unlinked (m : NetworkModel) (v : Vpc) : m.linkVpc v.unlinked = m.linkVpc v := by
  have hsubnets : Noted.mapList (m.linkSubnet v.unlinked (m.interfacesInVpc v.name))
      (v.subnets.map VpcSubnet.unlinked) =
        Noted.mapList (m.linkSubnet v (m.interfacesInVpc v.name)) v.subnets := by
    unfold Noted.mapList
    rw [List.map_map]
    rfl
  unfold linkVpc
  dsimp only
  rw [← hsubnets]
  rfl

/-- **Linking a VPC changes its links only.** -/
theorem unlinked_linkVpc (m : NetworkModel) (v : Vpc) :
    (m.linkVpc v).value.unlinked = v.unlinked := by
  have hsubnets : (m.linkVpc v).value.subnets.map VpcSubnet.unlinked =
      v.subnets.map VpcSubnet.unlinked := by
    unfold linkVpc
    simp only [Noted.value_bind, Noted.value_mapList, Noted.value_pure]
    rw [List.map_map]
    rfl
  unfold Vpc.unlinked
  rw [hsubnets]
  rfl

/-! ## One VPC after the other -/

/-- The model in the middle of the pass: the first `k` VPCs are linked, the others are as they
were. -/
def linkedUpTo (m : NetworkModel) (k : Nat) : NetworkModel :=
  { m with vpcs := (m.vpcs.take k).map (fun v => (m.linkVpc v).value) ++ m.vpcs.drop k }

/-- The step at a position where there is a VPC. -/
theorem linkAt_of_getElem? {m : NetworkModel} {i : Nat} {v : Vpc} (hv : m.vpcs[i]? = some v) :
    m.linkAt i = ⟨{ m with vpcs := m.vpcs.set i (m.linkVpc v).value }, (m.linkVpc v).notices⟩ := by
  unfold linkAt
  rw [hv]
  exact Noted.ext rfl (List.append_nil _)

/-- **The next VPC is linked as it would have been at first**: those before it have changed nothing
that is read. -/
theorem linkAt_linkedUpTo (m : NetworkModel) {k : Nat} (hk : k < m.vpcs.length) :
    (m.linkedUpTo k).linkAt k = ⟨m.linkedUpTo (k + 1), (m.linkVpc m.vpcs[k]).notices⟩ := by
  let link (v : Vpc) : Vpc := (m.linkVpc v).value
  have hlength : ((m.vpcs.take k).map link).length = k := by
    rw [List.length_map, List.length_take]
    omega
  have hrest : m.vpcs.drop k = m.vpcs[k] :: m.vpcs.drop (k + 1) := List.drop_eq_getElem_cons hk
  have hnext : (m.linkedUpTo k).vpcs[k]? = some m.vpcs[k] := by
    show ((m.vpcs.take k).map link ++ m.vpcs.drop k)[k]? = _
    rw [List.getElem?_append_right hlength.le, hlength, Nat.sub_self, hrest]
    rfl
  have hset : (m.linkedUpTo k).vpcs.set k (link m.vpcs[k]) = (m.linkedUpTo (k + 1)).vpcs := by
    show ((m.vpcs.take k).map link ++ m.vpcs.drop k).set k _ =
      (m.vpcs.take (k + 1)).map link ++ m.vpcs.drop (k + 1)
    rw [List.set_append_right _ _ hlength.le, hlength, Nat.sub_self, hrest, List.set_cons_zero,
      List.take_add_one, List.getElem?_eq_getElem hk, List.map_append, List.append_assoc]
    rfl
  have hread : (m.linkedUpTo k).linkVpc m.vpcs[k] = m.linkVpc m.vpcs[k] := linkVpc_congr rfl rfl _
  rw [linkAt_of_getElem? hnext, hread]
  exact Noted.ext (congrArg (fun vpcs => { m with vpcs }) hset) rfl

/-- **The pass up to any VPC** links so many of them, with the notices of each in turn. -/
theorem foldlM_linkAt (m : NetworkModel) {k : Nat} (hk : k ≤ m.vpcs.length) :
    (List.range k).foldlM linkAt m =
      ⟨m.linkedUpTo k, (m.vpcs.take k).flatMap fun v => (m.linkVpc v).notices⟩ := by
  induction k with
  | zero => rfl
  | succ k ih =>
    have hlt : k < m.vpcs.length := by omega
    rw [List.range_succ, List.foldlM_append, ih (by omega)]
    simp only [List.foldlM_cons, List.foldlM_nil, bind_pure]
    have hstep := m.linkAt_linkedUpTo hlt
    refine Noted.ext ?_ ?_
    · rw [Noted.value_bind, hstep]
    · rw [Noted.notices_bind, hstep, List.take_add_one, List.getElem?_eq_getElem hlt,
        List.flatMap_append]
      exact congrArg (_ ++ ·) (List.append_nil _).symm

/-- **Linking the VPCs one after the other** is linking each of them on its own. -/
theorem linkedInTurn_eq (m : NetworkModel) : m.linkedInTurn = m.linked := by
  unfold linkedInTurn
  rw [foldlM_linkAt m le_rfl]
  refine Noted.ext ?_ ?_
  · rw [value_linked]
    unfold linkedUpTo
    rw [List.take_length, List.drop_length, List.append_nil]
  · unfold linked
    rw [List.take_length, Noted.notices_bind, Noted.notices_mapList, Noted.notices_pure,
      List.append_nil]

/-! ## The whole pass -/

/-- The links of a model do not matter for linking it. -/
theorem linked_unlinked (m : NetworkModel) : m.unlinked.linked = m.linked := by
  have hvpcs : Noted.mapList m.unlinked.linkVpc (m.vpcs.map Vpc.unlinked) =
      Noted.mapList m.linkVpc m.vpcs := by
    have heach : ∀ v : Vpc, m.unlinked.linkVpc v.unlinked = m.linkVpc v := by
      intro v
      rw [linkVpc_unlinked]
      exact linkVpc_congr rfl rfl v
    unfold Noted.mapList
    rw [List.map_map]
    simp only [Function.comp_def, heach]
  unfold linked
  rw [← hvpcs]
  rfl

/-- Linking a model changes its links only. -/
theorem unlinked_linked (m : NetworkModel) : m.linked.value.unlinked = m.unlinked := by
  have hvpcs : (m.vpcs.map fun v => (m.linkVpc v).value).map Vpc.unlinked =
      m.vpcs.map Vpc.unlinked := by
    rw [List.map_map]
    exact List.map_congr_left fun v _ => m.unlinked_linkVpc v
  rw [value_linked]
  unfold unlinked
  rw [hvpcs]

/-- **Linking starts afresh.** Whether the VPCs are linked each on its own or one after the other,
every model that differs in its links alone gives the same linked model with the same notices, and
no other model does; a second pass gives it once more, and nothing but links has changed. -/
theorem linking_starts_afresh (m : NetworkModel) :
    m.linkedInTurn = m.linked ∧ m.linked.value.linked = m.linked ∧
      (∀ a : NetworkModel, a.linked = m.linked ↔ a.unlinked = m.unlinked) ∧
      m.linked.value.unlinked = m.unlinked := by
  have hsame : ∀ {a b : NetworkModel}, a.unlinked = b.unlinked → a.linked = b.linked := by
    intro a b h
    rw [← linked_unlinked a, h, linked_unlinked]
  refine ⟨m.linkedInTurn_eq, hsame m.unlinked_linked, fun a => ⟨fun h => ?_, hsame⟩,
    m.unlinked_linked⟩
  rw [← unlinked_linked a, h, unlinked_linked]

end NetworkModel

end CloudNet
