import CloudNet.Proofs.InstanceSearch
import CloudNet.Proofs.Records

/-!
# Owners of interfaces

The interfaces of all instances stand in one list. `Owned` says how the instances share it: their
lists of positions make up the whole list, each is a run of consecutive positions, and the records
there know their owner. Positions are handed out while the instances are in the order of the
document; neither sorting the instances nor completing the records touches the division.

* `owned_numbered`, `Owned.perm`, `Owned.map`: how the division arises and what it survives.
* `Assembled.owned`: the instances of a finished model divide its interfaces.
* `Owned.ownedOnce`: each interface is listed by one instance, once.
* `Owned.indexes_interfaces`: an instance of a name of its own lists the interfaces that give it.
* `interfaces_partitioned`: all of this, and that asking for the interfaces of an instance by name
  is the same as looking through those of the whole network.
-/

namespace CloudNet

/-- The instances divide the interfaces among themselves. -/
structure Owned (instances interfaces : List Instance) : Prop where
  division : (instances.flatMap Instance.interfaces).Perm (List.range interfaces.length)
  run : ∀ i ∈ instances, ∃ first, i.interfaces = List.range' first i.interfaces.length
  owner : ∀ i ∈ instances, ∀ j ∈ i.interfaces,
    ∃ x, interfaces[j]? = some x ∧ x.instanceName = i.name ∧ x.node = i.node

/-- Position `j` is listed by one of the instances, once, and by no other one. -/
def OwnedOnce (instances : List Instance) (j : Nat) : Prop :=
  ∃ (k : Nat) (i : Instance), instances[k]? = some i ∧ i.interfaces.count j = 1 ∧
    ∀ (k' : Nat) (i' : Instance), instances[k']? = some i' → j ∈ i'.interfaces → k' = k

/-! ## Handing out positions -/

namespace Instance

/-- The positions that are handed out follow each other. -/
theorem flatMap_interfaces_numbered (start : Nat) (found : List (Instance × List Instance)) :
    (numbered start found).flatMap interfaces =
      List.range' start (found.flatMap Prod.snd).length := by
  induction found generalizing start with
  | nil => rfl
  | cons p found ih =>
    rw [numbered, List.flatMap_cons, ih, List.flatMap_cons, List.length_append,
      ← List.range'_append_1]

/-- Each instance is given the positions of its own interfaces, behind those of `before`. -/
theorem getElem?_of_mem_numbered (before : List Instance)
    {found : List (Instance × List Instance)} {i : Instance}
    (hi : i ∈ numbered before.length found) {j : Nat} (hj : j ∈ i.interfaces) :
    ∃ p ∈ found, ∃ x ∈ p.2, i.name = p.1.name ∧ i.node = p.1.node ∧
      (before ++ found.flatMap Prod.snd)[j]? = some x := by
  induction found generalizing before with
  | nil => exact absurd hi List.not_mem_nil
  | cons p found ih =>
    rw [numbered] at hi
    rcases List.mem_cons.mp hi with rfl | hi
    · obtain ⟨hfirst, hlast⟩ := List.mem_range'_1.mp hj
      have hlt : j - before.length < p.2.length := by omega
      refine ⟨p, List.mem_cons_self, p.2[j - before.length], List.getElem_mem hlt, rfl, rfl, ?_⟩
      rw [List.flatMap_cons, List.getElem?_append_right hfirst, List.getElem?_append_left hlt]
      exact List.getElem?_eq_getElem hlt
    · rw [← List.length_append] at hi
      obtain ⟨q, hq, x, hx, hname, hnode, hat⟩ := ih _ hi
      refine ⟨q, List.mem_cons_of_mem _ hq, x, hx, hname, hnode, ?_⟩
      rw [List.flatMap_cons, ← List.append_assoc]
      exact hat

end Instance

/-- **Handing out positions divides the interfaces** of records that are as they were read. -/
theorem owned_numbered {found : List (Instance × List Instance)}
    (h : ∀ p ∈ found, p.1.Unlinked "" ∧ ∀ x ∈ p.2, x.Unlinked p.1.name) :
    Owned (Instance.numbered 0 found) (found.flatMap Prod.snd) where
  division := by
    rw [Instance.flatMap_interfaces_numbered, ← List.range_eq_range']
  run := by
    intro i hi
    obtain ⟨p, -, first, rfl⟩ := Instance.mem_numbered hi
    exact ⟨first, by rw [List.length_range']⟩
  owner := by
    intro i hi j hj
    obtain ⟨p, hp, x, hx, hname, hnode, hat⟩ :=
      Instance.getElem?_of_mem_numbered [] hi hj
    obtain ⟨howner, howned⟩ := h p hp
    refine ⟨x, hat, ?_, ?_⟩
    · rw [(howned x hx).instanceName, hname]
    · rw [(howned x hx).node, hnode, howner.node]

namespace Owned

variable {instances interfaces : List Instance}

/-- Who owns what is not a matter of the order of the owners. -/
theorem perm (h : Owned instances interfaces) {other : List Instance}
    (hp : other.Perm instances) : Owned other interfaces where
  division := (hp.flatMap_right _).trans h.division
  run := fun i hi => h.run i (hp.mem_iff.mp hi)
  owner := fun i hi => h.owner i (hp.mem_iff.mp hi)

/-- Completing records keeps the division if it keeps the names and the lists of positions, and if
it puts an interface where its owner is. -/
theorem map (h : Owned instances interfaces) {f g : Instance → Instance}
    (hname : ∀ i, (f i).name = i.name) (hlist : ∀ i, (f i).interfaces = i.interfaces)
    (hinstance : ∀ x, (g x).instanceName = x.instanceName)
    (hnode : ∀ i x, x.instanceName = i.name → x.node = i.node → (g x).node = (f i).node) :
    Owned (instances.map f) (interfaces.map g) where
  division := by
    have hflat : (instances.map f).flatMap Instance.interfaces =
        instances.flatMap Instance.interfaces := by
      rw [List.flatMap_map]
      simp only [hlist]
    rw [hflat, List.length_map]
    exact h.division
  run := by
    intro i hi
    obtain ⟨r, hr, rfl⟩ := List.mem_map.mp hi
    rw [hlist]
    exact h.run r hr
  owner := by
    intro i hi j hj
    obtain ⟨r, hr, rfl⟩ := List.mem_map.mp hi
    rw [hlist] at hj
    obtain ⟨x, hx, hxname, hxnode⟩ := h.owner r hr j hj
    refine ⟨g x, ?_, ?_, hnode r x hxname hxnode⟩
    · rw [List.getElem?_map, hx]
      rfl
    · rw [hinstance, hname, hxname]

end Owned

namespace NetworkModel

/-- Records on one node that go by one name are placed on one node. -/
theorem node_place_congr (m : NetworkModel) {i x : Instance} (h : x.node = i.node)
    (listedName : String) : (m.place x listedName).node = (m.place i listedName).node := by
  unfold place Instance.placed
  split
  · split
    · rfl
    · exact h
  · exact h

/-- **The instances of a finished model divide its interfaces.** -/
theorem Assembled.owned {s : Sections} {m : NetworkModel} (h : Assembled s m) :
    Owned m.instances m.interfaces := by
  have hread : Owned (Instance.byName (Instance.numbered 0
      (Instance.listed m.isVpcMido s.instances)))
      ((Instance.listed m.isVpcMido s.instances).flatMap Prod.snd) :=
    (owned_numbered fun _ hp => Instance.unlinked_of_mem_listed hp).perm
      (List.mergeSort_perm _ _)
  rw [h.instances, h.interfaces]
  apply hread.map
  · intro i
    exact m.apply_place (fun _ _ => rfl) (i.withSecgroups m.secgroups 0) i.name
  · intro i
    exact m.apply_place (fun _ _ => rfl) (i.withSecgroups m.secgroups 0) i.name
  · intro x
    exact m.apply_place (fun _ _ => rfl) (x.withSecgroups m.secgroups 0) x.instanceName
  · intro i x hname hnode
    have hlinked : (x.withSecgroups m.secgroups 0).node = (i.withSecgroups m.secgroups 0).node :=
      hnode
    rw [hname]
    exact m.node_place_congr hlinked i.name

end NetworkModel

/-! ## Consequences of the division -/

namespace Owned

variable {instances interfaces : List Instance}

theorem nodup (h : Owned instances interfaces) :
    (instances.flatMap Instance.interfaces).Nodup :=
  h.division.nodup_iff.mpr List.nodup_range

/-- Each position has an owner. -/
theorem exists_owner (h : Owned instances interfaces) {j : Nat} (hj : j < interfaces.length) :
    ∃ i ∈ instances, j ∈ i.interfaces :=
  List.mem_flatMap.mp (h.division.mem_iff.mpr (List.mem_range.mpr hj))

/-- Two owners of one position stand at the same place. -/
theorem eq_of_mem (h : Owned instances interfaces) {j k k' : Nat} {i i' : Instance}
    (hi : instances[k]? = some i) (hi' : instances[k']? = some i')
    (hj : j ∈ i.interfaces) (hj' : j ∈ i'.interfaces) : k = k' := by
  have hdisjoint := List.pairwise_iff_getElem.mp (List.nodup_flatMap.mp h.nodup).2
  obtain ⟨hk, rfl⟩ := List.getElem?_eq_some_iff.mp hi
  obtain ⟨hk', rfl⟩ := List.getElem?_eq_some_iff.mp hi'
  rcases Nat.lt_trichotomy k k' with hlt | heq | hgt
  · exact absurd hj' (hdisjoint k k' hk hk' hlt hj)
  · exact heq
  · exact absurd hj (hdisjoint k' k hk' hk hgt hj')

/-- **Each interface has one owner**, which lists it once. -/
theorem ownedOnce (h : Owned instances interfaces) {j : Nat} (hj : j < interfaces.length) :
    OwnedOnce instances j := by
  obtain ⟨i, hi, hmem⟩ := h.exists_owner hj
  obtain ⟨k, hk⟩ := List.mem_iff_getElem?.mp hi
  refine ⟨k, i, hk, ?_, ?_⟩
  · exact List.count_eq_one_of_mem ((List.nodup_flatMap.mp h.nodup).1 i hi) hmem
  · intro k' i' hk' hmem'
    exact h.eq_of_mem hk' hk hmem' hmem

/-- If names are distinct, an instance lists exactly the interfaces that give its name. -/
theorem indexes_interfaces (h : Owned instances interfaces)
    (hnames : (instances.map Instance.name).Nodup) {i : Instance} (hi : i ∈ instances) :
    Indexes i.interfaces (fun x => x.instanceName = i.name) interfaces where
  ascending := by
    obtain ⟨first, hrun⟩ := h.run i hi
    rw [hrun]
    exact List.pairwise_lt_range' 1
  mem_iff := by
    intro j
    constructor
    · intro hj
      obtain ⟨x, hx, hname, -⟩ := h.owner i hi j hj
      exact ⟨x, hx, hname⟩
    · rintro ⟨x, hx, hname⟩
      -- the owner of the position goes by the name that the record there gives
      obtain ⟨i', hi', hj⟩ := h.exists_owner (List.getElem?_eq_some_iff.mp hx).1
      obtain ⟨x', hx', hname', -⟩ := h.owner i' hi' j hj
      rw [hx, Option.some.injEq] at hx'
      subst hx'
      have heq : i' = i := List.inj_on_of_nodup_map hnames hi' hi (hname'.symm.trans hname)
      exact heq ▸ hj

end Owned

namespace NetworkModel

variable {m : NetworkModel}

/-- **The interfaces of an instance, asked for by name**, are those of the whole network that give
the name. -/
theorem secondaryInterfaces_eq (hs : m.Searchable) (ho : Owned m.instances m.interfaces)
    (hnames : (m.instances.map Instance.name).Nodup) (name : String) :
    m.secondaryInterfaces name =
      .ok (m.interfaces.filter fun x => x.instanceName = name && x.deviceIndex != 0) := by
  obtain ⟨found, hfound, hnone, hsome⟩ := hs.findInstance name
  unfold secondaryInterfaces
  rw [hfound]
  cases found with
  | none =>
    have hempty : m.interfaces.filter
        (fun x => x.instanceName = name && x.deviceIndex != 0) = [] := by
      rw [List.filter_eq_nil_iff]
      intro x hx hgiven
      obtain ⟨j, hj⟩ := List.mem_iff_getElem?.mp hx
      obtain ⟨i, hi, hmem⟩ := ho.exists_owner (List.getElem?_eq_some_iff.mp hj).1
      obtain ⟨x', hx', hname, -⟩ := ho.owner i hi j hmem
      rw [hj, Option.some.injEq] at hx'
      subst hx'
      rw [Bool.and_eq_true, decide_eq_true_iff] at hgiven
      exact hnone.mp rfl i hi (hname.symm.trans hgiven.1)
    rw [hempty]
    rfl
  | some i =>
    obtain ⟨hi, rfl⟩ := hsome i rfl
    have hindexes : Indexes i.interfaces (fun x => decide (x.instanceName = i.name) = true)
        m.interfaces := (ho.indexes_interfaces hnames hi).congr fun _ _ => decide_eq_true_iff.symm
    show Except.ok ((atPositions m.interfaces i.interfaces).filter (·.deviceIndex != 0)) = _
    rw [hindexes.atPositions_eq, List.filter_filter]
    simp only [Bool.and_comm]

/-- **The instances of a network divide its interfaces**: each interface has one owner, which lists
it once and is the instance that it names; and both ways to an instance's interfaces agree. -/
theorem interfaces_partitioned {d : Document} {hostnames : HostnameCache}
    (h : (ofDocument d .all hostnames).value = .ok m) :
    (∀ j < m.interfaces.length, OwnedOnce m.instances j) ∧
    (∀ i ∈ m.instances, ∃ first, i.interfaces = List.range' first i.interfaces.length) ∧
    (∀ i ∈ m.instances, ∀ j ∈ i.interfaces,
      ∃ x, m.interfaces[j]? = some x ∧ x.instanceName = i.name ∧ x.node = i.node) ∧
    (m.isVpcMido = false → m.interfaces = [] ∧ (∀ i ∈ m.instances, i.interfaces = []) ∧
      ∀ g ∈ m.secgroups, g.interfaces = []) ∧
    ((m.instances.map Instance.name).Nodup → ∀ name, m.secondaryInterfaces name =
      .ok (m.interfaces.filter fun x => x.instanceName = name && x.deviceIndex != 0)) := by
  have ha := assembled_of_ofDocument h
  have ho := ha.owned
  refine ⟨fun j hj => ho.ownedOnce hj, ho.run, ho.owner, ha.interfaces_eq_nil, ?_⟩
  intro hnames name
  exact secondaryInterfaces_eq ha.searchable ho hnames name

/-- In the small network the three interfaces have one owner each, and `i-b` has a secondary one. -/
theorem interfaces_of_two_instances :
    (ofDocument Sample.network .all {}).value = .ok Sample.model ∧
    (Sample.model.instances.map Instance.name).Nodup ∧
    (∀ j < 3, OwnedOnce Sample.model.instances j) ∧
    Sample.model.secondaryInterfaces "i-b" = .ok [Sample.secondary] := by
  obtain ⟨hone, -, -, -, hsecondary⟩ := interfaces_partitioned Sample.ofDocument_network
  have hnames : (Sample.model.instances.map Instance.name).Nodup := by decide
  refine ⟨Sample.ofDocument_network, hnames, hone, ?_⟩
  rw [hsecondary hnames "i-b"]
  have hkept : (Sample.model.interfaces.filter
      fun x => x.instanceName = "i-b" && x.deviceIndex != 0) = [Sample.secondary] := by
    decide +kernel
  rw [hkept]

end NetworkModel

end CloudNet
