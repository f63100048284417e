import CloudNet.Proofs.Bisection
import CloudNet.Proofs.Building
import CloudNet.Proofs.ByteOrder

/-!
# Instances by name

Bisection over the instances needs them in order of name. `Searchable` is that order together with
the mark that says it is known; a model that was built from a whole document has both, and so has
one whose instances were just sorted.

* `Searchable.findInstance`: the look-up never fails, and it finds an instance of the name if there
  is one.
* `Assembled.searchable`: the instances of a finished model can be searched. They are sorted before
  the groups, the nodes and the links are there, and no later pass touches their order or names.
* `searchable_of_sortInstances?`: sorting makes every model searchable.
* `search_exact`: what the look-up answers in both cases, and the order in terms of bytes.
-/

namespace CloudNet

/-- Sorting by name puts the names in order. -/
theorem Instance.pairwise_byName (xs : List Instance) :
    (byName xs).Pairwise fun a b => a.name ≤ b.name := by
  have h : (byName xs).Pairwise fun a b => decide (a.name ≤ b.name) = true := by
    unfold byName
    apply List.pairwise_mergeSort
    · intro a b c hab hbc
      rw [decide_eq_true_iff] at hab hbc ⊢
      exact le_trans hab hbc
    · intro a b
      rw [Bool.or_eq_true, decide_eq_true_iff, decide_eq_true_iff]
      exact le_total _ _
  exact h.imp of_decide_eq_true

namespace NetworkModel

/-- The instances are in order of name, and known to be. -/
structure Searchable (m : NetworkModel) : Prop where
  sortedInstances : m.sortedInstances = true
  ordered : (m.instances.map Instance.name).Pairwise (· ≤ ·)

namespace Searchable

variable {m : NetworkModel}

/-- Instances in order of name are in order as seen from every name. -/
theorem bisectable (h : m.Searchable) (name : String) :
    Bisection.Ordered (fun i => compare i.name name) m.instances := by
  refine (List.pairwise_map.mp h.ordered).imp fun {a b} hab => ⟨fun ha => ?_, fun hb => ?_⟩
  · rw [compare_gt_iff_gt] at ha ⊢
    exact lt_of_lt_of_le ha hab
  · rw [compare_lt_iff_lt] at hb ⊢
    exact lt_of_le_of_lt hab hb

/-- **Looking an instance up by name succeeds**, and it finds one of the name if there is one. -/
theorem findInstance (h : m.Searchable) (name : String) :
    ∃ found, m.findInstance name = .ok found ∧
      (found = none ↔ ∀ i ∈ m.instances, i.name ≠ name) ∧
      ∀ i, found = some i → i ∈ m.instances ∧ i.name = name := by
  refine ⟨_, if_pos h.sortedInstances, ?_, ?_⟩
  · rw [Bisection.search_eq_none_iff (h.bisectable name)]
    refine forall₂_congr fun i _ => not_congr ?_
    exact compare_eq_iff_eq
  · intro i hi
    obtain ⟨hmem, heq⟩ := Bisection.mem_of_search hi
    exact ⟨hmem, compare_eq_iff_eq.mp heq⟩

end Searchable

/-! ## Searchable models -/

/-- Members and nodes leave the names of the instances as they were sorted. -/
theorem Assembled.names {s : Sections} {m : NetworkModel} (h : Assembled s m) :
    m.instances.map Instance.name =
      (Instance.byName (Instance.numbered 0 (Instance.listed m.isVpcMido s.instances))).map
        Instance.name := by
  rw [h.instances, List.map_map]
  exact List.map_congr_left fun i _ => m.apply_place (fun _ _ => rfl) _ i.name

/-- Numbering leaves the names of the instances as they are. -/
theorem map_name_numbered (start : Nat) (xs : List (Instance × List Instance)) :
    (Instance.numbered start xs).map Instance.name = xs.map fun p => p.1.name := by
  induction xs generalizing start with
  | nil => rfl
  | cons p xs ih => rw [Instance.numbered, List.map_cons, List.map_cons, ih]

/-- **The names of a finished model's instances** are those that were read, in order. -/
theorem Assembled.perm_names {s : Sections} {m : NetworkModel} (h : Assembled s m) :
    (m.instances.map Instance.name).Perm
      ((Element.entries s.instances "instance").map fun e =>
        (Instance.ofElement e "").value.name) := by
  have hread : (Instance.listed m.isVpcMido s.instances).map (fun p => p.1.name) =
      (Element.entries s.instances "instance").map fun e =>
        (Instance.ofElement e "").value.name := List.map_map
  rw [h.names, ← hread, ← map_name_numbered 0]
  exact (List.mergeSort_perm _ _).map Instance.name

/-- **The instances of a finished model can be searched.** -/
theorem Assembled.searchable {s : Sections} {m : NetworkModel} (h : Assembled s m) :
    m.Searchable where
  sortedInstances := h.sortedInstances
  ordered := by
    rw [h.names]
    exact List.pairwise_map.mpr (Instance.pairwise_byName _)

/-- **Sorted instances can be searched**, whatever else the model holds. -/
theorem searchable_of_sortInstances? {m sorted : NetworkModel}
    (h : m.sortInstances? = some sorted) : sorted.Searchable := by
  unfold sortInstances? at h
  split at h
  · cases h
    refine ⟨rfl, ?_⟩
    show ((m.ranked.map Prod.fst).map Instance.name).Pairwise (· ≤ ·)
    rw [map_fst_ranked]
    exact List.pairwise_map.mpr (Instance.pairwise_byName _)
  · cases h

/-! ## Exact search -/

/-- The instances are known to be in ascending order of the bytes of their names, and looking a name
up answers an instance of that name, or none if there is none. -/
structure ExactSearch (m : NetworkModel) : Prop where
  sortedInstances : m.sortedInstances = true
  ascending : m.instances.Pairwise fun a b => Text.bytes a.name ≤ Text.bytes b.name
  found : ∀ name, (∃ i ∈ m.instances, i.name = name) →
    ∃ i ∈ m.instances, i.name = name ∧ m.findInstance name = .ok (some i)
  missing : ∀ name, (¬ ∃ i ∈ m.instances, i.name = name) → m.findInstance name = .ok none

theorem Searchable.exactSearch {m : NetworkModel} (h : m.Searchable) : m.ExactSearch where
  sortedInstances := h.sortedInstances
  ascending := (List.pairwise_map.mp h.ordered).imp Text.bytes_le_iff.mpr
  found := by
    rintro name ⟨j, hj, hname⟩
    obtain ⟨found, hfound, hnone, hsome⟩ := h.findInstance name
    cases found with
    | none => exact absurd hname (hnone.mp rfl j hj)
    | some i =>
      obtain ⟨hi, hin⟩ := hsome i rfl
      exact ⟨i, hi, hin, hfound⟩
  missing := by
    intro name hmissing
    obtain ⟨found, hfound, hnone, -⟩ := h.findInstance name
    rw [hfound, hnone.mpr fun i hi hname => hmissing ⟨i, hi, hname⟩]

/-- **Instance search is exact** in every model that was built from a whole document, and in every
model whose instances were just sorted. -/
theorem search_exact :
    (∀ (d : Document) (hostnames : HostnameCache) (m : NetworkModel),
      (ofDocument d .all hostnames).value = .ok m → m.ExactSearch) ∧
    ∀ m sorted : NetworkModel, m.sortInstances? = some sorted → sorted.ExactSearch := by
  constructor
  · intro d hostnames m h
    exact (assembled_of_ofDocument h).searchable.exactSearch
  · intro m sorted h
    exact (searchable_of_sortInstances? h).exactSearch

/-- In the small network `i-b` is found and `i-c` is not, and sorting its instances by hand gives
the same answers. -/
theorem search_of_machines :
    (ofDocument Sample.network .all {}).value = .ok Sample.model ∧
    (∃ i ∈ Sample.model.instances, i.name = "i-b" ∧
      Sample.model.findInstance "i-b" = .ok (some i)) ∧
    Sample.model.findInstance "i-c" = .ok none ∧
    (∃ sorted, NetworkModel.sortInstances?
        { empty with instances := [Sample.machineB, Sample.machineA] } = some sorted ∧
      ∃ i ∈ sorted.instances, i.name = "i-b" ∧ sorted.findInstance "i-b" = .ok (some i)) := by
  have hbuilt := search_exact.1 _ _ _ Sample.ofDocument_network
  refine ⟨Sample.ofDocument_network, hbuilt.found "i-b" (by decide),
    hbuilt.missing "i-c" (by decide), _, sortInstances?_of_no_secgroups rfl, ?_⟩
  refine (search_exact.2 _ _ (sortInstances?_of_no_secgroups rfl)).found "i-b"
    ⟨Sample.machineB, ?_, rfl⟩
  show Sample.machineB ∈ Instance.byName [Sample.machineB, Sample.machineA]
  rw [Sample.byName_machines]
  exact List.mem_cons_of_mem _ List.mem_cons_self

end NetworkModel

end CloudNet
