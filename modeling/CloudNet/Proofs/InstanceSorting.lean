import CloudNet.Proofs.InstanceSearch
import CloudNet.Proofs.SortingByTables

/-!
# What sorting instances keeps

Sorting puts the instances in order of the bytes of their names and changes nothing else. Instances
of one name stay in order. The members of a group are at other positions afterwards, but they are
the same instances: `Reordered` has the list of former positions, and each new entry is the place at
which that list has the former one.

* `filter_mergeSort`: sorting by a key keeps the elements of one key in order.
* `pairwise_formerPositions`: so the positions of instances of one name are ranked in order.
* `follows`: the members of a group are found at their new positions.
* `sortInstances?_of_searchable`: instances in order are left as they are.
* `sorting_keeps_all_but_order`: what sorting does to a model, and that doing it again does nothing.
-/

namespace CloudNet

/-- Sorting by a key keeps the elements of one key in the order they had. -/
theorem filter_mergeSort {α : Type} {key : α → String} {le : α → α → Bool}
    (hle : ∀ a b, le a b = true ↔ key a ≤ key b) (k : String) (xs : List α) :
    (xs.mergeSort le).filter (key · = k) = xs.filter (key · = k) := by
  have htrans : ∀ a b c, le a b = true → le b c = true → le a c = true := by
    intro a b c hab hbc
    rw [hle] at hab hbc ⊢
    exact le_trans hab hbc
  have htotal : ∀ a b, (le a b || le b a) = true := by
    intro a b
    rw [Bool.or_eq_true, hle, hle]
    exact le_total _ _
  have hsame : (xs.filter (key · = k)).Pairwise fun a b => le a b = true := by
    refine List.pairwise_of_forall_mem_list fun a ha b hb => (hle a b).mpr (le_of_eq ?_)
    have hak : key a = k := by simpa using (List.mem_filter.mp ha).2
    have hbk : key b = k := by simpa using (List.mem_filter.mp hb).2
    rw [hak, hbk]
  -- they are in order among themselves, so they are found in the sorted list one after the other
  have hkept := (List.sublist_mergeSort htrans htotal hsame List.filter_sublist).filter (key · = k)
  rw [List.filter_filter] at hkept
  simp only [Bool.and_self] at hkept
  have hlength := ((List.mergeSort_perm xs le).filter (key · = k)).length_eq
  exact (hkept.eq_of_length hlength.symm).symm

namespace NetworkModel

variable {m sorted : NetworkModel}

/-! ## The ranking -/

/-- **Positions of instances of one name are ranked in order.** -/
theorem pairwise_formerPositions (m : NetworkModel) :
    m.formerPositions.Pairwise fun i j =>
      (m.instances[i]?).map Instance.name = (m.instances[j]?).map Instance.name → i < j := by
  have hpositions : m.instances.zipIdx.Pairwise fun p q => p.2 < q.2 := by
    refine List.pairwise_map.mp ?_
    rw [List.zipIdx_map_snd]
    exact List.pairwise_lt_range'
  have hranked : m.ranked.Pairwise fun p q => p.1.name = q.1.name → p.2 < q.2 := by
    rw [List.pairwise_iff_forall_sublist]
    intro p q hpq hname
    have hfiltered := hpq.filter fun x => x.1.name = q.1.name
    rw [List.filter_cons_of_pos (by simpa using hname), List.filter_cons_of_pos (by simp),
      List.filter_nil] at hfiltered
    unfold ranked at hfiltered
    rw [filter_mergeSort (fun _ _ => decide_eq_true_iff)] at hfiltered
    exact List.pairwise_iff_forall_sublist.mp hpositions (hfiltered.trans List.filter_sublist)
  unfold formerPositions
  refine List.pairwise_map.mpr (hranked.imp_of_mem fun {p q} hp hq h hname => h ?_)
  rw [mem_ranked.mp hp, mem_ranked.mp hq] at hname
  exact Option.some.inj hname

/-- The place of a position in the ranking has the instance that stood there. -/
theorem getElem?_map_fst_ranked {i : Nat} (hi : i < m.instances.length) :
    m.formerPositions[m.formerPositions.idxOf i]? = some i ∧
      (m.ranked.map Prod.fst)[m.formerPositions.idxOf i]? = some m.instances[i] := by
  have hplace := List.getElem?_idxOf (mem_formerPositions.mpr hi)
  refine ⟨hplace, ?_⟩
  generalize m.formerPositions.idxOf i = k at hplace
  unfold formerPositions at hplace
  rw [List.getElem?_map, Option.map_eq_some_iff] at hplace
  obtain ⟨⟨x, j⟩, hx, rfl⟩ := hplace
  have hmem := mem_ranked.mp (List.mem_of_getElem? hx)
  rw [List.getElem?_map, hx]
  exact (hmem.symm.trans (List.getElem?_eq_getElem hi))

/-! ## Members of groups -/

/-- The group `g'` of `sorted` is the group `g` of `m` with its members at their places in `order`.
Each entry points to the record that it has pointed to before. -/
structure Follows (m sorted : NetworkModel) (order : List Nat) (g g' : SecurityGroup) : Prop where
  others : { g' with instances := g.instances } = g
  members : List.Forall₂
    (fun i i' => order[i']? = some i ∧
      ∃ x, m.instances[i]? = some x ∧ sorted.instances[i']? = some x) g.instances g'.instances

/-- `sorted` is `m` with its instances in order of name, where `order` lists the positions that they
had before. -/
structure Reordered (m sorted : NetworkModel) (order : List Nat) : Prop where
  /-- Each position is listed once. -/
  positions : order.Perm (List.range m.instances.length)
  /-- The instances are those that stood at the listed positions. -/
  instances : sorted.instances.map some = order.map (m.instances[·]?)
  perm : sorted.instances.Perm m.instances
  ascending : sorted.instances.Pairwise fun a b => Text.bytes a.name ≤ Text.bytes b.name
  /-- Instances of one name stay in order. -/
  stable : order.Pairwise fun i j =>
    (m.instances[i]?).map Instance.name = (m.instances[j]?).map Instance.name → i < j
  secgroups : List.Forall₂ (Follows m sorted order) m.secgroups sorted.secgroups
  sortedInstances : sorted.sortedInstances = true
  others : { sorted with
    instances := m.instances
    secgroups := m.secgroups
    sortedInstances := m.sortedInstances } = m

/-- **The members of a group are found at their new positions.** -/
theorem follows {g : SecurityGroup} (hg : ∀ i ∈ g.instances, i < m.instances.length)
    (hsorted : sorted.instances = m.ranked.map Prod.fst) :
    Follows m sorted m.formerPositions g
      { g with instances := g.instances.map m.formerPositions.idxOf } := by
  refine ⟨rfl, List.forall₂_map_right_iff.mpr (List.forall₂_same.mpr fun i hi => ?_)⟩
  obtain ⟨hplace, hrecord⟩ := getElem?_map_fst_ranked (hg i hi)
  rw [hsorted]
  exact ⟨hplace, _, List.getElem?_eq_getElem (hg i hi), hrecord⟩

/-- Sorting succeeds with one model only. -/
theorem sortInstances?_eq_some_iff : m.sortInstances? = some sorted ↔
    m.membersExist = true ∧ sorted = { m with
      instances := m.ranked.map Prod.fst
      secgroups := m.secgroups.map fun g =>
        { g with instances := g.instances.map m.formerPositions.idxOf }
      sortedInstances := true } := by
  unfold sortInstances?
  split
  · next hmembers =>
    rw [Option.some.injEq, eq_comm]
    exact (and_iff_right hmembers).symm
  · next hmembers => simp [hmembers]

/-- **What sorting does to a model.** -/
theorem reordered_of_sortInstances? (h : m.sortInstances? = some sorted) :
    m.Reordered sorted m.formerPositions := by
  have hsearch := searchable_of_sortInstances? h
  obtain ⟨hmembers, rfl⟩ := sortInstances?_eq_some_iff.mp h
  refine ⟨m.perm_formerPositions, ?_, m.perm_ranked,
    (List.pairwise_map.mp hsearch.ordered).imp Text.bytes_le_iff.mpr, m.pairwise_formerPositions,
    ?_, rfl, rfl⟩
  · unfold formerPositions
    rw [List.map_map, List.map_map]
    exact List.map_congr_left fun p hp => (mem_ranked.mp hp).symm
  · refine List.forall₂_map_right_iff.mpr (List.forall₂_same.mpr fun g hg => ?_)
    exact follows (membersExist_iff.mp hmembers g hg) rfl

/-! ## Sorting again -/

/-- Instances in order are ranked where they are. -/
theorem ranked_of_ordered (h : (m.instances.map Instance.name).Pairwise (· ≤ ·)) :
    m.ranked = m.instances.zipIdx := by
  have hordered : m.instances.zipIdx.Pairwise fun p q => decide (p.1.name ≤ q.1.name) = true := by
    rw [← List.zipIdx_map_fst 0 m.instances, List.map_map] at h
    exact (List.pairwise_map.mp h).imp decide_eq_true
  exact List.mergeSort_of_pairwise hordered

/-- **Instances in order are left as they are**, and so are the members of groups. -/
theorem sortInstances?_of_searchable (h : m.Searchable) (hmembers : m.membersExist = true) :
    m.sortInstances? = some m := by
  have hfst : m.ranked.map Prod.fst = m.instances := by
    rw [ranked_of_ordered h.ordered, List.zipIdx_map_fst]
  have hsnd : m.ranked.map Prod.snd = List.range m.instances.length := by
    rw [ranked_of_ordered h.ordered, List.zipIdx_map_snd, List.range_eq_range']
  have hplace : ∀ i < m.instances.length, (List.range m.instances.length).idxOf i = i := by
    intro i hi
    have hlt : i < (List.range m.instances.length).length := by rwa [List.length_range]
    have hat := List.nodup_range.idxOf_getElem i hlt
    rwa [List.getElem_range] at hat
  have hgroups : m.secgroups.map (fun g => { g with
      instances := g.instances.map (List.range m.instances.length).idxOf }) = m.secgroups := by
    have hsame : m.secgroups.map (fun g => { g with
        instances := g.instances.map (List.range m.instances.length).idxOf }) =
          m.secgroups.map fun g => { g with instances := g.instances.map id } :=
      SecurityGroup.map_replaced_congr fun g hg => List.map_congr_left fun i hi =>
        hplace i (membersExist_iff.mp hmembers g hg i hi)
    simp only [hsame, List.map_id, List.map_id']
  unfold sortInstances?
  rw [if_pos hmembers]
  simp only [hfst, hsnd, hgroups]
  rw [← h.sortedInstances]

/-- Sorted members are still instances. -/
theorem membersExist_of_sortInstances? (h : m.sortInstances? = some sorted) :
    sorted.membersExist = true := by
  obtain ⟨hmembers, rfl⟩ := sortInstances?_eq_some_iff.mp h
  rw [membersExist_iff]
  intro g' hg' i' hi'
  obtain ⟨g, hg, rfl⟩ := List.mem_map.mp hg'
  obtain ⟨i, hi, rfl⟩ := List.mem_map.mp hi'
  have hplace := (getElem?_map_fst_ranked (membersExist_iff.mp hmembers g hg i hi)).2
  exact (List.getElem?_eq_some_iff.mp hplace).1

/-- **Sorting changes nothing but the order of instances**, and what is sorted stays as it is. -/
theorem sorting_keeps_all_but_order
    (h : ∀ g ∈ m.secgroups, ∀ i ∈ g.instances, i < m.instances.length) :
    ∃ sorted order, m.sortInstances? = some sorted ∧ m.sortByTables = .ok sorted ∧
      m.Reordered sorted order ∧
      sorted.sortInstances? = some sorted ∧ sorted.sortByTables = .ok sorted := by
  obtain ⟨sorted, hsearch, htables⟩ := exists_sortByTables (membersExist_iff.mpr h)
  have hmembers := membersExist_of_sortInstances? hsearch
  have hagain := sortInstances?_of_searchable (searchable_of_sortInstances? hsearch) hmembers
  obtain ⟨other, hother, htablesAgain⟩ := exists_sortByTables hmembers
  obtain rfl : other = sorted := Option.some.inj (hother.symm.trans hagain)
  exact ⟨other, m.formerPositions, hsearch, htables, reordered_of_sortInstances? hsearch, hagain,
    htablesAgain⟩

/-- Four instances out of order, two of them of one name, and two groups of them. -/
def Sample.hosts : NetworkModel :=
  { empty with
    instances := [{ name := "i-c", accountId := "one" }, { name := "i-a", accountId := "two" },
      { name := "i-b", accountId := "three" }, { name := "i-a", accountId := "four" }]
    secgroups := [{ name := "web", instances := [0, 3] }, { name := "db", instances := [1, 1] }] }

theorem Sample.formerPositions_hosts : hosts.formerPositions = [1, 3, 2, 0] := by
  have hca : ¬ "i-c" ≤ "i-a" := by decide
  have hba : ¬ "i-b" ≤ "i-a" := by decide
  have hcb : ¬ "i-c" ≤ "i-b" := by decide
  simp [formerPositions, ranked, hosts, List.mergeSort, List.MergeSort.Internal.splitInTwo, hca,
    hba, hcb]

/-- The two instances of one name stay in order, and the groups keep their members. -/
theorem sorting_of_hosts :
    (∀ g ∈ Sample.hosts.secgroups, ∀ i ∈ g.instances, i < Sample.hosts.instances.length) ∧
    ∃ sorted order, Sample.hosts.sortInstances? = some sorted ∧
      Sample.hosts.Reordered sorted order ∧
      sorted.instances.map Instance.accountId = ["two", "four", "three", "one"] ∧
      sorted.secgroups.map SecurityGroup.instances = [[3, 1], [0, 0]] ∧
      sorted.sortInstances? = some sorted := by
  have hmembers : ∀ g ∈ Sample.hosts.secgroups, ∀ i ∈ g.instances,
      i < Sample.hosts.instances.length := by decide
  obtain ⟨sorted, order, hsearch, -, hreordered, hagain, -⟩ := sorting_keeps_all_but_order hmembers
  refine ⟨hmembers, sorted, order, hsearch, hreordered, ?_, ?_, hagain⟩
  · obtain ⟨-, rfl⟩ := sortInstances?_eq_some_iff.mp hsearch
    rw [← atPositions_formerPositions, Sample.formerPositions_hosts]
    rfl
  · obtain ⟨-, rfl⟩ := sortInstances?_eq_some_iff.mp hsearch
    rw [Sample.formerPositions_hosts]
    rfl

end NetworkModel

end CloudNet
