import CloudNet.Model.Renumbering
import CloudNet.Proofs.Membership
import CloudNet.Proofs.SettingsAlone
import CloudNet.Proofs.SnapshotFiles

/-!
# Sorting instances by tables

Sorting by tables does what sorting by search does, and it stops where a group has a member that is
no instance. Nothing else that is looked up can be missed: the ranking lists each position once, so
the table has an entry for each, and each slot is full when it is its turn.

* `places_eq`: the table has the place of every position in the ranking, that is the inverse of it.
* `moveOut_eq`: the instances are moved into the order of the ranking, and none is lost.
* `mapM_renumbered`: members are looked up until one is behind the end of the table.
* `sort_stops_at_dangling`: sorting ends if and only if all members of groups are instances, as in
  every model that was built. Otherwise it stops at the first member that is none.
* `snapshot_stops_sorting`: a snapshot whose model cannot be sorted.
-/

namespace CloudNet

namespace Table

variable {α : Type}

/-! ## Filling a table -/

/-- Writing the places of positions one after the other. A position that is listed gets its place in
the list, and the other entries are left alone. -/
theorem foldlM_write (order : List Nat) (start : Nat) {table : List Nat} (hnodup : order.Nodup)
    (hrange : ∀ i ∈ order, i < table.length) :
    ∃ filled, (order.zipIdx start).foldlM (fun t entry => write t entry.1 entry.2) table =
        .ok filled ∧ filled.length = table.length ∧
      ∀ j, filled[j]? = if j ∈ order then some (start + order.idxOf j) else table[j]? := by
  induction order generalizing start table with
  | nil => exact ⟨table, rfl, rfl, fun j => (if_neg List.not_mem_nil).symm⟩
  | cons i order ih =>
    obtain ⟨hfresh, hnodup⟩ := List.nodup_cons.mp hnodup
    have hi : i < table.length := hrange i List.mem_cons_self
    have hrest : ∀ k ∈ order, k < (table.set i start).length := by
      intro k hk
      rw [List.length_set]
      exact hrange k (List.mem_cons_of_mem i hk)
    obtain ⟨filled, hfilled, hlength, hentry⟩ := ih (start + 1) hnodup hrest
    refine ⟨filled, ?_, hlength.trans List.length_set, fun j => ?_⟩
    · rw [List.zipIdx_cons, List.foldlM_cons, write_of_lt hi]
      exact hfilled
    · rw [hentry j]
      by_cases hj : j = i
      · subst hj
        rw [if_neg hfresh, if_pos List.mem_cons_self, List.getElem?_set_self hi,
          List.idxOf_cons_self, Nat.add_zero]
      · have hmem : j ∈ i :: order ↔ j ∈ order := by simp [hj]
        rw [List.getElem?_set_ne (Ne.symm hj), List.idxOf_cons_ne order (Ne.symm hj)]
        simp only [hmem, Nat.succ_eq_add_one, Nat.add_assoc, Nat.add_comm 1]

/-- **The table of a ranking is its inverse.** -/
theorem places_eq {order : List Nat} {n : Nat} (h : order.Perm (List.range n)) :
    places order = .ok ((List.range n).map order.idxOf) := by
  have hlength : order.length = n := h.length_eq.trans List.length_range
  have hrange : ∀ i ∈ order, i < (List.replicate order.length 0).length := by
    intro i hi
    rw [List.length_replicate, hlength]
    exact List.mem_range.mp (h.mem_iff.mp hi)
  obtain ⟨filled, hfilled, hfilledLength, hentry⟩ :=
    foldlM_write order 0 (h.nodup_iff.mpr List.nodup_range) hrange
  have htable : filled = (List.range n).map order.idxOf := by
    refine List.ext_getElem? fun j => ?_
    rw [hentry j, List.getElem?_map]
    by_cases hj : j < n
    · have hmem : j ∈ order := h.mem_iff.mpr (List.mem_range.mpr hj)
      rw [if_pos hmem, Nat.zero_add, List.getElem?_range hj]
      rfl
    · have hmem : j ∉ order := fun hin => hj (List.mem_range.mp (h.mem_iff.mp hin))
      have hle : n ≤ j := Nat.le_of_not_lt hj
      rw [if_neg hmem, List.getElem?_eq_none (by simpa [hlength] using hle),
        List.getElem?_eq_none (by simpa using hle)]
      rfl
  unfold places
  rw [hfilled, htable]

/-! ## Moving out of slots -/

/-- **What is in full slots is moved out in the order that is asked for**, if no slot is asked for
twice. -/
theorem moveOut_eq {xs : List α} {order : List Nat} {slots : List (Option α)}
    (hnodup : order.Nodup)
    (hfull : ∀ i ∈ order, ∃ x, xs[i]? = some x ∧ slots[i]? = some (some x)) :
    moveOut slots order = .ok (atPositions xs order) := by
  induction order generalizing slots with
  | nil => rfl
  | cons i order ih =>
    obtain ⟨hfresh, hnodup⟩ := List.nodup_cons.mp hnodup
    obtain ⟨x, hx, hslot⟩ := hfull i List.mem_cons_self
    -- emptying this slot leaves those of the positions that are still to come
    have hleft : ∀ j ∈ order, ∃ y, xs[j]? = some y ∧ (slots.set i none)[j]? = some (some y) := by
      intro j hj
      have hne : i ≠ j := fun heq => hfresh (heq ▸ hj)
      rw [List.getElem?_set_ne hne]
      exact hfull j (List.mem_cons_of_mem i hj)
    have hat : atPositions xs (i :: order) = x :: atPositions xs order :=
      List.filterMap_cons_some hx
    rw [moveOut, read_of_getElem? hslot, hat]
    simp only [bind, Except.bind, ih hnodup hleft]
    rfl

/-! ## Looking members up -/

/-- Positions are looked up until one of them is behind the end of the list. -/
theorem mapM_read (xs : List α) (positions : List Nat) :
    positions.mapM (read xs) = match positions.find? (xs.length ≤ ·) with
      | some i => .error ⟨xs.length, i⟩
      | none => .ok (atPositions xs positions) := by
  induction positions with
  | nil => rfl
  | cons i positions ih =>
    rw [List.mapM_cons, ih]
    by_cases hi : xs.length ≤ i
    · rw [List.find?_cons_of_pos (by simpa using hi), read_of_le hi]
      rfl
    · have hlt : i < xs.length := Nat.lt_of_not_le hi
      rw [List.find?_cons_of_neg (by simpa using hi),
        read_of_getElem? (List.getElem?_eq_getElem hlt)]
      cases positions.find? (xs.length ≤ ·) with
      | some j => rfl
      | none =>
        have hat : atPositions xs (i :: positions) = xs[i] :: atPositions xs positions :=
          List.filterMap_cons_some (List.getElem?_eq_getElem hlt)
        rw [hat]
        rfl

/-- What is looked up in a table of all values of a function are its values. -/
theorem atPositions_map_range (f : Nat → α) {n : Nat} {positions : List Nat}
    (h : ∀ i ∈ positions, i < n) :
    atPositions ((List.range n).map f) positions = positions.map f := by
  have hsome : ∀ i ∈ positions, ((List.range n).map f)[i]? = (some ∘ f) i := by
    intro i hi
    rw [List.getElem?_map, List.getElem?_range (h i hi)]
    rfl
  calc atPositions ((List.range n).map f) positions
      = positions.filterMap (some ∘ f) := List.filterMap_congr hsome
    _ = positions.map f := by rw [List.filterMap_eq_map]

end Table

/-- **The members of groups are looked up until one of them is behind the end of the table.** -/
theorem SecurityGroup.mapM_renumbered (table : List Nat) (groups : List SecurityGroup) :
    groups.mapM (·.renumbered table) =
      match (groups.flatMap SecurityGroup.instances).find? (table.length ≤ ·) with
      | some i => .error ⟨table.length, i⟩
      | none => .ok <| groups.map fun g =>
        { g with instances := atPositions table g.instances } := by
  induction groups with
  | nil => rfl
  | cons g groups ih =>
    rw [List.mapM_cons, ih, List.flatMap_cons, List.find?_append]
    unfold renumbered
    rw [Table.mapM_read]
    cases g.instances.find? (table.length ≤ ·) with
    | some i => rfl
    | none =>
      cases (groups.flatMap SecurityGroup.instances).find? (table.length ≤ ·) with
      | some i => rfl
      | none => rfl

/-- Groups whose members are replaced alike are alike. -/
theorem SecurityGroup.map_replaced_congr {groups : List SecurityGroup} {f f' : List Nat → List Nat}
    (h : ∀ g ∈ groups, f g.instances = f' g.instances) :
    groups.map (fun g => { g with instances := f g.instances }) =
      groups.map fun g => { g with instances := f' g.instances } :=
  List.map_congr_left fun g hg => by rw [h g hg]

namespace NetworkModel

variable {m : NetworkModel}

/-! ## The ranking -/

/-- The former positions of the instances once they are in order of name. -/
def formerPositions (m : NetworkModel) : List Nat := m.ranked.map Prod.snd

/-- Each instance has its position with it. -/
theorem mem_ranked {x : Instance} {i : Nat} : (x, i) ∈ m.ranked ↔ m.instances[i]? = some x := by
  unfold ranked
  rw [List.mem_mergeSort, List.mk_mem_zipIdx_iff_getElem?]

/-- **Each position is ranked once.** -/
theorem perm_formerPositions (m : NetworkModel) :
    m.formerPositions.Perm (List.range m.instances.length) := by
  have h := (List.mergeSort_perm m.instances.zipIdx fun a b => a.1.name ≤ b.1.name).map Prod.snd
  rwa [List.zipIdx_map_snd, ← List.range_eq_range'] at h

/-- The new position of the instance at each former one. -/
def newPositions (m : NetworkModel) : List Nat :=
  (List.range m.instances.length).map m.formerPositions.idxOf

theorem length_newPositions (m : NetworkModel) : m.newPositions.length = m.instances.length := by
  rw [newPositions, List.length_map, List.length_range]

theorem nodup_formerPositions (m : NetworkModel) : m.formerPositions.Nodup :=
  m.perm_formerPositions.nodup_iff.mpr List.nodup_range

theorem mem_formerPositions {i : Nat} : i ∈ m.formerPositions ↔ i < m.instances.length :=
  m.perm_formerPositions.mem_iff.trans List.mem_range

/-- The positions are ranked as the instances are that stand there. -/
theorem map_rankedPositions (m : NetworkModel) :
    m.rankedPositions.map Fin.val = m.formerPositions := by
  have hpairs : (List.finRange m.instances.length).map (fun i => (m.instances[i], i.val)) =
      m.instances.zipIdx := by
    refine List.ext_getElem (by simp) fun i hi hi' => ?_
    simp
  have hranked : m.rankedPositions.map (fun i => (m.instances[i], i.val)) = m.ranked := by
    unfold rankedPositions ranked
    rw [← hpairs]
    exact List.map_mergeSort fun _ _ _ _ => rfl
  unfold formerPositions
  rw [← hranked, List.map_map]
  rfl

/-- What stands at the ranked positions are the instances in order of name. -/
theorem atPositions_formerPositions (m : NetworkModel) :
    atPositions m.instances m.formerPositions = m.ranked.map Prod.fst := by
  unfold atPositions formerPositions
  rw [List.filterMap_map, ← List.filterMap_eq_map]
  exact List.filterMap_congr fun p hp => mem_ranked.mp hp

/-! ## The whole sort -/

/-- The first member of a group that is no instance, in the order of the groups. -/
def dangling? (m : NetworkModel) : Option Nat :=
  (m.secgroups.flatMap SecurityGroup.instances).find? (m.instances.length ≤ ·)

theorem membersExist_iff : m.membersExist = true ↔
    ∀ g ∈ m.secgroups, ∀ i ∈ g.instances, i < m.instances.length := by
  unfold membersExist
  simp only [List.all_eq_true, decide_eq_true_eq]

theorem dangling?_eq_none_iff : m.dangling? = none ↔ m.membersExist = true := by
  unfold dangling?
  rw [membersExist_iff, List.find?_eq_none]
  simp only [List.mem_flatMap, decide_eq_true_eq, Nat.not_le]
  constructor
  · intro h g hg i hi
    exact h i ⟨g, hg, hi⟩
  · rintro h i ⟨g, hg, hi⟩
    exact h g hg i hi

/-- What is left of sorting by tables is to look the members up. -/
theorem sortByTables_eq (m : NetworkModel) :
    m.sortByTables = Except.map
      (fun secgroups => { m with
        instances := m.ranked.map Prod.fst, secgroups, sortedInstances := true })
      (m.secgroups.mapM fun g => g.renumbered m.newPositions) := by
  have hfull : ∀ i ∈ m.formerPositions,
      ∃ x, m.instances[i]? = some x ∧ (m.instances.map some)[i]? = some (some x) := by
    intro i hi
    have hx := List.getElem?_eq_getElem (mem_formerPositions.mp hi)
    exact ⟨_, hx, by rw [List.getElem?_map, hx]; rfl⟩
  unfold sortByTables
  simp only [map_rankedPositions, Table.places_eq m.perm_formerPositions,
    Table.moveOut_eq m.nodup_formerPositions hfull, atPositions_formerPositions]
  rfl

/-- Sorting by tables stops at the first member that is no instance. -/
theorem sortByTables_of_dangling {i : Nat} (h : m.dangling? = some i) :
    m.sortByTables = .error ⟨m.instances.length, i⟩ := by
  unfold dangling? at h
  rw [sortByTables_eq, SecurityGroup.mapM_renumbered, length_newPositions, h]
  rfl

/-- **Sorting by tables is sorting by search** where all members are instances. -/
theorem exists_sortByTables (h : m.membersExist = true) :
    ∃ sorted, m.sortInstances? = some sorted ∧ m.sortByTables = .ok sorted := by
  have hnone : (m.secgroups.flatMap SecurityGroup.instances).find? (m.instances.length ≤ ·) =
      none := dangling?_eq_none_iff.mpr h
  have hgroups : m.secgroups.map (fun g =>
        { g with instances := atPositions m.newPositions g.instances }) =
      m.secgroups.map fun g => { g with instances := g.instances.map m.formerPositions.idxOf } :=
    SecurityGroup.map_replaced_congr fun g hg =>
      Table.atPositions_map_range _ (membersExist_iff.mp h g hg)
  refine ⟨_, if_pos h, ?_⟩
  rw [sortByTables_eq, SecurityGroup.mapM_renumbered, length_newPositions, hnone, hgroups]
  rfl

/-! ## Where sorting stops -/

/-- The members of groups in a model that was built are instances of it. -/
theorem membersExist_of_ofDocument {d : Document} {extent : Extent} {hostnames : HostnameCache}
    (h : (ofDocument d extent hostnames).value = .ok m) : m.membersExist = true := by
  cases extent with
  | all =>
    have ha := assembled_of_ofDocument h
    exact membersExist_iff.mpr fun g hg _ hi => (ha.indexes_members hg).1.lt_length hi
  | configOnly =>
    obtain ⟨-, rfl, -⟩ := (value_ofDocument_eq_ok_iff (by decide)).mp h
    have hnone : (assemble d false hostnames).value.membersExist = true := by
      rw [← settingsOnly_assemble]
      rfl
    exact hnone
  | nothing =>
    obtain rfl := Except.ok.inj h
    rfl

/-- **Sorting stops at the first member of a group that is no instance**, in every model, and it
misses nothing else. In a model that was built it does not stop. -/
theorem sort_stops_at_dangling (m : NetworkModel) :
    (∀ miss, m.sortByTables = .error miss ↔
      ∃ i, m.dangling? = some i ∧ miss = ⟨m.instances.length, i⟩) ∧
    (∀ sorted, m.sortByTables = .ok sorted ↔ m.sortInstances? = some sorted) ∧
    ((∃ sorted, m.sortByTables = .ok sorted) ↔
      ∀ g ∈ m.secgroups, ∀ i ∈ g.instances, i < m.instances.length) ∧
    ∀ d extent hostnames, (ofDocument d extent hostnames).value = .ok m →
      ∃ sorted, m.sortByTables = .ok sorted := by
  have hbuilt : ∀ d extent hostnames, (ofDocument d extent hostnames).value = .ok m →
      ∃ sorted, m.sortByTables = .ok sorted := by
    intro d extent hostnames h
    obtain ⟨sorted, -, htables⟩ := exists_sortByTables (membersExist_of_ofDocument h)
    exact ⟨sorted, htables⟩
  rw [← membersExist_iff]
  cases hd : m.dangling? with
  | none =>
    have hmembers := dangling?_eq_none_iff.mp hd
    obtain ⟨sorted, hsearch, htables⟩ := exists_sortByTables hmembers
    refine ⟨fun miss => ?_, fun other => ?_, iff_of_true ⟨sorted, htables⟩ hmembers, hbuilt⟩
    · simp [htables]
    · simp [htables, hsearch]
  | some i =>
    have hstop := sortByTables_of_dangling hd
    have hmembers : ¬ m.membersExist = true := by
      rw [← dangling?_eq_none_iff, hd]
      exact Option.some_ne_none i
    have hsearch : m.sortInstances? = none := if_neg hmembers
    refine ⟨fun miss => ?_, fun other => ?_, iff_of_false ?_ hmembers, hbuilt⟩
    · simp [hstop, eq_comm]
    · simp [hstop, hsearch]
    · simp [hstop]

/-- A model in which a group has a member behind the last instance. -/
def Sample.orphaned : NetworkModel :=
  { empty with
    instances := [{ name := "i-1", accountId := "account" }]
    secgroups := [{ name := "web", accountId := "account", instances := [0, 1] }] }

/-- **The model in a snapshot cannot be sorted** if a group has a member that is no instance, though
asking the group for its instances passes over that member. -/
theorem snapshot_stops_sorting :
    (∃ file after, Directory.writeSnapshot { directories := [["snap"]] } "snap" ⟨2024, 2, 29⟩
        Sample.orphaned = .ok (file, after) ∧ after.readSnapshot file = .ok Sample.orphaned) ∧
    Sample.orphaned.sortByTables = .error ⟨1, 1⟩ ∧
    ∀ g ∈ Sample.orphaned.secgroups,
      ((Sample.orphaned.secgroupInstances g).answer .all .names).names = some ["i-1"] := by
  refine ⟨?_, sortByTables_of_dangling (by decide), by decide⟩
  let start : Directory := { directories := [["snap"]] }
  let today : Day := ⟨2024, 2, 29⟩
  have hd : start.hasDirectory "snap" = true := by decide
  have hfree : start.hasDirectory (Directory.join "snap" today.snapshotName) = false := by decide
  obtain ⟨file, after, h⟩ := Directory.exists_writeSnapshot hd hfree Sample.orphaned
  exact ⟨file, after, h, Directory.readSnapshot_of_writeSnapshot (by unfold Fits; decide) h⟩

end NetworkModel

end CloudNet
