import CloudNet.Proofs.Positions

/-!
# Look-ups that go on

A look-up by name starts at a position and answers where the next one may start. Whoever carries
this position along asks for one name again and again, or for names in the order in which they
stand, and never goes over the same entities twice. A miss leaves the position alone, so that it
does no harm to ask for a name that is not there.

* `hitsFrom_of_none`, `exists_hitsFrom_of_some`: the miss and the hit of one look-up.
* `findEach_replicate`: one name asked for again and again.
* `fst_findEach_of_increasing`: names asked for in the order in which they stand.
* `all_resumable`: both hold of every look-up that goes on.
-/

namespace CloudNet.Lookup

variable {α : Type}

/-- Look names up one after the other, each from where the look-up before it ended. Each answer is
an entity, if there is one, and the position to go on from. -/
def findEach (lookup : String → Nat → Option α × Nat) (start : Nat) :
    List String → List (Option α × Nat)
  | [] => []
  | name :: names => lookup name start :: findEach lookup (lookup name start).2 names

/-- The entities of a name from position `start` on, each with its position, in order. -/
def hitsFrom (key : α → String) (name : String) (xs : List α) (start : Nat) : List (α × Nat) :=
  ((xs.drop start).zipIdx start).filter fun x => key x.1 = name

/-- The position behind the last of the hits, or `start` if there are none. -/
def behind (start : Nat) (hits : List (α × Nat)) : Nat := (hits.getLast?.map (·.2 + 1)).getD start

/-- Where names stand: the position of the first entity of each name that occurs. -/
def positionsNamed (key : α → String) (xs : List α) (names : List String) : List Nat :=
  names.filterMap fun name => index? key name xs

/-- Carrying the position along does what it is meant for. -/
structure Resumable (key : α → String) (xs : List α) (lookup : String → Nat → Option α × Nat) :
    Prop where
  /-- One name leads to each of its entities, then to none, and the position stays. -/
  repeated : ∀ (name : String) (more : Nat),
    findEach lookup 0 (List.replicate ((hitsFrom key name xs 0).length + more) name) =
      (hitsFrom key name xs 0).map (fun x => (some x.1, x.2 + 1)) ++
        List.replicate more (none, behind 0 (hitsFrom key name xs 0))
  /-- Names that stand one after the other, with others that do not occur between them, lead where
  they lead from the start. -/
  fresh : ∀ names : List String, (positionsNamed key xs names).Pairwise (· < ·) →
    (findEach lookup 0 names).map Prod.fst = names.map fun name => (lookup name 0).1

section OneLookup

variable {key : α → String} {name : String} {xs : List α} {start i : Nat}

/-- A hit is at the first position from `start` on at which an entity has the name. -/
theorem findFrom_of_some (h : indexFrom? key name xs start = some i) :
    findFrom key name xs start = (xs[i]?, i + 1) := by
  simp only [findFrom, h]

/-- **A miss**: no entity from `start` on has the name. -/
theorem hitsFrom_of_none (h : indexFrom? key name xs start = none) :
    hitsFrom key name xs start = [] := by
  rw [indexFrom?_eq_none_iff] at h
  refine List.filter_eq_nil_iff.mpr fun x hx => ?_
  rw [decide_eq_true_eq]
  exact h x.1 (List.fst_mem_of_mem_zipIdx hx)

/-- **A hit**: it is the first of the entities of the name, and the others follow behind it. -/
theorem exists_hitsFrom_of_some (h : indexFrom? key name xs start = some i) :
    ∃ x, xs[i]? = some x ∧
      hitsFrom key name xs start = (x, i) :: hitsFrom key name xs (i + 1) := by
  obtain ⟨k, hk, hi⟩ := Option.map_eq_some_iff.mp h
  rw [Nat.add_comm] at hi
  obtain ⟨hlt, hkey, hbefore⟩ := List.findIdx?_eq_some_iff_getElem.mp hk
  simp only [List.length_drop, List.getElem_drop, hi] at hlt hkey
  have hat : i < xs.length := by omega
  -- what is looked through consists of the entities before the hit, the hit and those behind it
  have hparts : xs.drop start = (xs.drop start).take k ++ xs[i] :: xs.drop (i + 1) := by
    rw [← List.drop_eq_getElem_cons hat, ← hi, ← List.drop_drop, List.take_append_drop]
  have hlength : start + ((xs.drop start).take k).length = i := by
    rw [List.length_take, List.length_drop]
    omega
  have hpassed :
      (((xs.drop start).take k).zipIdx start).filter (fun x => key x.1 = name) = [] := by
    refine List.filter_eq_nil_iff.mpr fun x hx => ?_
    obtain ⟨j, hj, hx⟩ := List.mem_take_iff_getElem.mp (List.fst_mem_of_mem_zipIdx hx)
    rw [← hx]
    exact hbefore j (by omega)
  refine ⟨xs[i], List.getElem?_eq_getElem hat, ?_⟩
  unfold hitsFrom
  rw [hparts, List.zipIdx_append, List.filter_append, hpassed, List.nil_append, hlength,
    List.zipIdx_cons]
  exact List.filter_cons_of_pos hkey

/-- The first entity of all is also the first one from any position up to it. -/
theorem indexFrom?_of_first (h : index? key name xs = some i) (hstart : start ≤ i) :
    indexFrom? key name xs start = some i := by
  obtain ⟨k, hk, hi⟩ := Option.map_eq_some_iff.mp h
  obtain rfl : k = i := hi
  rw [List.drop_zero, List.findIdx?_eq_some_iff_getElem] at hk
  obtain ⟨hlt, hkey, hbefore⟩ := hk
  refine Option.map_eq_some_iff.mpr ⟨k - start, ?_, by omega⟩
  rw [List.findIdx?_eq_some_iff_getElem]
  refine ⟨by rw [List.length_drop]; omega, ?_, fun j hj => ?_⟩
  · simpa [List.getElem_drop, Nat.add_sub_cancel' hstart] using hkey
  · simpa [List.getElem_drop] using hbefore (start + j) (by omega)

/-- A name that does not occur does not occur from any position on. -/
theorem indexFrom?_of_absent (h : index? key name xs = none) :
    indexFrom? key name xs start = none := by
  rw [index?, indexFrom?_eq_none_iff] at h
  rw [indexFrom?_eq_none_iff]
  intro x hx
  exact h x (List.mem_of_mem_drop hx)

end OneLookup

section Runs

variable (key : α → String) (xs : List α)

/-- Asking for a name that does not occur any more changes nothing. -/
theorem findEach_replicate_of_none {name : String} {start : Nat}
    (h : indexFrom? key name xs start = none) (more : Nat) :
    findEach (fun name start => findFrom key name xs start) start (List.replicate more name) =
      List.replicate more (none, start) := by
  induction more with
  | zero => rfl
  | succ more ih =>
    rw [List.replicate_succ, findEach, findFrom_of_none h, ih, List.replicate_succ]

theorem behind_cons (start : Nat) (x : α × Nat) (hits : List (α × Nat)) :
    behind start (x :: hits) = behind (x.2 + 1) hits := by
  unfold behind
  rw [List.getLast?_cons]
  cases hits.getLast? with
  | none => rfl
  | some y => rfl

/-- **One name asked for again and again** leads to each of its entities, then to none. -/
theorem findEach_replicate (name : String) (start more : Nat) :
    findEach (fun name start => findFrom key name xs start) start
        (List.replicate ((hitsFrom key name xs start).length + more) name) =
      (hitsFrom key name xs start).map (fun x => (some x.1, x.2 + 1)) ++
        List.replicate more (none, behind start (hitsFrom key name xs start)) := by
  -- by induction on the entities that are left: a hit takes the first of them away
  generalize hhits : hitsFrom key name xs start = hits
  induction hits generalizing start with
  | nil =>
    cases hindex : indexFrom? key name xs start with
    | none =>
      rw [List.length_nil, Nat.zero_add]
      exact findEach_replicate_of_none key xs hindex more
    | some i =>
      obtain ⟨x, -, hcons⟩ := exists_hitsFrom_of_some hindex
      exact absurd (hcons.symm.trans hhits) (List.cons_ne_nil _ _)
  | cons hit hits ih =>
    cases hindex : indexFrom? key name xs start with
    | none => exact absurd (hhits.symm.trans (hitsFrom_of_none hindex)) (List.cons_ne_nil _ _)
    | some i =>
      obtain ⟨x, hx, hcons⟩ := exists_hitsFrom_of_some hindex
      obtain ⟨rfl, hrest⟩ := List.cons.inj (hhits.symm.trans hcons)
      rw [List.length_cons, Nat.add_right_comm, List.replicate_succ, findEach,
        findFrom_of_some hindex, ih (i + 1) hrest.symm, hx, List.map_cons, behind_cons]
      rfl

/-- **Names asked for in the order in which they stand** lead where they lead from the start. -/
theorem fst_findEach_of_increasing {names : List String} {start : Nat}
    (hincreasing : (positionsNamed key xs names).Pairwise (· < ·))
    (hstart : ∀ i ∈ positionsNamed key xs names, start ≤ i) :
    (findEach (fun name start => findFrom key name xs start) start names).map Prod.fst =
      names.map fun name => (findFrom key name xs 0).1 := by
  -- the position that is carried along never passes the first entity of a name still to come
  induction names generalizing start with
  | nil => rfl
  | cons name names ih =>
    rw [findEach, List.map_cons, List.map_cons]
    cases hindex : index? key name xs with
    | none =>
      have hcons : positionsNamed key xs (name :: names) = positionsNamed key xs names :=
        List.filterMap_cons_none hindex
      rw [hcons] at hincreasing hstart
      rw [findFrom_of_none (indexFrom?_of_absent hindex), findFrom_of_none hindex,
        ih hincreasing hstart]
    | some i =>
      have hcons : positionsNamed key xs (name :: names) = i :: positionsNamed key xs names :=
        List.filterMap_cons_some hindex
      rw [hcons] at hincreasing hstart
      obtain ⟨hlater, hincreasing⟩ := List.pairwise_cons.mp hincreasing
      have hfound := indexFrom?_of_first hindex (hstart i List.mem_cons_self)
      rw [findFrom_of_some hfound, findFrom_of_some hindex, ih hincreasing hlater]

/-- Looking a name up from a position does what carrying the position along is meant for. -/
theorem resumable_findFrom :
    Resumable key xs fun name start => findFrom key name xs start where
  repeated name more := findEach_replicate key xs name 0 more
  fresh _ hincreasing := fst_findEach_of_increasing key xs hincreasing fun i _ => i.zero_le

end Runs

/-- **Every look-up that goes on** can be carried along: those for entities of a model, of a VPC,
and for the interfaces of a subnet, as far as these exist. -/
theorem all_resumable (m : NetworkModel) (v : Vpc) (s : VpcSubnet) :
    Resumable Vpc.name m.vpcs m.vpcFrom ∧
    Resumable SecurityGroup.name m.secgroups m.secgroupFrom ∧
    Resumable DhcpOptionSet.name m.dhcpOptionSets m.dhcpOptionSetFrom ∧
    Resumable Instance.name (atPositions m.interfaces s.interfaces) (m.interfaceFrom s) ∧
    Resumable VpcSubnet.name v.subnets v.subnetFrom ∧
    Resumable RouteTable.name v.routeTables v.routeTableFrom ∧
    Resumable NatGateway.name v.natGateways v.natGatewayFrom ∧
    Resumable NetworkAcl.name v.networkAcls v.networkAclFrom :=
  ⟨resumable_findFrom _ _, resumable_findFrom _ _, resumable_findFrom _ _, resumable_findFrom _ _,
    resumable_findFrom _ _, resumable_findFrom _ _, resumable_findFrom _ _, resumable_findFrom _ _⟩

/-- A name that stands twice is found twice. -/
example :
    findEach (fun name start => findFrom id name ["rtb-1", "rtb-2", "rtb-1"] start) 0
        ["rtb-1", "rtb-1", "rtb-1"] = [(some "rtb-1", 1), (some "rtb-1", 3), (none, 3)] := by
  decide

end CloudNet.Lookup
