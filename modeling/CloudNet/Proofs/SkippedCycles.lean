import CloudNet.Proofs.AppliedRoutes

/-!
# Changes over several cycles

A program that reads the network again and again may leave out cycles, and compare the entity it
acted on last with one that was read later. Nothing is missed and nothing is made up by that if no
change in each cycle means no change over all of them.

Every comparison looks at a key of either side: the fields that are compared, with positions
resolved in the model or VPC that they belong to. No change means that the keys are equal. For route
tables, and for subnets through their route table, it also means that the routes of the first side
are in force. The second side is not asked that, so these comparisons are not symmetric.

* `ComparesBy`: a comparison by keys that also asks something of its first side;
  `ComparesBy.composes` is what follows over any number of cycles.
* `SecurityGroup.comparesBy`, `Instance.comparesBy`, `Vpc.comparesBy`, `RouteTable.comparesBy`,
  `VpcSubnet.comparesBy`: the key of each comparison.
* `changes_compose`: all together.
-/

namespace CloudNet

/-! ## Comparisons by keys -/

section Keys

variable {α β : Type}

/-- The comparison asks whether the first side is settled and both sides have one key. -/
def ComparesBy (same : α → α → Bool) (settled : α → Prop) (key : α → β) : Prop :=
  ∀ a b, same a b = true ↔ settled a ∧ key a = key b

/-- Comparisons that report no change make one that reports none: of two in a row, and of all cycles
from `t` on over any positive number of them. -/
structure Composes (same : α → α → Bool) : Prop where
  trans : ∀ a b c, same a b = true → same b c = true → same a c = true
  skip : ∀ (history : Nat → α) (t k : Nat),
    (∀ i ≤ k, same (history (t + i)) (history (t + i + 1)) = true) →
      same (history t) (history (t + (k + 1))) = true

namespace ComparesBy

variable {same : α → α → Bool} {settled : α → Prop} {key : α → β}

/-- Without a change in any cycle the key stays the one of the first cycle. -/
theorem key_history (h : ComparesBy same settled key) {history : Nat → α} {t k : Nat}
    (hquiet : ∀ i < k, same (history (t + i)) (history (t + i + 1)) = true) :
    key (history t) = key (history (t + k)) := by
  induction k with
  | zero => rfl
  | succ k ih =>
    have hfirst := ih fun i hi => hquiet i (by omega)
    have hlast := (h _ _).mp (hquiet k (by omega))
    exact hfirst.trans hlast.2

/-- **Comparisons by keys compose**: the first side stays settled, and the key stays the same. -/
theorem composes (h : ComparesBy same settled key) : Composes same where
  trans := by
    intro a b c hab hbc
    obtain ⟨hsettled, hfirst⟩ := (h a b).mp hab
    obtain ⟨-, hsecond⟩ := (h b c).mp hbc
    exact (h a c).mpr ⟨hsettled, hfirst.trans hsecond⟩
  skip := by
    intro history t k hquiet
    obtain ⟨hsettled, -⟩ := (h _ _).mp (hquiet 0 (Nat.zero_le k))
    have hkey := h.key_history (k := k + 1) fun i hi => hquiet i (by omega)
    exact (h _ _).mpr ⟨hsettled, hkey⟩

/-- A side is the same as itself exactly if it is settled. -/
theorem self_iff (h : ComparesBy same settled key) (a : α) : same a a = true ↔ settled a := by
  rw [h a a]
  exact and_iff_left rfl

/-- Between settled sides it does not matter which one comes first. -/
theorem comm (h : ComparesBy same settled key) {a b : α} (ha : settled a) (hb : settled b) :
    same a b = true ↔ same b a = true := by
  rw [h a b, h b a, and_iff_right ha, and_iff_right hb]
  exact eq_comm

/-- **A comparison that asks nothing else of its first side** is an equivalence. -/
theorem equivalence (h : ComparesBy same (fun _ => True) key) :
    Equivalence fun a b => same a b = true where
  refl := fun a => (h.self_iff a).mpr trivial
  symm := fun hab => (h.comm trivial trivial).mp hab
  trans := fun hab hbc => h.composes.trans _ _ _ hab hbc

end ComparesBy

/-- Lists of one length whose elements at one position have one key. -/
theorem forall₂_key_iff {key : α → β} {xs ys : List α} :
    List.Forall₂ (fun x y => key x = key y) xs ys ↔ xs.map key = ys.map key := by
  rw [← List.forall₂_eq_eq_eq, List.forall₂_map_left_iff, List.forall₂_map_right_iff]

/-- A comparison of the lengths and then of what stands at one position. -/
theorem length_and_all_zip_iff {r : α × α → Bool} {xs ys : List α} :
    (xs.length == ys.length && (xs.zip ys).all r) = true ↔
      List.Forall₂ (fun x y => r (x, y) = true) xs ys := by
  rw [List.forall₂_iff_zip, Bool.and_eq_true, beq_iff_eq, List.all_eq_true]
  exact and_congr_right fun _ => ⟨fun h a b hab => h (a, b) hab, fun h p hp => h hp⟩

end Keys

/-! ## Security groups -/

/-- The fields that two rules are compared by, as a rule. The owner of the peer group and the text
of the source block are not among them. -/
def Rule.compared (r : Rule) : Rule := { r with groupOwnerId := "", cidr := "" }

/-- What a group of a model is compared by: its name, its rules, and the names of its member
interfaces there. -/
def SecurityGroup.compared (m : NetworkModel) (g : SecurityGroup) :
    String × List Rule × List Rule × List String :=
  (g.name, g.ingressRules.map Rule.compared, g.egressRules.map Rule.compared, g.interfaceNames m)

/-- No change is reported between two groups, each given with its model. -/
def SecurityGroup.unchanged (a b : NetworkModel × SecurityGroup) : Bool :=
  (a.2.changes a.1 b.1 b.2).same

theorem Rule.sameMatch_iff (a b : Rule) : a.sameMatch b = true ↔ a.compared = b.compared := by
  unfold sameMatch compared
  simp only [Bool.and_eq_true, beq_iff_eq, Rule.mk.injEq, true_and]
  constructor
  · rintro ⟨⟨⟨⟨⟨⟨⟨haddress, hlength⟩, hprotocol⟩, hfrom⟩, hto⟩, htype⟩, hcode⟩, hgroup⟩
    exact ⟨hprotocol, hgroup, haddress, hlength, hfrom, hto, htype, hcode⟩
  · rintro ⟨hprotocol, hgroup, haddress, hlength, hfrom, hto, htype, hcode⟩
    exact ⟨⟨⟨⟨⟨⟨⟨haddress, hlength⟩, hprotocol⟩, hfrom⟩, hto⟩, htype⟩, hcode⟩, hgroup⟩

/-- Lists of rules do not differ if they are compared by the same. -/
theorem rulesDiffer_eq_false_iff_compared (as bs : List Rule) :
    rulesDiffer as bs = false ↔ as.map Rule.compared = bs.map Rule.compared := by
  rw [rulesDiffer_eq_false_iff, ← forall₂_key_iff, List.forall₂_iff_zip]
  simp only [Rule.sameMatch_iff]

theorem SecurityGroup.comparesBy :
    ComparesBy unchanged (fun _ => True) fun a => a.2.compared a.1 := by
  rintro ⟨ma, a⟩ ⟨mb, b⟩
  unfold unchanged changes compared
  rw [true_and]
  by_cases hname : a.name = b.name
  · simp only [hname, bne_self_eq_false, Bool.false_eq_true, if_false, Bool.not_eq_true',
      Bool.or_eq_false_iff, rulesDiffer_eq_false_iff_compared, bne_eq_false_iff_eq, Prod.mk.injEq,
      true_and, and_assoc]
  · simp [hname]

/-! ## Interfaces and VPCs -/

/-- No change is reported between two interfaces. -/
def Instance.unchanged (a b : Instance) : Bool := (a.changes b).same

theorem Instance.comparesBy : ComparesBy unchanged (fun _ => True) fun i =>
    (i.name, i.publicIp, i.srcDstCheck, i.node, i.secgroupNames) := by
  intro a b
  unfold unchanged changes
  rw [true_and]
  by_cases hname : a.name = b.name
  · simp [hname, and_assoc]
  · simp [hname]

theorem Vpc.comparesBy : ComparesBy sameAs (fun _ => True) fun v =>
    (v.name, v.dhcpOptionSetName, v.internetGatewayNames.length, v.natGateways.length,
      v.networkAcls.length, v.routeTables.length, v.subnets.length) := by
  intro a b
  unfold sameAs
  simp only [Bool.and_eq_true, beq_iff_eq, Prod.mk.injEq, true_and, and_assoc]

/-! ## Route tables and subnets -/

/-- All routes of the table are in force. -/
def RouteTable.InForce (t : RouteTable) : Prop := ∀ e ∈ t.entries, e.applied = true

/-- What a route table is compared by: its name and its routes, in force or not. -/
def RouteTable.compared (t : RouteTable) : String × List RouteEntry :=
  (t.name, t.entries.map RouteEntry.unapplied)

theorem RouteTable.comparesBy : ComparesBy sameAs InForce compared := by
  intro a b
  have hroute : ∀ x y : RouteEntry,
      (x.applied && x.destCidr == y.destCidr && x.target == y.target) = true ↔
        x.applied = true ∧ x.unapplied = y.unapplied := by
    intro x y
    simp only [RouteEntry.unapplied, Bool.and_eq_true, beq_iff_eq, RouteEntry.mk.injEq, and_true,
      and_assoc]
  unfold sameAs InForce compared
  rw [Bool.and_assoc, Bool.and_eq_true, beq_iff_eq, length_and_all_zip_iff, Prod.mk.injEq,
    ← forall₂_key_iff]
  simp only [hroute]
  rw [List.forall₂_and_left]
  exact and_left_comm

/-- No change is reported between two subnets, each given with its VPC. -/
def VpcSubnet.unchanged (a b : Vpc × VpcSubnet) : Bool := a.2.sameAs a.1 b.1 b.2

/-- Tables that may be missing are the same if both are missing, or if both are there and the first
one is in force. -/
theorem sameTables_iff (a b : Option RouteTable) :
    sameTables a b = true ↔
      (∀ t ∈ a, t.InForce) ∧ a.map RouteTable.compared = b.map RouteTable.compared := by
  cases a with
  | none =>
    cases b with
    | none => simp [sameTables]
    | some tb => simp [sameTables]
  | some ta =>
    cases b with
    | none => simp [sameTables]
    | some tb => simpa [sameTables] using RouteTable.comparesBy ta tb

theorem VpcSubnet.comparesBy :
    ComparesBy unchanged (fun a => ∀ t ∈ a.1.routeTableOf? a.2, t.InForce) fun a =>
      (a.2.name, a.2.routeTableName, a.2.networkAclName,
        (a.1.routeTableOf? a.2).map RouteTable.compared) := by
  rintro ⟨va, a⟩ ⟨vb, b⟩
  unfold unchanged sameAs
  simp only [Bool.and_eq_true, beq_iff_eq, sameTables_iff, Prod.mk.injEq, and_assoc]
  tauto

/-! ## All comparisons -/

/-- **Changes compose across cycles.** For groups, interfaces and VPCs no change is an equivalence,
and it is reported exactly if no aspect changed. Route tables and subnets compose as well; a table
is the same as itself exactly if all its routes are in force, and between two such tables it does
not matter which one comes first. -/
theorem changes_compose :
    (Equivalence fun a b => SecurityGroup.unchanged a b = true) ∧
    (Equivalence fun a b => Instance.unchanged a b = true) ∧
    (Equivalence fun a b => Vpc.sameAs a b = true) ∧
    (∀ a b : NetworkModel × SecurityGroup, SecurityGroup.unchanged a b = true ↔
      (a.2.changes a.1 b.1 b.2).ingress = false ∧ (a.2.changes a.1 b.1 b.2).egress = false ∧
        (a.2.changes a.1 b.1 b.2).interfaces = false) ∧
    (∀ a b : Instance, Instance.unchanged a b = true ↔
      (a.changes b).publicIp = false ∧ (a.changes b).srcDstCheck = false ∧
        (a.changes b).host = false ∧ (a.changes b).secgroups = false) ∧
    (∀ t : RouteTable, t.sameAs t = true ↔ ∀ e ∈ t.entries, e.applied = true) ∧
    (∀ a b : RouteTable, (∀ e ∈ a.entries, e.applied = true) →
      (∀ e ∈ b.entries, e.applied = true) → (a.sameAs b = true ↔ b.sameAs a = true)) ∧
    Composes SecurityGroup.unchanged ∧ Composes Instance.unchanged ∧ Composes Vpc.sameAs ∧
    Composes VpcSubnet.unchanged ∧ Composes RouteTable.sameAs :=
  ⟨SecurityGroup.comparesBy.equivalence, Instance.comparesBy.equivalence,
    Vpc.comparesBy.equivalence, fun _ _ => SecurityGroup.changes_same_iff,
    fun _ _ => Instance.changes_same_iff,
    RouteTable.comparesBy.self_iff, fun _ _ => RouteTable.comparesBy.comm,
    SecurityGroup.comparesBy.composes, Instance.comparesBy.composes, Vpc.comparesBy.composes,
    VpcSubnet.comparesBy.composes, RouteTable.comparesBy.composes⟩

/-- A table of one route, which is in force for two cycles and is then read again. -/
def Sample.tableAt (cycle : Nat) : RouteTable where
  name := "rtb-1"
  accountId := "account"
  entries := [{ destCidr := "0.0.0.0/0", target := "igw-1", applied := decide (cycle < 2) }]

/-- No cycle reports a change of that table, so nothing is reported over both of them either. The
other way round the last table is reported, because its route is not in force. -/
theorem table_over_two_cycles :
    (∀ i ≤ 1, (Sample.tableAt (0 + i)).sameAs (Sample.tableAt (0 + i + 1)) = true) ∧
    (Sample.tableAt 0).sameAs (Sample.tableAt 2) = true ∧
    (∀ e ∈ (Sample.tableAt 0).entries, e.applied = true) ∧
    (∀ e ∈ (Sample.tableAt 1).entries, e.applied = true) ∧
    (Sample.tableAt 1).sameAs (Sample.tableAt 0) = true ∧
    (Sample.tableAt 2).sameAs (Sample.tableAt 0) = false := by
  obtain ⟨-, -, -, -, -, -, hcomm, -, -, -, -, htables⟩ := changes_compose
  have hcycles : ∀ i ≤ 1,
      (Sample.tableAt (0 + i)).sameAs (Sample.tableAt (0 + i + 1)) = true := by decide
  have hfirst : ∀ e ∈ (Sample.tableAt 0).entries, e.applied = true := by decide
  have hsecond : ∀ e ∈ (Sample.tableAt 1).entries, e.applied = true := by decide
  exact ⟨hcycles, htables.skip Sample.tableAt 0 1 hcycles, hfirst, hsecond,
    (hcomm _ _ hfirst hsecond).mp (hcycles 0 (by decide)), by decide⟩

end CloudNet
