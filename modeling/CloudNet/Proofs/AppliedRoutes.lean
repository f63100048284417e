import CloudNet.Proofs.References
import CloudNet.Proofs.SettingsAlone

/-!
# Routes in force

Which routes are in force is no part of a document: it is marked on a finished model. Between a
model and the one that the same document gives again nothing is changed once every route is in
force, and until then exactly the subnets that await a route are. `unapplied` forgets which routes
are in force, so the models that differ from `m` in nothing else are those with `a.unapplied = m`.

* `RouteTable.sameAs_unapplied`: a table and the one it was read as are the same if all its routes
  are in force, and only then.
* `VpcSubnet.sameAs_unapplied_eq_false_iff`: a subnet is reported exactly if it awaits a route.
* `Assembled.unapplied_eq`: no route of a finished model is in force.
* `Assembled.routeTableOf?_eq`: the table of a subnet is the first one of the name that the subnet
  gives.
* `only_awaited_routes_change`: all together, for every document that can be used.
-/

namespace CloudNet

/-! ## Tables without routes in force -/

/-- The route before it is in force. -/
def RouteEntry.unapplied (e : RouteEntry) : RouteEntry := { e with applied := false }

/-- The table before any of its routes is in force. -/
def RouteTable.unapplied (t : RouteTable) : RouteTable :=
  { t with entries := t.entries.map RouteEntry.unapplied }

/-- The VPC before any of its routes is in force. -/
def Vpc.unapplied (v : Vpc) : Vpc :=
  { v with routeTables := v.routeTables.map RouteTable.unapplied }

namespace NetworkModel

/-- The model before any of its routes is in force. -/
def unapplied (m : NetworkModel) : NetworkModel := { m with vpcs := m.vpcs.map Vpc.unapplied }

/-- The model with all its routes in force. -/
def markApplied (m : NetworkModel) : NetworkModel := { m with vpcs := m.vpcs.map Vpc.markApplied }

end NetworkModel

/-- A route of the table is not in force. -/
def RouteTable.Awaiting (t : RouteTable) : Prop := ∃ e ∈ t.entries, e.applied = false

/-- The subnet refers to a route table of the VPC with a route that is not in force. -/
def Vpc.Awaits (v : Vpc) (s : VpcSubnet) : Prop := ∃ t, v.routeTableOf? s = some t ∧ t.Awaiting

namespace RouteTable

theorem unapplied_markApplied (t : RouteTable) : t.markApplied.unapplied = t.unapplied := by
  unfold markApplied unapplied
  rw [List.map_map]
  rfl

theorem not_awaiting_markApplied (t : RouteTable) : ¬ t.markApplied.Awaiting := by
  rintro ⟨e, he, happlied⟩
  obtain ⟨_, -, rfl⟩ := List.mem_map.mp he
  cases happlied

/-- The routes agree in all but whether they are in force. -/
theorem all_zip_unapplied (es : List RouteEntry) :
    ((es.zip (es.map RouteEntry.unapplied)).all fun (x, y) =>
      x.applied && x.destCidr == y.destCidr && x.target == y.target) =
        es.all RouteEntry.applied := by
  induction es with
  | nil => rfl
  | cons e es ih =>
    rw [List.map_cons, List.zip_cons_cons, List.all_cons, List.all_cons, ih]
    simp [RouteEntry.unapplied]

/-- **A table and the one it was read as** are the same exactly if all its routes are in force. -/
theorem sameAs_unapplied (t : RouteTable) :
    t.sameAs t.unapplied = t.entries.all RouteEntry.applied := by
  have hlength : t.unapplied.entries.length = t.entries.length := List.length_map _
  have hroutes := all_zip_unapplied t.entries
  unfold sameAs
  rw [hlength, beq_self_eq_true, Bool.and_true]
  show (t.name == t.name && _) = _
  rw [beq_self_eq_true, Bool.true_and]
  exact hroutes

theorem sameAs_unapplied_eq_false_iff (t : RouteTable) :
    t.sameAs t.unapplied = false ↔ t.Awaiting := by
  rw [sameAs_unapplied, List.all_eq_false]
  exact exists_congr fun e => and_congr_right fun _ => (Bool.not_eq_true _).to_iff

end RouteTable

/-! ## Subnets -/

namespace Vpc

theorem unapplied_markApplied (v : Vpc) : v.markApplied.unapplied = v.unapplied := by
  have htables : v.markApplied.routeTables.map RouteTable.unapplied =
      v.routeTables.map RouteTable.unapplied := by
    unfold markApplied
    rw [List.map_map]
    exact List.map_congr_left fun t _ => t.unapplied_markApplied
  unfold unapplied
  rw [htables]
  rfl

theorem not_awaits_markApplied (v : Vpc) (s : VpcSubnet) : ¬ v.markApplied.Awaits s := by
  rintro ⟨t, ht, hawaiting⟩
  obtain ⟨i, -, hi⟩ := Option.bind_eq_some_iff.mp ht
  obtain ⟨r, -, rfl⟩ := List.mem_map.mp (List.mem_of_getElem? hi)
  exact r.not_awaiting_markApplied hawaiting

theorem routeTableOf?_unapplied (v : Vpc) (s : VpcSubnet) :
    v.unapplied.routeTableOf? s = (v.routeTableOf? s).map RouteTable.unapplied := by
  unfold routeTableOf?
  cases s.routeTable with
  | none => rfl
  | some i => exact List.getElem?_map

end Vpc

/-- **A subnet is reported exactly if it awaits a route.** One without a table awaits none. -/
theorem VpcSubnet.sameAs_unapplied_eq_false_iff (v : Vpc) (s : VpcSubnet) :
    s.sameAs v v.unapplied s = false ↔ v.Awaits s := by
  have hsame : s.sameAs v v.unapplied s =
      sameTables (v.routeTableOf? s) (v.unapplied.routeTableOf? s) := by
    simp [VpcSubnet.sameAs]
  rw [hsame, v.routeTableOf?_unapplied]
  unfold Vpc.Awaits
  cases v.routeTableOf? s with
  | none => simp [sameTables]
  | some t => simpa [sameTables] using t.sameAs_unapplied_eq_false_iff

/-! ## Finished models -/

/-- No route of a VPC that is read is in force. -/
theorem Vpc.unapplied_of_mem_listed {part : Option Element} {v : Vpc} (hv : v ∈ Vpc.listed part) :
    v.unapplied = v := by
  obtain ⟨e, -, rfl⟩ := List.mem_map.mp hv
  have htables : ∀ tables : List Element,
      (tables.map RouteTable.ofElement).map RouteTable.unapplied =
        tables.map RouteTable.ofElement := by
    intro tables
    rw [List.map_map]
    refine List.map_congr_left fun t _ => ?_
    show RouteTable.unapplied (RouteTable.ofElement t) = RouteTable.ofElement t
    unfold RouteTable.unapplied RouteTable.ofElement
    rw [List.map_map]
    rfl
  unfold Vpc.unapplied Vpc.ofElement
  simp only [Noted.value_bind, Noted.value_mapList, Noted.value_pure, htables]

namespace NetworkModel

theorem unapplied_markApplied (m : NetworkModel) : m.markApplied.unapplied = m.unapplied := by
  have hvpcs : m.markApplied.vpcs.map Vpc.unapplied = m.vpcs.map Vpc.unapplied := by
    unfold markApplied
    rw [List.map_map]
    exact List.map_congr_left fun v _ => v.unapplied_markApplied
  unfold unapplied
  rw [hvpcs]
  rfl

/-- **No route of a finished model is in force.** -/
theorem Assembled.unapplied_eq {s : Sections} {m : NetworkModel} (h : Assembled s m) :
    m.unapplied = m := by
  have hvpcs : m.vpcs.map Vpc.unapplied = m.vpcs := by
    refine (List.map_congr_left fun v hv => ?_).trans (List.map_id m.vpcs)
    rw [h.vpcs] at hv
    obtain ⟨r, hr, rfl⟩ := List.mem_map.mp hv
    -- linking a VPC leaves its route tables alone
    have htables : r.unapplied.routeTables = r.routeTables :=
      congrArg Vpc.routeTables (Vpc.unapplied_of_mem_listed hr)
    exact congrArg (fun routeTables => { (m.linkVpc r).value with routeTables }) htables
  unfold unapplied
  rw [hvpcs]

/-- **The table of a subnet is the first one of the name that the subnet gives**, whatever routes
are in force. -/
theorem Assembled.routeTableOf?_eq {s : Sections} {m a : NetworkModel} (h : Assembled s m)
    (ha : a.unapplied = m) {v : Vpc} (hv : v ∈ a.vpcs) {x : VpcSubnet} (hx : x ∈ v.subnets) :
    v.routeTableOf? x =
      if x.routeTableName = "" then none
      else v.routeTables.find? fun t => t.name = x.routeTableName := by
  have hmem : v.unapplied ∈ m.vpcs := by
    rw [← ha]
    exact List.mem_map_of_mem hv
  have hresolved := ((h.linked hmem).subnets x hx).routeTable
  exact (Resolved.of_map (f := RouteTable.unapplied) hresolved).bind_getElem?

end NetworkModel

/-! ## Changes -/

namespace Vpc

/-- Nothing is reported for the VPC and what belongs to it. -/
structure Unchanged (a b : Vpc) : Prop where
  vpc : a.sameAs b = true
  subnets : List.Forall₂ (fun x y => VpcSubnet.sameAs a x b y = true) a.subnets b.subnets
  routeTables : List.Forall₂ (fun x y => RouteTable.sameAs x y = true) a.routeTables b.routeTables
  natGateways : List.Forall₂ (fun x y => NatGateway.sameAs x y = true) a.natGateways b.natGateways

/-- The subnets of the VPC that are reported are those whose route table awaits a route. That table
is the first one of the name that the subnet gives. -/
structure ReportsAwaited (a b : Vpc) : Prop where
  reported : List.Forall₂ (fun x y => VpcSubnet.sameAs a x b y = false ↔ a.Awaits x)
    a.subnets b.subnets
  routeTable : ∀ x ∈ a.subnets, a.routeTableOf? x =
    if x.routeTableName = "" then none
    else a.routeTables.find? fun t => t.name = x.routeTableName

theorem sameAs_unapplied (v : Vpc) : v.sameAs v.unapplied = true := by
  simp [sameAs, unapplied]

/-- A VPC with all its routes in force is unchanged. -/
theorem unchanged_markApplied (v : Vpc) : v.markApplied.Unchanged v.markApplied.unapplied where
  vpc := v.markApplied.sameAs_unapplied
  subnets := by
    refine List.forall₂_same.mpr fun x _ => ?_
    rw [← Bool.not_eq_false, VpcSubnet.sameAs_unapplied_eq_false_iff]
    exact v.not_awaits_markApplied x
  routeTables := by
    refine List.forall₂_map_right_iff.mpr (List.forall₂_same.mpr fun t ht => ?_)
    obtain ⟨r, -, rfl⟩ := List.mem_map.mp ht
    rw [← Bool.not_eq_false, RouteTable.sameAs_unapplied_eq_false_iff]
    exact r.not_awaiting_markApplied
  natGateways := List.forall₂_same.mpr fun n _ => beq_self_eq_true n.name

end Vpc

theorem Rule.sameMatch_self (r : Rule) : r.sameMatch r = true := by
  simp [sameMatch]

theorem rulesDiffer_self (rules : List Rule) : rulesDiffer rules rules = false := by
  have hmatch : List.Forall₂ (fun a b => Rule.sameMatch a b = true) rules rules :=
    List.forall₂_same.mpr fun r _ => r.sameMatch_self
  obtain ⟨hlength, hzip⟩ := List.forall₂_iff_zip.mp hmatch
  exact rulesDiffer_eq_false_iff.mpr ⟨hlength, fun _ _ hmem => hzip hmem⟩

/-- Nothing changes in a group whose members are those of another model with the same
interfaces. -/
theorem SecurityGroup.changes_self {a b : NetworkModel} (h : a.interfaces = b.interfaces)
    (g : SecurityGroup) : g.changes a b g = ⟨true, false, false, false⟩ := by
  have hnames : g.interfaceNames a = g.interfaceNames b := by
    unfold interfaceNames
    rw [h]
  unfold changes
  rw [bne_self_eq_false, hnames, bne_self_eq_false]
  simp [rulesDiffer_self]

theorem Instance.changes_self (i : Instance) :
    i.changes i = ⟨true, false, false, false, false⟩ := by
  simp [changes]

namespace NetworkModel

/-- Nothing is reported between the models: neither for the settings nor for an entity and the one
at its place. -/
structure Unchanged (a b : NetworkModel) : Prop where
  settings : ConfigChange.between a b = .none
  vpcs : List.Forall₂ Vpc.Unchanged a.vpcs b.vpcs
  secgroups : List.Forall₂ (fun x y => SecurityGroup.changes a x b y =
    { same := true, ingress := false, egress := false, interfaces := false })
    a.secgroups b.secgroups
  instances : List.Forall₂ (fun x y => Instance.changes x y =
    { same := true, publicIp := false, srcDstCheck := false, host := false, secgroups := false })
    a.instances b.instances
  interfaces : List.Forall₂ (fun x y => Instance.changes x y =
    { same := true, publicIp := false, srcDstCheck := false, host := false, secgroups := false })
    a.interfaces b.interfaces

/-- A model with all its routes in force is unchanged. -/
theorem unchanged_markApplied (m : NetworkModel) : m.markApplied.Unchanged m.unapplied where
  settings := ConfigChange.between_self m
  vpcs := by
    refine List.forall₂_map_left_iff.mpr (List.forall₂_map_right_iff.mpr ?_)
    refine List.forall₂_same.mpr fun v _ => ?_
    rw [← v.unapplied_markApplied]
    exact v.unchanged_markApplied
  secgroups := List.forall₂_same.mpr fun g _ => g.changes_self rfl
  instances := List.forall₂_same.mpr fun i _ => i.changes_self
  interfaces := List.forall₂_same.mpr fun i _ => i.changes_self

/-- **Only awaited routes are reported as changes** between two models of one document. With all
routes in force nothing is. With any of them in force a subnet is reported exactly if the first
route table of the name that it gives has a route that is not. -/
theorem only_awaited_routes_change {d : Document} {hostnames : HostnameCache} {m : NetworkModel}
    (h : (ofDocument d .all hostnames).value = .ok m) :
    m.markApplied.Unchanged m ∧ m.markApplied.unapplied = m ∧
      ∀ a : NetworkModel, a.unapplied = m → List.Forall₂ Vpc.ReportsAwaited a.vpcs m.vpcs := by
  have ha := assembled_of_ofDocument h
  refine ⟨?_, m.unapplied_markApplied.trans ha.unapplied_eq, fun a hunapplied => ?_⟩
  · have hunchanged := m.unchanged_markApplied
    rwa [ha.unapplied_eq] at hunchanged
  · have hvpcs : m.vpcs = a.vpcs.map Vpc.unapplied := by
      rw [← hunapplied]
      rfl
    rw [hvpcs]
    refine List.forall₂_map_right_iff.mpr (List.forall₂_same.mpr fun v hv => ?_)
    exact {
      reported := List.forall₂_same.mpr fun x _ => x.sameAs_unapplied_eq_false_iff v
      routeTable := fun x hx => ha.routeTableOf?_eq hunapplied hv hx }

end NetworkModel

/-! ## A VPC with two route tables -/

namespace Sample

/-- A subnet that refers to a route table. -/
def routedSubnet (name table : String) : Content :=
  entity "subnet" name [field "ownerId" "account", field "routeTable" table]

/-- A route to a gateway. -/
def route (block gateway : String) : Content :=
  part "route" [field "destinationCidr" block, field "gatewayId" gateway]

/-- A VPC with a route table of two routes and one of none. Of its subnets the third one names a
table that is not there, the last one names none. -/
def routed : Document where
  root := ⟨"network-data", [{ name := "version", value := "7" }], [
    part "configuration" [
      setting "mode" "VPCMIDO", setting "enabledCLCIp" "10.0.0.1",
      setting "instanceDNSDomain" "cloud.internal", setting "instanceDNSServers" "10.0.0.2"],
    part "vpcs" [
      entity "vpc" "vpc-1" [
        field "ownerId" "account",
        part "routeTables" [
          entity "routeTable" "rtb-1" [field "ownerId" "account", part "routes" [
            route "0.0.0.0/0" "igw-1", route "10.2.0.0/16" "igw-2"]],
          entity "routeTable" "rtb-2" [field "ownerId" "account"]],
        part "subnets" [
          routedSubnet "subnet-1" "rtb-1", routedSubnet "subnet-2" "rtb-2",
          routedSubnet "subnet-3" "rtb-3", entity "subnet" "subnet-4" [
            field "ownerId" "account"]]]]]⟩

/-- The VPC, given which of its two routes are in force. -/
def routedVpc (first second : Bool) : Vpc where
  name := "vpc-1"
  accountId := "account"
  routeTables := [
    { name := "rtb-1", accountId := "account", entries := [
      { destCidr := "0.0.0.0/0", target := "igw-1", applied := first },
      { destCidr := "10.2.0.0/16", target := "igw-2", applied := second }] },
    { name := "rtb-2", accountId := "account" }]
  subnets := [
    { name := "subnet-1", accountId := "account", routeTableName := "rtb-1", routeTable := some 0 },
    { name := "subnet-2", accountId := "account", routeTableName := "rtb-2", routeTable := some 1 },
    { name := "subnet-3", accountId := "account", routeTableName := "rtb-3" },
    { name := "subnet-4", accountId := "account" }]

/-- The model of the network, given which of the two routes are in force. -/
def routedModel (first second : Bool) : NetworkModel where
  initialized := true
  mode := "VPCMIDO"
  version := "7"
  controllerIp := 167772161
  dnsDomain := "cloud.internal"
  dnsServers := [167772162]
  sortedInstances := true
  vpcs := [routedVpc first second]

/-- **The build of the network succeeds.** -/
theorem ofDocument_routed :
    (NetworkModel.ofDocument routed .all {}).value = .ok (routedModel false false) := by
  have hsorted : Instance.byName (NetworkModel.unsorted routed) = [] := List.mergeSort_nil
  exact NetworkModel.ofDocument_of_sorted rfl hsorted (by decide +kernel) (by decide +kernel)

end Sample

namespace NetworkModel

/-- While the second route is not in force the first subnet is reported, and no other one is. -/
theorem awaited_of_routed :
    (ofDocument Sample.routed .all {}).value = .ok (Sample.routedModel false false) ∧
    (Sample.routedModel true true).Unchanged (Sample.routedModel false false) ∧
    (Sample.routedModel true false).unapplied = Sample.routedModel false false ∧
    (Sample.routedVpc true false).ReportsAwaited (Sample.routedVpc false false) ∧
    (Sample.routedVpc true false).subnets.map (fun s =>
      s.sameAs (Sample.routedVpc true false) (Sample.routedVpc false false) s) =
        [false, true, true, true] := by
  obtain ⟨hunchanged, -, hreported⟩ := only_awaited_routes_change Sample.ofDocument_routed
  have hvpcs := hreported (Sample.routedModel true false) rfl
  exact ⟨Sample.ofDocument_routed, hunchanged, rfl, (List.forall₂_cons.mp hvpcs).1, by decide⟩

end NetworkModel

end CloudNet
