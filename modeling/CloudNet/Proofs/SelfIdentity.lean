import CloudNet.Identity
import CloudNet.Proofs.Addresses

/-!
# Where a host finds itself

A host looks for the cluster and for the node that it is, by the addresses that it is told. Both
searches go through the clusters in order, with different conditions: a cluster counts for its
controller or for any of its nodes, a node for its own name only. So the two may end in different
clusters, but only if the controller of an earlier cluster is on this host too.

* `LocalAddresses.has_ofTexts`, `LocalAddresses.hasText_ofTexts`: which addresses and which names
  are local, in terms of the texts that a host is told.
* `FirstWith.of_imp`: of two searches through one list the one with the weaker condition ends first.
* `find?_flatMap_eq_some_iff`: a search through lists that are put together ends in the first one
  that has what is searched for.
* `NetworkModel.self_found_in_order`: what both searches find, and how they agree.
-/

namespace CloudNet

/-! ## The first of a list -/

section FirstWith

variable {α β : Type} {p q : α → Prop} {xs : List α}

/-- `x` is the first element of `xs` with `p`, and `k` is its position. -/
structure FirstWith (p : α → Prop) (xs : List α) (k : Nat) (x : α) : Prop where
  here : xs[k]? = some x
  holds : p x
  before : ∀ y ∈ xs.take k, ¬ p y

theorem FirstWith.congr (hpq : ∀ x, p x ↔ q x) {k : Nat} {x : α} :
    FirstWith p xs k x ↔ FirstWith q xs k x := by
  rw [funext fun x => propext (hpq x)]

/-- The elements around the first one. -/
theorem FirstWith.append_eq {k : Nat} {x : α} (h : FirstWith p xs k x) :
    xs = xs.take k ++ x :: xs.drop (k + 1) := by
  obtain ⟨hlt, rfl⟩ := List.getElem?_eq_some_iff.1 h.here
  rw [List.getElem_cons_drop, List.take_append_drop]

/-- **A search finds the first element** of its condition. -/
theorem find?_eq_some_iff_firstWith {p : α → Bool} {x : α} :
    xs.find? p = some x ↔ ∃ k, FirstWith (fun x => p x = true) xs k x := by
  rw [List.find?_eq_some_iff_append]
  constructor
  · rintro ⟨hp, before, after, rfl, hbefore⟩
    refine ⟨before.length, by simp, hp, fun y hy => ?_⟩
    rw [List.take_left] at hy
    simpa using hbefore y hy
  · rintro ⟨k, h⟩
    exact ⟨h.holds, xs.take k, xs.drop (k + 1), h.append_eq, fun y hy => by
      simpa using h.before y hy⟩

/-- Before an element with `p`, or there, stands the first one. -/
theorem exists_firstWith {k : Nat} {x : α} (hk : xs[k]? = some x) (hp : p x) :
    ∃ i ≤ k, ∃ y, FirstWith p xs i y := by
  induction k using Nat.strongRecOn generalizing x with
  | ind k ih =>
    by_cases hbefore : ∀ y ∈ xs.take k, ¬ p y
    · exact ⟨k, Nat.le_refl k, x, hk, hp, hbefore⟩
    · simp only [not_forall, not_not] at hbefore
      obtain ⟨y, hy, hpy⟩ := hbefore
      obtain ⟨j, hj, rfl⟩ := List.mem_take_iff_getElem.1 hy
      have hjk : j < k := by omega
      obtain ⟨i, hi, first⟩ := ih j hjk (List.getElem?_eq_getElem _) hpy
      exact ⟨i, hi.trans hjk.le, first⟩

/-- **Of two searches the one with the weaker condition ends first**, and at the same position
unless an element before it has the weaker condition for another reason. -/
theorem FirstWith.of_imp {k : Nat} {x : α} (h : FirstWith q xs k x) :
    ∃ i ≤ k, ∃ y, FirstWith (fun x => p x ∨ q x) xs i y ∧ (i = k ↔ ∀ z ∈ xs.take k, ¬ p z) := by
  obtain ⟨i, hi, y, hy⟩ := exists_firstWith (p := fun x => p x ∨ q x) h.here (.inr h.holds)
  refine ⟨i, hi, y, hy, ?_, fun hnone => ?_⟩
  · rintro rfl z hz hp
    exact hy.before z hz (.inl hp)
  · by_contra hne
    obtain ⟨hlt, rfl⟩ := List.getElem?_eq_some_iff.1 hy.here
    have hmem : xs[i] ∈ xs.take k := List.mem_take_iff_getElem.2 ⟨i, by omega, rfl⟩
    exact hy.holds.elim (hnone _ hmem) (h.before _ hmem)

/-- **A search through lists that are put together** ends in the first list that has an element of
the condition, at the first one there. -/
theorem find?_flatMap_eq_some_iff {f : α → List β} {p : β → Bool} {y : β} :
    (xs.flatMap f).find? p = some y ↔ ∃ k x j,
      FirstWith (fun x => (f x).any p = true) xs k x ∧
      FirstWith (fun y => p y = true) (f x) j y := by
  rw [List.find?_flatMap, List.findSome?_eq_some_iff]
  constructor
  · rintro ⟨before, x, after, rfl, hx, hbefore⟩
    obtain ⟨j, hj⟩ := find?_eq_some_iff_firstWith.1 hx
    have hhere : (f x).any p = true :=
      List.any_eq_true.2 ⟨y, List.mem_of_getElem? hj.here, hj.holds⟩
    refine ⟨before.length, x, j, ⟨by simp, hhere, fun z hz hany => ?_⟩, hj⟩
    rw [List.take_left] at hz
    obtain ⟨w, hw, hp⟩ := List.any_eq_true.1 hany
    exact List.find?_eq_none.1 (hbefore z hz) w hw hp
  · rintro ⟨k, x, j, h, hj⟩
    refine ⟨xs.take k, x, xs.drop (k + 1), h.append_eq, ?_, fun z hz => ?_⟩
    · exact find?_eq_some_iff_firstWith.2 ⟨j, hj⟩
    · exact List.find?_eq_none.2 fun w hw hp =>
        h.before z hz (List.any_eq_true.2 ⟨w, hw, hp⟩)

end FirstWith

/-! ## Local addresses -/

namespace LocalAddresses

/-- Some of the texts is the dotted quad of the address, with blanks around it. -/
def Listed (texts : List String) (a : Ipv4) : Prop :=
  ∃ t ∈ texts, Text.Padded a.dotted.toList t.toList

variable {texts : List String}

theorem has_ofTexts {a : Ipv4} : (ofTexts texts).value.has a = true ↔ Listed texts a := by
  unfold has ofTexts Listed
  simp only [List.contains_iff_mem, List.mem_filterMap, Ipv4.ofText?_eq_some_iff]

/-- **A text is local** if it is the dotted quad of a listed address, with blanks around it. -/
theorem hasText_ofTexts {s : String} : (ofTexts texts).value.hasText s = true ↔
    ∃ a, Listed texts a ∧ Text.Padded a.dotted.toList s.toList := by
  unfold hasText
  rw [Option.any_eq_true]
  simp only [Ipv4.ofText?_eq_some_iff, has_ofTexts]
  exact exists_congr fun a => and_comm

/-- An address that is written and read again is asked for itself. -/
theorem hasText_dotted (l : LocalAddresses) (a : Ipv4) : l.hasText a.dotted = l.has a := by
  unfold hasText
  rw [Ipv4.ofText?_dotted, Option.any_some]

end LocalAddresses

open LocalAddresses (Listed)

/-- The name of the node, blanks around it apart, is the dotted quad of a listed address. -/
def Node.Named (texts : List String) (n : Node) : Prop :=
  ∃ a, Listed texts a ∧ Text.Padded a.dotted.toList n.name.toList

/-- The cluster has a controller, and its address is listed. -/
def Cluster.Controlled (texts : List String) (c : Cluster) : Prop :=
  c.controllerIp ≠ 0 ∧ Listed texts c.controllerIp

/-- Some node of the cluster has the name of a listed address. -/
def Cluster.HasNamed (texts : List String) (c : Cluster) : Prop := ∃ n ∈ c.nodes, n.Named texts

/-- The cluster is known by its controller or by a node. -/
def Cluster.Known (texts : List String) (c : Cluster) : Prop :=
  c.Controlled texts ∨ c.HasNamed texts

section Known

variable {texts : List String} {c : Cluster}

theorem Node.isLocal_iff {n : Node} :
    n.isLocal (LocalAddresses.ofTexts texts).value = true ↔ n.Named texts :=
  LocalAddresses.hasText_ofTexts

theorem Cluster.any_isLocal_iff :
    c.nodes.any (·.isLocal (LocalAddresses.ofTexts texts).value) = true ↔ c.HasNamed texts := by
  rw [List.any_eq_true]
  exact exists_congr fun n => and_congr_right fun _ => Node.isLocal_iff

theorem Cluster.isLocal_iff :
    c.isLocal (LocalAddresses.ofTexts texts).value = true ↔ c.Known texts := by
  unfold isLocal Known Controlled
  rw [LocalAddresses.hasText_dotted, Bool.or_eq_true, Bool.and_eq_true, bne_iff_ne,
    LocalAddresses.has_ofTexts, Cluster.any_isLocal_iff]

end Known

/-! ## Searches -/

namespace NetworkModel

/-- `n` is the first node with the name of a listed address: it stands at position `j` of the
cluster at position `k`, which is the first one that has such a node. -/
def FirstNamedNode (m : NetworkModel) (texts : List String) (k j : Nat) (n : Node) : Prop :=
  ∃ c, FirstWith (Cluster.HasNamed texts) m.clusters k c ∧ FirstWith (Node.Named texts) c.nodes j n

variable {m : NetworkModel} {texts : List String}

theorem selfCluster?_eq_some_iff {c : Cluster} :
    m.selfCluster? (LocalAddresses.ofTexts texts).value = some c ↔
      ∃ k, FirstWith (Cluster.Known texts) m.clusters k c := by
  unfold selfCluster?
  rw [find?_eq_some_iff_firstWith]
  exact exists_congr fun k => FirstWith.congr fun c => Cluster.isLocal_iff

theorem selfNode?_eq_some_iff {n : Node} :
    m.selfNode? (LocalAddresses.ofTexts texts).value = some n ↔
      ∃ k j, m.FirstNamedNode texts k j n := by
  unfold selfNode? FirstNamedNode
  rw [find?_flatMap_eq_some_iff]
  simp only [FirstWith.congr fun _ => Cluster.any_isLocal_iff,
    FirstWith.congr fun _ => Node.isLocal_iff]
  exact exists_congr fun k => exists_comm

/-- **A host finds itself in the order of the document.** The cluster that is found is the first one
that is known by its controller or by a node, and the node is the first one with the name of a
listed address in the first cluster that has one. Nothing is found only if there is nothing to be
found. The cluster that is found does not come after that of the node, and it is the same if and
only if no controller of an earlier cluster is listed. -/
theorem self_found_in_order (m : NetworkModel) (texts : List String) :
    let l := (LocalAddresses.ofTexts texts).value
    (∀ c, m.selfCluster? l = some c ↔ ∃ k, FirstWith (Cluster.Known texts) m.clusters k c) ∧
    (m.selfCluster? l = none ↔ ∀ c ∈ m.clusters, ¬ c.Known texts) ∧
    (∀ n, m.selfNode? l = some n ↔ ∃ k j, m.FirstNamedNode texts k j n) ∧
    (m.selfNode? l = none ↔ ∀ c ∈ m.clusters, ∀ n ∈ c.nodes, ¬ n.Named texts) ∧
    ∀ k j n, m.FirstNamedNode texts k j n → ∃ i ≤ k, ∃ c,
      m.selfCluster? l = some c ∧ FirstWith (Cluster.Known texts) m.clusters i c ∧
      (i = k ↔ ∀ b ∈ m.clusters.take k, ¬ b.Controlled texts) := by
  intro l
  refine ⟨fun c => selfCluster?_eq_some_iff, ?_, fun n => selfNode?_eq_some_iff, ?_, ?_⟩
  · unfold selfCluster?
    rw [List.find?_eq_none]
    simp only [l, Cluster.isLocal_iff]
  · unfold selfNode?
    rw [List.find?_eq_none]
    simp only [l, Node.isLocal_iff, List.forall_mem_flatMap]
  · rintro k j n ⟨c, hcluster, -⟩
    obtain ⟨i, hi, c', hknown, hsame⟩ := hcluster.of_imp (p := Cluster.Controlled texts)
    exact ⟨i, hi, c', selfCluster?_eq_some_iff.2 ⟨i, hknown⟩, hknown, hsame⟩

end NetworkModel

namespace Sample

/-- Two clusters. A host with the addresses `hostTexts` is a node of the second one, and the
controller of the first one is on it, too. -/
def twoClusters : NetworkModel where
  clusters := [
    { name := "one", controllerIp := 0x0A000003, nodes := [{ name := "10.0.0.9" }] },
    { name := "two", controllerIp := 0x0A000004
      nodes := [{ name := "10.0.1.9" }, { name := " 10.0.1.10" }] }]

/-- What the host is told of its addresses. -/
def hostTexts : List String := ["localhost", "10.0.1.10 ", "10.0.0.3"]

end Sample

/-- The host is the second node of the second cluster, and found in the first one. -/
theorem NetworkModel.self_of_two_clusters :
    Sample.twoClusters.FirstNamedNode Sample.hostTexts 1 1 { name := " 10.0.1.10" } ∧
    ∃ c, Sample.twoClusters.selfCluster? (LocalAddresses.ofTexts Sample.hostTexts).value = some c ∧
      FirstWith (Cluster.Known Sample.hostTexts) Sample.twoClusters.clusters 0 c := by
  have hnode : Sample.twoClusters.FirstNamedNode Sample.hostTexts 1 1 { name := " 10.0.1.10" } :=
    ⟨_, (FirstWith.congr fun _ => Cluster.any_isLocal_iff).1
        ⟨rfl, by decide +kernel, by decide +kernel⟩,
      (FirstWith.congr fun _ => Node.isLocal_iff).1 ⟨rfl, by decide +kernel, by decide +kernel⟩⟩
  have hcontrolled : Cluster.Controlled Sample.hostTexts
      { name := "one", controllerIp := 0x0A000003, nodes := [{ name := "10.0.0.9" }] } :=
    ⟨by decide, LocalAddresses.has_ofTexts.1 (by decide +kernel)⟩
  obtain ⟨-, -, -, -, hagree⟩ := self_found_in_order Sample.twoClusters Sample.hostTexts
  obtain ⟨i, hi, c, hfound, hfirst, hsame⟩ := hagree 1 1 _ hnode
  have hne : i ≠ 1 := fun h => hsame.1 h _ List.mem_cons_self hcontrolled
  obtain rfl : i = 0 := by omega
  exact ⟨hnode, c, hfound, hfirst⟩

end CloudNet
