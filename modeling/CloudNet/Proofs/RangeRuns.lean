import CloudNet.Address.Range
import CloudNet.Proofs.Addresses
import Mathlib.Data.List.Count

/-!
# Runs of addresses

An entry `A` or `A-B` of dotted quads stands for the run of addresses from `A` to `B`, which does
not wrap at the top. It is left out if the ends are in the wrong order or one of them is the
loopback address. What an entry contributes does not depend on the entries around it.

Only the ends are compared with the loopback address: a range that has it strictly inside is
expanded with it.

* `addresses_expand`, `rejected_expand`: each entry expands as it would alone.
* `bounds?_of_spells`: the ends of an entry of dotted quads are the addresses that it spells.
* `expand_singleton`: what one entry contributes, by its ends.
* `expansion_exact`: what a list of entries of dotted quads stands for.
* `loopback_from_inside`: where the loopback address comes from in every expansion.
* `loopback_handed_out`: a range around the loopback address is not left out.
-/

namespace CloudNet.Range

/-! ## One entry and its neighbours -/

/-- **Each entry contributes the addresses that it has alone.** -/
theorem addresses_expand (entries : List String) :
    (expand entries).value.addresses = entries.flatMap fun e => (expand [e]).value.addresses := by
  induction entries with
  | nil => rfl
  | cons entry entries ih =>
    rw [addresses_expand_cons, ih, List.flatMap_cons, addresses_expand_cons entry []]
    exact congrArg (· ++ _) (List.append_nil _).symm

/-- Some entry was left out if it is left out alone. -/
theorem rejected_expand (entries : List String) :
    (expand entries).value.rejected = entries.any fun e => (expand [e]).value.rejected := by
  induction entries with
  | nil => rfl
  | cons entry entries ih =>
    rw [rejected_expand_cons, ih, List.any_cons, rejected_expand_cons entry []]
    exact congrArg (· || _) (Bool.or_false _).symm

theorem addresses_expand_append (before after : List String) :
    (expand (before ++ after)).value.addresses =
      (expand before).value.addresses ++ (expand after).value.addresses := by
  rw [addresses_expand, addresses_expand before, addresses_expand after, List.flatMap_append]

/-- An entry that is left out has no addresses. -/
theorem addresses_expand_of_rejected {entry : String} (h : (expand [entry]).value.rejected = true) :
    (expand [entry]).value.addresses = [] := by
  rw [rejected_expand_cons] at h
  rw [addresses_expand_cons]
  cases hentry : expandEntry entry with
  | ok run => rw [hentry] at h; exact absurd h Bool.false_ne_true
  | error notice => rfl

/-- **An entry that is left out does not change what the others contribute.** -/
theorem addresses_expand_of_mem_rejected {before after : List String} {entry : String}
    (h : (expand [entry]).value.rejected = true) :
    (expand (before ++ entry :: after)).value.addresses =
      (expand (before ++ after)).value.addresses := by
  have hcons : (expand (entry :: after)).value.addresses =
      (expand [entry]).value.addresses ++ (expand after).value.addresses :=
    addresses_expand_append [entry] after
  rw [addresses_expand_append, hcons, addresses_expand_of_rejected h, List.nil_append,
    ← addresses_expand_append]

/-! ## Entries of dotted quads -/

/-- The text is the dotted quad of an address with blanks around it. Each address has one dotted
quad, see `Ipv4.eq_dotted_of_ofDotted?`. -/
def Padded (s : List Char) (a : Ipv4) : Prop :=
  ∃ before after, (∀ c ∈ before, Text.isBlank c = true) ∧ (∀ c ∈ after, Text.isBlank c = true) ∧
    s = before ++ a.dotted.toList ++ after

/-- The entry is a dotted quad, or two with a hyphen between them, with blanks around each. The
address of a single one is both ends. -/
inductive Spells (entry : String) : Ipv4 × Ipv4 → Prop where
  | single {a : Ipv4} (h : Padded entry.toList a) : Spells entry (a, a)
  | pair {a b : Ipv4} {s t : List Char} (hs : Padded s a) (ht : Padded t b)
    (h : entry.toList = s ++ '-' :: t) : Spells entry (a, b)

/-- The addresses that the two ends of an entry are read as. -/
def bounds? (entry : String) : Option (Ipv4 × Ipv4) :=
  (ends? entry).map fun texts => (Ipv4.ofText texts.1, Ipv4.ofText texts.2)

/-- The ends are in order, and neither is the loopback address. -/
def Accepted (ends : Ipv4 × Ipv4) : Prop :=
  ends.1 ≤ ends.2 ∧ ends.1 ≠ Ipv4.loopback ∧ ends.2 ≠ Ipv4.loopback

instance : DecidablePred Accepted := fun _ => inferInstanceAs (Decidable (_ ∧ _))

variable {s : List Char} {a b : Ipv4}

theorem Padded.trimChars_eq (h : Padded s a) : Text.trimChars s = a.dotted.toList :=
  calc Text.trimChars s = Text.trimChars a.dotted.toList := Text.Padded.trimChars_eq h
    _ = a.dotted.toList := Text.trimChars_of_no_blank fun _ => Cidr.not_isBlank_of_mem_dotted

theorem Padded.notMem_hyphen (h : Padded s a) : '-' ∉ s := by
  intro hmem
  rcases Text.Padded.mem_or h hmem with hquad | hblank
  · rcases Cidr.mem_dotted hquad with hdot | hdigit
    · exact absurd hdot (by decide)
    · exact absurd hdigit (by decide)
  · exact absurd hblank (by decide)

theorem Padded.ne_nil (h : Padded s a) : s ≠ [] := by
  obtain ⟨before, after, -, -, rfl⟩ := h
  exact List.append_ne_nil_of_left_ne_nil
    (List.append_ne_nil_of_right_ne_nil _ (Cidr.dotted_ne_nil a)) _

/-- The ends of an entry are its dotted quads. -/
theorem ends?_of_spells {entry : String} (h : Spells entry (a, b)) :
    ends? entry = some (a.dotted, b.dotted) := by
  unfold ends?
  cases h with
  | single h =>
    simp only [Text.cutAt_eq_none_iff.mpr h.notMem_hyphen, Text.trim, h.trimChars_eq,
      String.ofList_toList]
  | @pair a b s t hs ht h =>
    obtain ⟨c, rest, rfl⟩ := List.exists_cons_of_ne_nil ht.ne_nil
    simp only [h, Text.cutAt_append hs.notMem_hyphen, hs.trimChars_eq, ht.trimChars_eq,
      String.ofList_toList]

/-- **A run has all numbers from its first to its last**, and does not wrap. -/
theorem map_toNat_addresses (h : a ≤ b) :
    (addresses a b).map UInt32.toNat = List.range' a.toNat (b.toNat - a.toNat + 1) := by
  have hle : a.toNat ≤ b.toNat := h
  have hlt : b.toNat < UInt32.size := b.toNat_lt
  have hcount : b.toNat + 1 - a.toNat = b.toNat - a.toNat + 1 := by omega
  have hback : ∀ n ∈ List.range' a.toNat (b.toNat - a.toNat + 1),
      (UInt32.toNat ∘ UInt32.ofNat) n = id n := by
    intro n hn
    rw [List.mem_range'_1] at hn
    exact UInt32.toNat_ofNat_of_lt' (by omega)
  unfold addresses
  rw [List.map_map, hcount, List.map_congr_left hback, List.map_id]

/-- An entry of dotted quads is read as their addresses. -/
theorem bounds?_of_spells {entry : String} {ends : Ipv4 × Ipv4} (h : Spells entry ends) :
    bounds? entry = some ends := by
  obtain ⟨a, b⟩ := ends
  unfold bounds?
  rw [ends?_of_spells h, Option.map_some, Ipv4.ofText_dotted, Ipv4.ofText_dotted]

/-- **What one entry contributes**, and whether it is left out. -/
theorem expand_singleton {entry : String} {ends : Ipv4 × Ipv4} (h : bounds? entry = some ends) :
    (expand [entry]).value =
      if Accepted ends then { addresses := addresses ends.1 ends.2 } else { rejected := true } := by
  obtain ⟨⟨first, last⟩, hends, rfl⟩ := Option.map_eq_some_iff.mp h
  have hrefused : (Ipv4.ofText first > Ipv4.ofText last || Ipv4.ofText first == Ipv4.loopback ||
      Ipv4.ofText last == Ipv4.loopback) = true ↔
        ¬ Accepted (Ipv4.ofText first, Ipv4.ofText last) := by
    unfold Accepted
    rw [not_and_or, not_and_or, not_ne_iff, not_ne_iff, UInt32.not_le]
    simp only [Bool.or_eq_true, decide_eq_true_eq, beq_iff_eq, gt_iff_lt, or_assoc]
  have hentry : expandEntry entry =
      if Accepted (Ipv4.ofText first, Ipv4.ofText last) then
        .ok (addresses (Ipv4.ofText first) (Ipv4.ofText last))
      else .error (.badRange first last entry) := by
    unfold expandEntry
    rw [hends]
    simp only [hrefused, ite_not]
  unfold expand
  by_cases haccepted : Accepted (Ipv4.ofText first, Ipv4.ofText last)
  · rw [if_pos haccepted] at hentry ⊢
    simp [hentry]
  · rw [if_neg haccepted] at hentry ⊢
    simp [hentry]

/-- An entry without ends is left out. -/
theorem expand_singleton_of_none {entry : String} (h : bounds? entry = none) :
    (expand [entry]).value = { rejected := true } := by
  have hends : ends? entry = none := Option.map_eq_none_iff.mp h
  have hentry : expandEntry entry = .error (.openRange entry) := by
    unfold expandEntry
    rw [hends]
  unfold expand
  simp [hentry]

/-- The numbers from the first to the last of two ends. -/
def run (ends : Ipv4 × Ipv4) : List Nat :=
  List.range' ends.1.toNat (ends.2.toNat - ends.1.toNat + 1)

/-- The runs of the accepted entries, one after the other. -/
theorem map_toNat_addresses_expand {entries : List String} {ends : List (Ipv4 × Ipv4)}
    (h : List.Forall₂ Spells entries ends) :
    (expand entries).value.addresses.map UInt32.toNat = (ends.filter Accepted).flatMap run := by
  rw [addresses_expand]
  induction h with
  | nil => rfl
  | @cons entry p entries ends hp _ ih =>
    rw [List.flatMap_cons, List.map_append, ih, expand_singleton (bounds?_of_spells hp)]
    by_cases haccepted : Accepted p
    · rw [if_pos haccepted, List.filter_cons_of_pos (by simpa using haccepted), List.flatMap_cons,
        map_toNat_addresses haccepted.1]
      rfl
    · rw [if_neg haccepted, List.filter_cons_of_neg (by simpa using haccepted)]
      rfl

/-- Some entry was left out if its ends are not accepted. -/
theorem rejected_expand_iff {entries : List String} {ends : List (Ipv4 × Ipv4)}
    (h : List.Forall₂ Spells entries ends) :
    (expand entries).value.rejected = true ↔ ∃ p ∈ ends, ¬ Accepted p := by
  rw [rejected_expand]
  induction h with
  | nil => simp
  | @cons entry p entries ends hp _ ih =>
    rw [List.any_cons, Bool.or_eq_true, ih, expand_singleton (bounds?_of_spells hp)]
    by_cases haccepted : Accepted p
    · simp [haccepted]
    · simp [haccepted]

/-- **Expansion is exact**: a list of entries of dotted quads stands for the runs of the accepted
ones, and an entry that is left out is told and does not change what the others contribute. -/
theorem expansion_exact {entries : List String} {ends : List (Ipv4 × Ipv4)}
    (h : List.Forall₂ Spells entries ends) :
    (expand entries).value.addresses.map UInt32.toNat = (ends.filter Accepted).flatMap run ∧
    ((expand entries).value.rejected = true ↔ ∃ p ∈ ends, ¬ Accepted p) ∧
    ∀ before entry after, entries = before ++ entry :: after →
      (expand [entry]).value.rejected = true →
      (expand entries).value.addresses = (expand (before ++ after)).value.addresses := by
  refine ⟨map_toNat_addresses_expand h, rejected_expand_iff h, ?_⟩
  rintro before entry after rfl hrejected
  exact addresses_expand_of_mem_rejected hrejected

/-- Entries with blanks, in the wrong order, for the loopback address, and at the top of the address
space. -/
def Sample.entries : List String := [
  " 10.0.0.1 -\t10.0.0.3", "10.0.0.5-10.0.0.1", "127.0.0.1", "255.255.255.254-255.255.255.255"]

/-- The ends of the entries. -/
def Sample.ends : List (Ipv4 × Ipv4) := [
  (0x0A000001, 0x0A000003), (0x0A000005, 0x0A000001), (Ipv4.loopback, Ipv4.loopback),
  (0xFFFFFFFE, 0xFFFFFFFF)]

/-- Two of the four entries are expanded, and the others are left out. -/
theorem expansion_of_entries :
    List.Forall₂ Spells Sample.entries Sample.ends ∧
    (expand Sample.entries).value.addresses.map UInt32.toNat =
      [0x0A000001, 0x0A000002, 0x0A000003, 0xFFFFFFFE, 0xFFFFFFFF] ∧
    (expand Sample.entries).value.rejected = true := by
  have hspelled : List.Forall₂ Spells Sample.entries Sample.ends := by
    have hplain : ∀ a : Ipv4, Padded a.dotted.toList a := fun a =>
      ⟨[], [], by simp, by simp, by simp⟩
    have hspace : ∀ c ∈ [' '], Text.isBlank c = true :=
      List.forall_mem_singleton.mpr (by decide)
    have htab : ∀ c ∈ ['\t'], Text.isBlank c = true :=
      List.forall_mem_singleton.mpr (by decide)
    refine .cons ?_ (.cons ?_ (.cons ?_ (.cons ?_ .nil)))
    · exact .pair ⟨[' '], [' '], hspace, hspace, rfl⟩ ⟨['\t'], [], htab, by simp, rfl⟩ (by decide)
    · exact .pair (hplain _) (hplain _) (by decide)
    · exact .single (hplain Ipv4.loopback)
    · exact .pair (hplain _) (hplain _) (by decide)
  obtain ⟨haddresses, hrejected, -⟩ := expansion_exact hspelled
  refine ⟨hspelled, haddresses.trans (by decide), hrejected.mpr ?_⟩
  exact ⟨(Ipv4.loopback, Ipv4.loopback), by simp [Sample.ends], by decide⟩

/-! ## The loopback address -/

/-- The loopback address is in the range, but at neither end. -/
def Surrounds (ends : Ipv4 × Ipv4) : Prop := ends.1 < Ipv4.loopback ∧ Ipv4.loopback < ends.2

instance : DecidablePred Surrounds := fun _ => inferInstanceAs (Decidable (_ ∧ _))

/-- A range has what is between its ends, each address once. -/
theorem count_addresses (x : Ipv4) (h : a ≤ b) :
    (addresses a b).count x = if a ≤ x ∧ x ≤ b then 1 else 0 := by
  have hnumbers : (addresses a b).count x =
      (List.range' a.toNat (b.toNat - a.toNat + 1)).count x.toNat := by
    rw [← map_toNat_addresses h]
    exact (List.count_map_of_injective _ _ (fun _ _ => UInt32.toNat_inj.mp) x).symm
  have hle : a.toNat ≤ b.toNat := h
  have hnodup : (List.range' a.toNat (b.toNat - a.toNat + 1)).Nodup := List.nodup_range' 1
  rw [hnumbers, hnodup.count]
  simp only [List.mem_range'_1, UInt32.le_iff_toNat_le]
  refine if_congr ?_ rfl rfl
  omega

/-- Accepted ends are not the loopback address, so it is inside or not in the range at all. -/
theorem surrounds_iff {ends : Ipv4 × Ipv4} (h : Accepted ends) :
    ends.1 ≤ Ipv4.loopback ∧ Ipv4.loopback ≤ ends.2 ↔ Surrounds ends := by
  obtain ⟨-, hfirst, hlast⟩ := h
  constructor
  · rintro ⟨hl, hr⟩
    exact ⟨UInt32.lt_of_le_of_ne hl hfirst, UInt32.lt_of_le_of_ne hr hlast.symm⟩
  · rintro ⟨hl, hr⟩
    exact ⟨UInt32.le_of_lt hl, UInt32.le_of_lt hr⟩

/-- A range around the loopback address is accepted. -/
theorem Surrounds.accepted {ends : Ipv4 × Ipv4} (h : Surrounds ends) : Accepted ends :=
  ⟨UInt32.le_of_lt (UInt32.lt_trans h.1 h.2), UInt32.ne_of_lt h.1, (UInt32.ne_of_lt h.2).symm⟩

/-- One entry hands the loopback address out if it surrounds it. -/
theorem count_loopback_expand_singleton (entry : String) :
    (expand [entry]).value.addresses.count Ipv4.loopback =
      if (bounds? entry).any (fun p => decide (Surrounds p)) then 1 else 0 := by
  cases h : bounds? entry with
  | none => rw [expand_singleton_of_none h]; rfl
  | some p =>
    rw [expand_singleton h, Option.any_some]
    by_cases haccepted : Accepted p
    · rw [if_pos haccepted]
      simp only [count_addresses _ haccepted.1, surrounds_iff haccepted, decide_eq_true_eq]
    · have hnot : ¬ Surrounds p := fun hs => haccepted hs.accepted
      rw [if_neg haccepted]
      simp [hnot]

/-- **The loopback address comes from the ranges that have it inside**, once from each, and from
nothing else. Such a range is not left out; one that has it at an end is. -/
theorem loopback_from_inside (entries : List String) :
    (expand entries).value.addresses.count Ipv4.loopback =
      entries.countP (fun entry => (bounds? entry).any fun p => decide (Surrounds p)) ∧
    ∀ entry ∈ entries, ∀ p, bounds? entry = some p →
      (Surrounds p → (expand [entry]).value.rejected = false) ∧
      (p.1 = Ipv4.loopback ∨ p.2 = Ipv4.loopback →
        (expand [entry]).value.addresses = [] ∧ (expand entries).value.rejected = true) := by
  constructor
  · rw [addresses_expand]
    induction entries with
    | nil => rfl
    | cons entry entries ih =>
      rw [List.flatMap_cons, List.count_append, ih, count_loopback_expand_singleton,
        List.countP_cons, Nat.add_comm]
  · intro entry hentry p hp
    constructor
    · intro hs
      rw [expand_singleton hp, if_pos hs.accepted]
    · intro hend
      have hnot : ¬ Accepted p := fun ⟨_, hfirst, hlast⟩ => hend.elim hfirst hlast
      have hrejected : (expand [entry]).value.rejected = true := by
        rw [expand_singleton hp, if_neg hnot]
      refine ⟨addresses_expand_of_rejected hrejected, ?_⟩
      rw [rejected_expand, List.any_eq_true]
      exact ⟨entry, hentry, hrejected⟩

/-- **The loopback address is handed out** by the range from the address before it to the one after
it, and nothing is told to be left out. -/
theorem loopback_handed_out :
    Spells "127.0.0.0-127.0.0.2" (0x7F000000, 0x7F000002) ∧
    (expand ["127.0.0.0-127.0.0.2"]).value =
      { addresses := [0x7F000000, Ipv4.loopback, 0x7F000002], rejected := false } := by
  refine ⟨?_, by decide +kernel⟩
  exact .pair ⟨[], [], by simp, by simp, rfl⟩ ⟨[], [], by simp, by simp, rfl⟩ (by decide)

end CloudNet.Range
