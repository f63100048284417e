import CloudNet.Proofs.RangeRuns

/-!
# Malformed entries of address ranges

An entry is malformed unless it is a dotted quad, or two with a hyphen between them. An end that is
no dotted quad is read as zero, which is an address like any other, and so a malformed entry need
not be left out: it is taken for the range from zero if its first end is read as zero.

* `malformed_iff`: one of the ends of a malformed entry is no dotted quad, unless it has no ends.
* `snd_eq_zero_of_malformed`: so only one of them can be read as an address other than zero.
* `malformed_entries`: which malformed entries are left out, and what the others stand for.
* `misspelt_handed_out`: an entry without any address in it stands for zero.
-/

namespace CloudNet.Range

/-- The entry is neither a dotted quad nor two with a hyphen between them. -/
def Malformed (entry : String) : Prop := ∀ ends, ¬ Spells entry ends

/-- The ends of the entry are read as zero and `last`, which is not the loopback address. -/
def StartsAtZero (entry : String) (last : Ipv4) : Prop :=
  bounds? entry = some (0, last) ∧ last ≠ Ipv4.loopback

/-! ## Telling malformed entries -/

/-- An entry whose ends are read as addresses is one of dotted quads. -/
theorem spells_of_ends? {entry : String} {texts : String × String} {a b : Ipv4}
    (hends : ends? entry = some texts) (hfirst : Ipv4.ofText? texts.1 = some a)
    (hlast : Ipv4.ofText? texts.2 = some b) : ∃ ends, Spells entry ends := by
  unfold ends? at hends
  dsimp only at hends
  split at hends
  · exact absurd hends (by simp)
  · next first last hcut =>
    rw [← Option.some.inj hends] at hfirst hlast
    obtain ⟨heq, -⟩ := Text.cutAt_eq_some hcut
    exact ⟨(a, b), .pair (Ipv4.ofText?_trimChars_eq_some_iff.1 hfirst)
      (Ipv4.ofText?_trimChars_eq_some_iff.1 hlast) heq⟩
  · rw [← Option.some.inj hends] at hfirst
    exact ⟨(a, a), .single (Ipv4.ofText?_trimChars_eq_some_iff.1 hfirst)⟩

/-- **One of the ends of a malformed entry is no dotted quad**, if it has ends at all. -/
theorem malformed_iff (entry : String) : Malformed entry ↔
    ∀ texts ∈ ends? entry, Ipv4.ofText? texts.1 = none ∨ Ipv4.ofText? texts.2 = none := by
  constructor
  · intro h texts hends
    by_contra hboth
    rw [not_or] at hboth
    obtain ⟨a, ha⟩ := Option.ne_none_iff_exists'.mp hboth.1
    obtain ⟨b, hb⟩ := Option.ne_none_iff_exists'.mp hboth.2
    obtain ⟨ends, hspelled⟩ := spells_of_ends? hends ha hb
    exact h ends hspelled
  · rintro h ⟨a, b⟩ hspelled
    rcases h _ (ends?_of_spells hspelled) with hnone | hnone
    · exact absurd hnone (by rw [Ipv4.ofText?_dotted]; exact Option.some_ne_none a)
    · exact absurd hnone (by rw [Ipv4.ofText?_dotted]; exact Option.some_ne_none b)

instance : DecidablePred Malformed := fun entry => decidable_of_iff' _ (malformed_iff entry)

/-- **A malformed entry has one address at most**: if its first end is read as another one than
zero, its last end is read as zero. -/
theorem snd_eq_zero_of_malformed {entry : String} (h : Malformed entry) {a b : Ipv4}
    (hbounds : bounds? entry = some (a, b)) (ha : a ≠ 0) : b = 0 := by
  obtain ⟨texts, hends, heq⟩ := Option.map_eq_some_iff.mp hbounds
  obtain ⟨rfl, rfl⟩ := Prod.mk.inj heq
  rcases (malformed_iff entry).mp h texts hends with hfirst | hlast
  · exact absurd (Ipv4.ofText_eq_zero_of_none hfirst) ha
  · exact Ipv4.ofText_eq_zero_of_none hlast

/-! ## What malformed entries stand for -/

/-- A range that starts at zero is accepted, unless it ends at the loopback address. -/
theorem accepted_of_startsAtZero {entry : String} {last : Ipv4} (h : StartsAtZero entry last) :
    Accepted (0, last) := by
  have hzero : (0 : Ipv4) ≠ Ipv4.loopback := by decide
  exact ⟨Nat.zero_le _, hzero, h.2⟩

/-- An entry that starts at zero stands for all addresses up to its last end. -/
theorem expand_of_startsAtZero {entry : String} {last : Ipv4} (h : StartsAtZero entry last) :
    (expand [entry]).value = { addresses := addresses 0 last } := by
  rw [expand_singleton h.1, if_pos (accepted_of_startsAtZero h)]

/-- Another malformed entry is left out. -/
theorem expand_of_malformed {entry : String} (h : Malformed entry)
    (hzero : ∀ last, ¬ StartsAtZero entry last) : (expand [entry]).value = { rejected := true } := by
  cases hbounds : bounds? entry with
  | none => exact expand_singleton_of_none hbounds
  | some ends =>
    obtain ⟨a, b⟩ := ends
    have hnot : ¬ Accepted (a, b) := by
      rintro ⟨hle, -, hlast⟩
      by_cases ha : a = 0
      · exact hzero b ⟨by rw [hbounds, ha], hlast⟩
      · rw [snd_eq_zero_of_malformed h hbounds ha] at hle
        exact ha (UInt32.le_zero_iff.mp hle)
    rw [expand_singleton hbounds, if_neg hnot]

/-- **A malformed entry is left out unless its first end is read as zero.** Then it stands for all
addresses from zero to what its last end is read as, if that is not the loopback address, and
nothing is told of it. In either case the other entries expand as they would alone. -/
theorem malformed_entries (entries : List String) :
    (expand entries).value.addresses = entries.flatMap (fun e => (expand [e]).value.addresses) ∧
    (expand entries).value.rejected = entries.any (fun e => (expand [e]).value.rejected) ∧
    ∀ entry ∈ entries, Malformed entry →
      ((∀ last, ¬ StartsAtZero entry last) →
        (expand [entry]).value = { rejected := true } ∧ (expand entries).value.rejected = true) ∧
      ∀ last, StartsAtZero entry last →
        (expand [entry]).value = { addresses := addresses 0 last } ∧
        0 ∈ (expand entries).value.addresses := by
  refine ⟨addresses_expand entries, rejected_expand entries, fun entry hentry hmalformed => ⟨?_, ?_⟩⟩
  · intro hzero
    have hout := expand_of_malformed hmalformed hzero
    refine ⟨hout, ?_⟩
    rw [rejected_expand, List.any_eq_true]
    exact ⟨entry, hentry, by rw [hout]⟩
  · intro last hzero
    have hrange := expand_of_startsAtZero hzero
    refine ⟨hrange, ?_⟩
    rw [addresses_expand, List.mem_flatMap]
    refine ⟨entry, hentry, ?_⟩
    rw [hrange, ← List.count_pos_iff, count_addresses 0 (Nat.zero_le _),
      if_pos ⟨Nat.le_refl _, Nat.zero_le _⟩]
    exact Nat.one_pos

/-- Entries whose first and whose last end is no address, before one of a dotted quad. -/
def Sample.misspelt : List String := ["first-0.0.0.2", "10.0.0.9-last", "10.0.0.9"]

/-- The first of them stands for all addresses up to its last end, and the second is left out. -/
theorem malformed_of_misspelt :
    Malformed "first-0.0.0.2" ∧ (expand ["first-0.0.0.2"]).value = { addresses := [0, 1, 2] } ∧
    Malformed "10.0.0.9-last" ∧ (expand ["10.0.0.9-last"]).value = { rejected := true } ∧
    (expand Sample.misspelt).value.addresses = [0, 1, 2, 0x0A000009] ∧
    (expand Sample.misspelt).value.rejected = true := by
  obtain ⟨haddresses, -, hentries⟩ := malformed_entries Sample.misspelt
  have hfirst : Malformed "first-0.0.0.2" := by decide +kernel
  have hlast : Malformed "10.0.0.9-last" := by decide +kernel
  have hbounds : bounds? "10.0.0.9-last" = some (0x0A000009, 0) := by decide +kernel
  have hnot : ∀ last, ¬ StartsAtZero "10.0.0.9-last" last := by
    rintro last ⟨hzero, -⟩
    rw [hbounds] at hzero
    exact absurd (Prod.mk.inj (Option.some.inj hzero)).1 (by decide)
  obtain ⟨hrange, -⟩ := (hentries _ (by decide) hfirst).2 2 ⟨by decide +kernel, by decide⟩
  obtain ⟨hout, hrejected⟩ := (hentries _ (by decide) hlast).1 hnot
  have hwhole : (expand ["10.0.0.9"]).value.addresses = [0x0A000009] := by decide +kernel
  have hrun : addresses 0 2 = [0, 1, 2] := by decide
  refine ⟨hfirst, hrange.trans (by rw [hrun]), hlast, hout, haddresses.trans ?_, hrejected⟩
  simp only [Sample.misspelt, List.flatMap_cons, List.flatMap_nil, hrange, hout, hwhole, hrun]
  rfl

/-- **A word that is no address is not left out**: it stands for zero, and nothing is told of it. -/
theorem misspelt_handed_out :
    Malformed "bogus" ∧ (expand ["bogus"]).value = { addresses := [0], rejected := false } := by
  decide +kernel

end CloudNet.Range
