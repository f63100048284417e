import CloudNet.Address.Mac
import CloudNet.Proofs.Numerals
import CloudNet.Proofs.Words
import Mathlib.Data.List.Forall2
import Mathlib.Data.Nat.Digits.Defs
import Mathlib.Data.String.Basic

/-!
# Texts of hardware addresses

A hardware address is written as six groups of one or two hexadecimal digits with colons or hyphens
between them. All such texts are read, as the number that the groups are the digits of to base 256.
The groups are read by a reader of numbers that also takes a plus sign, so a group may be a plus
sign and one digit as well; that is the only text that is read and is no address.

* `Text.digitIn?_eq_some_iff`: the digits to base sixteen.
* `Mac.group?_eq_some_iff`: what is read as a group. Its length is limited in bytes, and nothing of
  more than one byte is left among the texts that are read.
* `Mac.spelled_iff`: groups in a row are the parts that a text is split into.
* `Mac.toNat_pack`: six octets are the digits of a number to base 256.
* `Mac.ofText?_eq_some_iff`: what is read as an address.
* `Mac.read_up_to_signs`: how that differs from what an address looks like.
* `Mac.ofText?_text`: the text of an address is read as its low 48 bits.
-/

namespace CloudNet

/-! ## Digits -/

namespace Text

/-- The character is the hexadecimal digit of the value, in either case. -/
def HexDigit (c : Char) (v : Nat) : Prop :=
  (c, v) ∈ "0123456789abcdef".toList.zipIdx ∨ (c, v) ∈ "0123456789ABCDEF".toList.zipIdx

instance (c : Char) (v : Nat) : Decidable (HexDigit c v) :=
  inferInstanceAs (Decidable (_ ∨ _))

/-- The characters of a run of digits have values that follow each other. -/
theorem HexDigit.of_run {first offset n : Nat} {c : Char}
    (h : ∀ k < n, HexDigit (Char.ofNat (first + k)) (k + offset)) (hlo : first ≤ c.toNat)
    (hhi : c.toNat < first + n) : HexDigit c (c.toNat - first + offset) := by
  have hc := h (c.toNat - first) (by omega)
  rwa [Nat.add_sub_cancel' hlo, Char.ofNat_toNat] at hc

/-- What all digits have in common. -/
theorem HexDigit.forall_iff {p : Char → Nat → Prop} :
    (∀ c v, HexDigit c v → p c v) ↔
      (∀ d ∈ "0123456789abcdef".toList.zipIdx, p d.1 d.2) ∧
      ∀ d ∈ "0123456789ABCDEF".toList.zipIdx, p d.1 d.2 :=
  ⟨fun h => ⟨fun d hd => h d.1 d.2 (.inl hd), fun d hd => h d.1 d.2 (.inr hd)⟩,
    fun ⟨hlower, hupper⟩ c v h => h.elim (hlower (c, v)) (hupper (c, v))⟩

/-- **The digits to base sixteen** are the hexadecimal digits. -/
theorem digitIn?_eq_some_iff {c : Char} {v : Nat} : digitIn? 16 c = some v ↔ HexDigit c v := by
  constructor
  · intro h
    have hvalue := (Option.filter_eq_some_iff.1 h).1
    unfold digitValue? at hvalue
    split at hvalue
    · next hc =>
      obtain rfl := Option.some.inj hvalue
      exact @HexDigit.of_run 48 0 10 c (by decide) hc.1 (Nat.lt_succ_of_le hc.2)
    · split at hvalue
      · next hc =>
        obtain rfl := Option.some.inj hvalue
        exact @HexDigit.of_run 97 10 6 c (by decide) hc.1 (Nat.lt_succ_of_le hc.2)
      · split at hvalue
        · next hc =>
          obtain rfl := Option.some.inj hvalue
          exact @HexDigit.of_run 65 10 6 c (by decide) hc.1 (Nat.lt_succ_of_le hc.2)
        · simp at hvalue
  · revert c v
    rw [HexDigit.forall_iff]
    decide

/-- One digit alone has its value. -/
theorem natural?_singleton (c : Char) : natural? 16 [c] = digitIn? 16 c := by
  unfold natural?
  rw [if_neg (List.cons_ne_nil c [])]
  cases h : digitIn? 16 c with
  | none => simp [digitsOnto?, h]
  | some v => simp [digitsOnto?, h]

/-- Of two digits the first one counts sixteen times. -/
theorem natural?_pair (c d : Char) : natural? 16 [c, d] =
    (digitIn? 16 c).bind fun high => (digitIn? 16 d).map (16 * high + ·) := by
  unfold natural?
  rw [if_neg (List.cons_ne_nil c [d])]
  cases hc : digitIn? 16 c with
  | none => simp [digitsOnto?, hc]
  | some high =>
    cases hd : digitIn? 16 d with
    | none => simp [digitsOnto?, hc, hd]
    | some low => simp [digitsOnto?, hc, hd, Nat.mul_comm]

/-- A text has no more characters than bytes. -/
theorem length_le_utf8ByteSize (s : List Char) : s.length ≤ (String.ofList s).utf8ByteSize := by
  rw [String.utf8ByteSize_ofList]
  induction s with
  | nil => exact Nat.le_refl 0
  | cons c s ih =>
    rw [List.length_cons, String.utf8Len_cons]
    exact Nat.add_le_add ih c.utf8Size_pos

/-- A hexadecimal digit is one byte, and none of the other characters of a hardware address. -/
theorem HexDigit.plain {c : Char} {v : Nat} (h : HexDigit c v) :
    c.utf8Size = 1 ∧ c ≠ '+' ∧ c ≠ ':' ∧ c ≠ '-' ∧ isBlank c = false := by
  revert c v
  rw [HexDigit.forall_iff]
  decide

theorem HexDigit.lt {c : Char} {v : Nat} (h : HexDigit c v) : v < 16 := by
  revert c v
  rw [HexDigit.forall_iff]
  decide

end Text

namespace Mac

/-! ## Groups -/

/-- A group of an address: one or two hexadecimal digits. -/
inductive Group : List Char → Nat → Prop where
  | one {c : Char} {v : Nat} (h : Text.HexDigit c v) : Group [c] v
  | two {c d : Char} {high low : Nat} (hc : Text.HexDigit c high) (hd : Text.HexDigit d low) :
    Group [c, d] (16 * high + low)

/-- What is read as a group: a group, or one digit behind a plus sign. -/
inductive ReadGroup : List Char → Nat → Prop where
  | group {s : List Char} {v : Nat} (h : Group s v) : ReadGroup s v
  | signed {c : Char} {v : Nat} (h : Text.HexDigit c v) : ReadGroup ['+', c] v

/-- A short run of digits is a group. -/
theorem natural?_eq_some_iff_group {s : List Char} {n : Nat} (hs : s.length ≤ 2) :
    Text.natural? 16 s = some n ↔ Group s n := by
  match s, hs with
  | [], _ =>
    constructor
    · intro h
      simp at h
    · rintro ⟨⟩
  | [c], _ =>
    rw [Text.natural?_singleton, Text.digitIn?_eq_some_iff]
    constructor
    · exact .one
    · rintro (h | _)
      exact h
  | [c, d], _ =>
    rw [Text.natural?_pair, Option.bind_eq_some_iff]
    constructor
    · rintro ⟨high, hc, h⟩
      obtain ⟨low, hd, rfl⟩ := Option.map_eq_some_iff.1 h
      exact .two (Text.digitIn?_eq_some_iff.1 hc) (Text.digitIn?_eq_some_iff.1 hd)
    · rintro (_ | ⟨hc, hd⟩)
      rw [Text.digitIn?_eq_some_iff.2 hc, Text.digitIn?_eq_some_iff.2 hd]
      exact ⟨_, rfl, rfl⟩

/-- The characters of a group are digits. -/
theorem Group.exists_digit {s : List Char} {v : Nat} (h : Group s v) {c : Char} (hc : c ∈ s) :
    ∃ d, Text.HexDigit c d := by
  cases h with
  | one h =>
    obtain rfl := List.mem_singleton.1 hc
    exact ⟨_, h⟩
  | two hd he =>
    rcases List.mem_pair.1 hc with rfl | rfl
    · exact ⟨_, hd⟩
    · exact ⟨_, he⟩

/-- A group starts with no plus sign. -/
theorem Group.dropPlus_eq {s : List Char} {v : Nat} (h : Group s v) : Text.dropPlus s = s := by
  unfold Text.dropPlus
  split
  · obtain ⟨d, hd⟩ := h.exists_digit List.mem_cons_self
    exact absurd rfl hd.plain.2.1
  · rfl

/-- A group has at most two bytes. -/
theorem ReadGroup.utf8ByteSize_le {s : List Char} {v : Nat} (h : ReadGroup s v) :
    (String.ofList s).utf8ByteSize ≤ 2 := by
  rw [String.utf8ByteSize_ofList]
  cases h with
  | group h =>
    cases h with
    | one h => simp [h.plain.1]
    | two hc hd => simp [hc.plain.1, hd.plain.1]
  | signed h =>
    have hplus : '+'.utf8Size = 1 := rfl
    simp [h.plain.1, hplus]

theorem ReadGroup.lt {s : List Char} {v : Nat} (h : ReadGroup s v) : v < 256 := by
  cases h with
  | group h =>
    cases h with
    | one h => exact h.lt.trans (by decide)
    | two hc hd =>
      have hhigh := hc.lt
      have hlow := hd.lt
      omega
  | signed h => exact h.lt.trans (by decide)

/-- **What is read as a group.** -/
theorem group?_eq_some_iff {s : List Char} {b : UInt8} :
    group? s = some b ↔ ReadGroup s b.toNat := by
  unfold group?
  constructor
  · intro h
    obtain ⟨hsize, hbyte⟩ := Option.ite_none_right_eq_some.1 h
    have hlength := (Text.length_le_utf8ByteSize s).trans hsize
    rw [Text.byte?_eq_some_iff] at hbyte
    unfold Text.dropPlus at hbyte
    split at hbyte
    · next rest =>
      rw [List.length_cons] at hlength
      have hrest : Group rest b.toNat := (natural?_eq_some_iff_group (by omega)).1 hbyte
      -- behind the sign there is room for one digit only
      generalize b.toNat = v at hrest
      cases hrest with
      | one h => exact .signed h
      | two => simp at hlength
    · exact .group ((natural?_eq_some_iff_group hlength).1 hbyte)
  · intro h
    have hsize := h.utf8ByteSize_le
    have hlength := (Text.length_le_utf8ByteSize s).trans hsize
    rw [if_pos hsize, Text.byte?_eq_some_iff]
    generalize b.toNat = v at h
    cases h with
    | group h =>
      rw [h.dropPlus_eq]
      exact (natural?_eq_some_iff_group hlength).2 h
    | @signed c _ h =>
      have hone : [c].length ≤ 2 := Nat.le_succ 1
      exact (natural?_eq_some_iff_group hone).2 (.one h)

/-! ## Groups in a row -/

/-- Groups with a colon or a hyphen between neighbours, and their values. -/
inductive Spelled (G : List Char → Nat → Prop) : List Char → List Nat → Prop where
  | last {s : List Char} {v : Nat} (h : G s v) : Spelled G s [v]
  | more {s rest : List Char} {v : Nat} {vs : List Nat} {sep : Char} (h : G s v)
    (hsep : sep = ':' ∨ sep = '-') (hrest : Spelled G rest vs) :
    Spelled G (s ++ sep :: rest) (v :: vs)

/-- The text is six groups in a row, the digits of the address to base 256 with the highest one
first. -/
def Spells (G : List Char → Nat → Prop) (s : List Char) (m : Mac) : Prop :=
  ∃ vs, Spelled G s vs ∧ vs.length = 6 ∧ m.value.toNat = Nat.ofDigits 256 vs.reverse

theorem isSeparator_iff {c : Char} : isSeparator c = true ↔ c = ':' ∨ c = '-' := by
  unfold isSeparator
  simp only [Bool.or_eq_true, decide_eq_true_eq]

/-- No character of a group separates groups. -/
theorem ReadGroup.not_isSeparator {s : List Char} {v : Nat} (h : ReadGroup s v) :
    ∀ c ∈ s, isSeparator c = false := by
  have hdigit : ∀ {c d}, Text.HexDigit c d → isSeparator c = false := fun hd => by
    rw [← Bool.not_eq_true, isSeparator_iff, not_or]
    exact hd.plain.2.2.imp_right And.left
  intro c hc
  cases h with
  | group h =>
    obtain ⟨d, hd⟩ := h.exists_digit hc
    exact hdigit hd
  | signed h =>
    rcases List.mem_pair.1 hc with rfl | rfl
    · decide
    · exact hdigit h

/-- **Groups in a row** are the parts that the text is split into. -/
theorem spelled_iff {s : List Char} {vs : List Nat} :
    Spelled ReadGroup s vs ↔ List.Forall₂ ReadGroup (s.splitOnP isSeparator) vs := by
  constructor
  · intro h
    induction h with
    | last h =>
      rw [List.splitOnP_eq_singleton h.not_isSeparator]
      exact .cons h .nil
    | more h hsep _ ih =>
      rw [List.splitOnP_append_cons_of_forall_mem h.not_isSeparator _ (isSeparator_iff.2 hsep)]
      exact .cons h ih
  · -- on the length of the text, which ends at its first separator or goes on behind it
    induction hlength : s.length using Nat.strongRecOn generalizing s vs with
    | ind n ih =>
      intro h
      cases hfind : s.find? isSeparator with
      | none =>
        rw [List.find?_eq_none] at hfind
        rw [List.splitOnP_eq_singleton fun c hc => Bool.eq_false_of_not_eq_true (hfind c hc)] at h
        obtain ⟨v, rest, hv, hrest, rfl⟩ := List.forall₂_cons_left_iff.1 h
        obtain rfl := List.forall₂_nil_left_iff.1 hrest
        exact .last hv
      | some sep =>
        obtain ⟨hsep, first, rest, rfl, hfirst⟩ := List.find?_eq_some_iff_append.1 hfind
        rw [List.splitOnP_append_cons_of_forall_mem
          (fun c hc => by simpa using hfirst c hc) _ hsep] at h
        obtain ⟨v, vs, hv, hrest, rfl⟩ := List.forall₂_cons_left_iff.1 h
        have hshort : rest.length < n := by
          rw [← hlength, List.length_append, List.length_cons]
          omega
        exact .more hv (isSeparator_iff.1 hsep) (ih _ hshort rfl hrest)

section Spelled

variable {G : List Char → Nat → Prop} {s : List Char} {vs : List Nat}

theorem Spelled.imp {G' : List Char → Nat → Prop} (hG : ∀ s v, G s v → G' s v)
    (h : Spelled G s vs) : Spelled G' s vs := by
  induction h with
  | last h => exact .last (hG _ _ h)
  | more h hsep _ ih => exact .more (hG _ _ h) hsep ih

/-- Without a plus sign, what is read as groups is groups. -/
theorem Spelled.of_read (h : Spelled ReadGroup s vs) (hplus : '+' ∉ s) : Spelled Group s vs := by
  have hgroup : ∀ {s v}, ReadGroup s v → '+' ∉ s → Group s v := fun h hplus => by
    cases h with
    | group h => exact h
    | signed h => exact absurd List.mem_cons_self hplus
  induction h with
  | last h => exact .last (hgroup h hplus)
  | more h hsep _ ih =>
    rw [List.mem_append, List.mem_cons, not_or, not_or] at hplus
    exact .more (hgroup h hplus.1) hsep (ih hplus.2.2)

/-- The characters of groups in a row. -/
theorem Spelled.mem_cases (h : Spelled Group s vs) {c : Char} (hc : c ∈ s) :
    (∃ d, Text.HexDigit c d) ∨ c = ':' ∨ c = '-' := by
  induction h with
  | last h => exact .inl (h.exists_digit hc)
  | more h hsep _ ih =>
    rcases List.mem_append.1 hc with hc | hc
    · exact .inl (h.exists_digit hc)
    · rcases List.mem_cons.1 hc with rfl | hc
      · exact .inr hsep
      · exact ih hc

theorem Spelled.plain (h : Spelled Group s vs) {c : Char} (hc : c ∈ s) :
    c ≠ '+' ∧ Text.isBlank c = false := by
  rcases h.mem_cases hc with ⟨d, hd⟩ | rfl | rfl
  · exact ⟨hd.plain.2.1, hd.plain.2.2.2.2⟩
  · decide
  · decide

theorem Spelled.lt (h : Spelled ReadGroup s vs) : ∀ v ∈ vs, v < 256 := by
  induction h with
  | last h => exact List.forall_mem_singleton.2 h.lt
  | more h _ _ ih => exact List.forall_mem_cons.2 ⟨h.lt, ih⟩

/-- Six groups are a number of 48 bits. -/
theorem Spells.value_lt {m : Mac} (h : Spells ReadGroup s m) : m.value.toNat < 2 ^ 48 := by
  obtain ⟨vs, hs, hlength, hm⟩ := h
  have hlt : ∀ v ∈ vs.reverse, v < 256 := fun v hv => hs.lt v (List.mem_reverse.1 hv)
  have hpow := Nat.ofDigits_lt_base_pow_length (by decide : 1 < 256) hlt
  rw [List.length_reverse, hlength, ← hm] at hpow
  exact hpow

end Spelled

/-! ## Six octets as one number -/

/-- One more octet takes the lowest eight bits. -/
theorem toNat_shiftLeft_or {acc : UInt64} (h : acc.toNat < 2 ^ 56) (b : UInt8) :
    ((acc <<< 8) ||| b.toUInt64).toNat = b.toNat + 256 * acc.toNat := by
  have hshift : (acc <<< 8).toNat = acc.toNat <<< 8 := by
    have height : (8 : UInt64).toNat % 64 = 8 := rfl
    rw [UInt64.toNat_shiftLeft, height, Nat.shiftLeft_eq]
    exact Nat.mod_eq_of_lt (by omega)
  rw [UInt64.toNat_or, hshift, UInt8.toNat_toUInt64, ← Nat.shiftLeft_add_eq_or_of_lt b.toNat_lt,
    Nat.shiftLeft_eq]
  omega

/-- **Octets are the digits of a number** to base 256. -/
theorem toNat_pack {octets : List UInt8} (h : octets.length ≤ 8) :
    (pack octets).toNat = Nat.ofDigits 256 (octets.map UInt8.toNat).reverse := by
  induction octets using List.reverseRecOn with
  | nil => rfl
  | append_singleton octets b ih =>
    rw [List.length_append, List.length_singleton] at h
    have hbefore := ih (by omega)
    have hlt : (pack octets).toNat < 2 ^ 56 := by
      have hdigits : ∀ v ∈ (octets.map UInt8.toNat).reverse, v < 256 := by
        intro v hv
        obtain ⟨b, -, rfl⟩ := List.mem_map.1 (List.mem_reverse.1 hv)
        exact b.toNat_lt
      have hpow := Nat.ofDigits_lt_base_pow_length (by decide : 1 < 256) hdigits
      rw [← hbefore, List.length_reverse, List.length_map] at hpow
      exact hpow.trans_le (Nat.pow_le_pow_right (by decide) (by omega : octets.length ≤ 7))
    have hpack : pack (octets ++ [b]) = (pack octets <<< 8) ||| b.toUInt64 := List.foldl_concat ..
    rw [hpack, toNat_shiftLeft_or hlt, hbefore, List.map_append, List.reverse_append]
    exact Nat.ofDigits_cons.symm

/-! ## Addresses -/

/-- Groups are read one by one. -/
theorem mapM_group?_eq_some_iff {groups : List (List Char)} {octets : List UInt8} :
    groups.mapM group? = some octets ↔
      List.Forall₂ ReadGroup groups (octets.map UInt8.toNat) := by
  induction groups generalizing octets with
  | nil =>
    rw [List.mapM_nil, List.forall₂_nil_left_iff, List.map_eq_nil_iff]
    exact Option.some_inj.trans eq_comm
  | cons g groups ih =>
    rw [List.mapM_cons, List.forall₂_cons_left_iff]
    constructor
    · intro h
      obtain ⟨b, hb, h⟩ := Option.bind_eq_some_iff.1 h
      obtain ⟨bs, hbs, h⟩ := Option.bind_eq_some_iff.1 h
      obtain rfl := Option.some.inj h
      exact ⟨_, _, group?_eq_some_iff.1 hb, ih.1 hbs, List.map_cons⟩
    · rintro ⟨v, vs, hv, hvs, hmap⟩
      obtain ⟨b, bs, rfl, rfl, rfl⟩ := List.map_eq_cons_iff.1 hmap
      rw [group?_eq_some_iff.2 hv, ih.2 hvs]
      rfl

/-- **What is read as an address**: six groups, any of which may be a digit with a plus sign. -/
theorem ofText?_eq_some_iff {s : String} {m : Mac} :
    ofText? s = some m ↔ Spells ReadGroup (Text.trimChars s.toList) m := by
  unfold ofText?
  constructor
  · intro h
    obtain ⟨hsix, h⟩ := Option.ite_none_right_eq_some.1 h
    obtain ⟨octets, hoctets, rfl⟩ := Option.map_eq_some_iff.1 h
    have hgroups := mapM_group?_eq_some_iff.1 hoctets
    have hlength := hgroups.length_eq
    rw [hsix, List.length_map] at hlength
    exact ⟨_, spelled_iff.2 hgroups, by rw [List.length_map, ← hlength], toNat_pack (by omega)⟩
  · rintro ⟨vs, hs, hlength, hm⟩
    have hgroups := spelled_iff.1 hs
    have hvs : (vs.map UInt8.ofNat).map UInt8.toNat = vs := by
      rw [List.map_map]
      exact (List.map_congr_left fun v hv => UInt8.toNat_ofNat_of_lt' (hs.lt v hv)).trans
        (List.map_id vs)
    have hoctets : ((Text.trimChars s.toList).splitOnP isSeparator).mapM group? =
        some (vs.map UInt8.ofNat) := mapM_group?_eq_some_iff.2 (by rwa [hvs])
    have hpack : pack (vs.map UInt8.ofNat) = m.value := by
      rw [← UInt64.toNat_inj, toNat_pack (by rw [List.length_map]; omega), hvs, hm]
    rw [if_pos (hgroups.length_eq.trans hlength), hoctets, Option.map_some, hpack]

/-- **What is read as an address is what looks like one, up to signs.** A text is read if, blanks
around it apart, it is six groups, each of them one or two hexadecimal digits or a plus sign and a
digit. Texts that look like addresses are those that are read and hold no plus sign. The address is
the number to base 256 that the groups are the digits of, below `2 ^ 48`. -/
theorem read_up_to_signs (s : String) (m : Mac) :
    (ofText? s = some m ↔ Spells ReadGroup (Text.trimChars s.toList) m) ∧
    (Spells Group (Text.trimChars s.toList) m ↔ ofText? s = some m ∧ '+' ∉ s.toList) ∧
    (ofText? s).all fun m => m.value.toNat < 2 ^ 48 := by
  have hpadded := Text.padded_trimChars s.toList
  refine ⟨ofText?_eq_some_iff, ?_, ?_⟩
  · constructor
    · rintro ⟨vs, hs, hlength, hm⟩
      refine ⟨ofText?_eq_some_iff.2 ⟨vs, hs.imp fun _ _ => .group, hlength, hm⟩, fun hplus => ?_⟩
      rcases hpadded.mem_or hplus with hmem | hblank
      · exact (hs.plain hmem).1 rfl
      · exact absurd hblank (by decide)
    · rintro ⟨h, hplus⟩
      obtain ⟨vs, hs, hlength, hm⟩ := ofText?_eq_some_iff.1 h
      exact ⟨vs, hs.of_read fun hmem => hplus (hpadded.mem hmem), hlength, hm⟩
  · cases h : ofText? s with
    | none => rfl
    | some m => exact decide_eq_true (ofText?_eq_some_iff.1 h).value_lt

/-- A text that looks like no address and is read as one. -/
theorem signed_group_read :
    ofText? "+1:02:03:04:05:06" = some ⟨0x010203040506⟩ ∧
    ¬ Spells Group (Text.trimChars "+1:02:03:04:05:06".toList) ⟨0x010203040506⟩ := by
  refine ⟨by decide +kernel, ?_⟩
  rintro ⟨vs, hs, -, -⟩
  exact (hs.plain (c := '+') (by decide +kernel)).1 rfl

/-! ## Written addresses -/

theorem hexDigit_hexDigit : ∀ v < 16, Text.HexDigit (Text.hexDigit v) v := by
  decide

/-- The digits of a byte are a group. -/
theorem group_hexByte (b : UInt8) : Group (Text.hexByte b).toList b.toNat := by
  have hlt := b.toNat_lt
  have hpair : (Text.hexByte b).toList =
      [Text.hexDigit (b.toNat / 16), Text.hexDigit (b.toNat % 16)] := String.toList_ofList
  have hhigh := hexDigit_hexDigit (b.toNat / 16) (by omega)
  have hlow := hexDigit_hexDigit (b.toNat % 16) (by omega)
  have hgroup := Group.two hhigh hlow
  rw [Nat.div_add_mod] at hgroup
  rw [hpair]
  exact hgroup

/-- Groups that are joined by colons are groups in a row. -/
theorem spelled_joinWith {octets : List UInt8} (hne : octets ≠ []) :
    Spelled Group (Text.joinWith ":" (octets.map Text.hexByte)).toList
      (octets.map UInt8.toNat) := by
  unfold Text.joinWith
  rw [String.toList_intercalate]
  induction octets with
  | nil => exact absurd rfl hne
  | cons b rest ih =>
    cases rest with
    | nil =>
      rw [List.map_singleton, List.map_singleton, List.intercalate_singleton]
      exact .last (group_hexByte b)
    | cons c rest =>
      rw [List.map_cons, List.map_cons, List.map_cons, List.map_cons, List.intercalate_cons_cons,
        List.append_assoc]
      exact .more (group_hexByte b) (.inl rfl) (ih (List.cons_ne_nil _ _))

/-- The octets of an address are the digits of its low 48 bits. -/
theorem ofDigits_octets (m : Mac) :
    Nat.ofDigits 256 (m.octets.map UInt8.toNat).reverse = m.value.toNat % 2 ^ 48 := by
  simp [octets, Nat.ofDigits_cons, UInt64.toNat_shiftRight, Nat.shiftRight_eq_div_pow]
  omega

/-- The low 48 bits of a number are such a number again. -/
theorem toNat_ofNat_mod (n : Nat) : (UInt64.ofNat (n % 2 ^ 48)).toNat = n % 2 ^ 48 :=
  UInt64.toNat_ofNat_of_lt' ((Nat.mod_lt n (by decide)).trans (by decide))

/-- **The text of an address** is read as the number of its low 48 bits. -/
theorem ofText?_text (m : Mac) :
    ofText? m.text = some ⟨UInt64.ofNat (m.value.toNat % 2 ^ 48)⟩ := by
  have hs : Spelled Group m.text.toList (m.octets.map UInt8.toNat) :=
    spelled_joinWith (List.cons_ne_nil _ _)
  rw [ofText?_eq_some_iff, Text.trimChars_of_no_blank fun c hc => (hs.plain hc).2]
  refine ⟨_, hs.imp fun _ _ => .group, rfl, ?_⟩
  rw [ofDigits_octets, toNat_ofNat_mod]

/-- The addresses that are read back from their texts are those of 48 bits. -/
theorem ofText?_text_eq_some_iff {m : Mac} :
    ofText? m.text = some m ↔ m.value.toNat < 2 ^ 48 := by
  obtain ⟨value⟩ := m
  rw [ofText?_text, Option.some_inj, Mac.mk.injEq, ← UInt64.toNat_inj, toNat_ofNat_mod]
  exact Nat.mod_eq_iff_lt (by decide)

end Mac

end CloudNet
