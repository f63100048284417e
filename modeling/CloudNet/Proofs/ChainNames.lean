import CloudNet.Identity
import CloudNet.Proofs.Building
import Mathlib.Data.String.Basic

/-!
# Chains of security groups

The chain of a group is named for a hash of one text, its account and its name with a hyphen between
them. Accounts and names can hold hyphens of their own, so the text does not always tell where the
account ends: two groups can have it in common and cut it at different hyphens. Such groups share
their chain, whatever the hash is, and with a hash that tells texts apart no other groups do.

* `value_name_eq_ok_iff`: which groups have a chain, and what its name is.
* `usable_shortHash`: the hash that is in use gives every group one.
* `hashInput_eq_iff`: which groups are hashed alike.
* `CutLater.same_chain`: two cuts of one text give one chain, whatever the hash is.
* `chains_told_apart`: which groups share a chain.
* `one_text_cut_twice`: groups of one network that do, both within all rules.
-/

namespace CloudNet.Chain

/-! ## Hashes -/

/-- The hash of a text can stand in the name of a chain. -/
structure Usable (hash : String → String) (s : String) : Prop where
  ne_empty : hash s ≠ ""
  fits : (leader ++ hash s).utf8ByteSize ≤ nameLimit

/-- **The groups that have a chain** are those whose hash is usable, and the chain is named for
it. -/
theorem value_name_eq_ok_iff {hash : String → String} {g : SecurityGroup} {chain : String} :
    (name hash g).value = .ok chain ↔
      Usable hash (hashInput g) ∧ chain = leader ++ hash (hashInput g) := by
  unfold name
  by_cases hempty : hash (hashInput g) = ""
  · rw [if_pos hempty]
    constructor
    · intro h
      cases h
    · rintro ⟨h, -⟩
      exact absurd hempty h.ne_empty
  · rw [if_neg hempty]
    by_cases hlong : (leader ++ hash (hashInput g)).utf8ByteSize > nameLimit
    · simp only [if_pos hlong]
      constructor
      · intro h
        cases h
      · rintro ⟨h, -⟩
        exact absurd h.fits (not_le.mpr hlong)
    · simp only [if_neg hlong]
      constructor
      · rintro ⟨⟩
        exact ⟨⟨hempty, not_lt.mp hlong⟩, rfl⟩
      · rintro ⟨-, rfl⟩
        rfl

/-- A text of characters that take one byte each. -/
theorem utf8ByteSize_ofList_of_small {cs : List Char} (h : ∀ c ∈ cs, c.utf8Size = 1) :
    (String.ofList cs).utf8ByteSize = cs.length := by
  rw [String.utf8ByteSize_ofList]
  induction cs with
  | nil => rfl
  | cons c cs ih =>
    rw [List.forall_mem_cons] at h
    rw [String.utf8Len_cons, ih h.2, h.1, List.length_cons]

/-- The hash that is in use fills the name of a chain up. -/
theorem utf8ByteSize_shortHash (s : String) :
    (shortHash s).utf8ByteSize = nameLimit - leader.length := by
  have hsmall : ∀ c ∈ (Base64.encode (Sha256.digest s.toUTF8.data.toList)).take
      (nameLimit - leader.length), c.utf8Size = 1 := by
    intro c hc
    obtain ⟨n, rfl⟩ := Base64.exists_of_mem_encode (List.mem_of_mem_take hc)
    exact Base64.utf8Size_character n
  unfold shortHash
  rw [utf8ByteSize_ofList_of_small hsmall, List.length_take, Base64.length_encode,
    Sha256.length_digest]
  rfl

/-- **The hash that is in use is usable for every text**, so every group has a chain. -/
theorem usable_shortHash (s : String) : Usable shortHash s where
  ne_empty := by
    intro hempty
    have hsize := utf8ByteSize_shortHash s
    rw [hempty] at hsize
    exact absurd hsize (by decide)
  fits := by
    rw [String.utf8ByteSize_append, utf8ByteSize_shortHash]
    decide

/-! ## Groups that are hashed alike -/

/-- The groups have one text to hash, and in `b` it is cut at a later hyphen than in `a`. -/
def CutLater (a b : SecurityGroup) : Prop :=
  ∃ middle, b.accountId = a.accountId ++ "-" ++ middle ∧ a.name = middle ++ "-" ++ b.name

theorem CutLater.hashInput_eq {a b : SecurityGroup} (h : CutLater a b) :
    hashInput a = hashInput b := by
  obtain ⟨middle, haccount, hname⟩ := h
  unfold hashInput
  rw [haccount, hname]
  simp only [String.append_assoc]

/-- Then the account of `b` is longer and has a hyphen. -/
theorem CutLater.accountId {a b : SecurityGroup} (h : CutLater a b) :
    a.accountId.length < b.accountId.length ∧ '-' ∈ b.accountId.toList := by
  obtain ⟨middle, haccount, -⟩ := h
  rw [haccount]
  have hhyphen : "-".length = 1 := rfl
  constructor
  · rw [String.length_append, String.length_append, hhyphen]
    omega
  · simp

/-- Two pairs of words with one mark between them make the same word if they are the same, or if the
mark stands in a word of each pair too. -/
theorem append_cons_eq_append_cons {α : Type} {mark : α} {as bs cs ds : List α}
    (h : as ++ mark :: bs = cs ++ mark :: ds) :
    (as = cs ∧ bs = ds) ∨ (∃ middle, cs = as ++ mark :: middle ∧ bs = middle ++ mark :: ds) ∨
      ∃ middle, as = cs ++ mark :: middle ∧ ds = middle ++ mark :: bs := by
  obtain ⟨rest, hcs, hbs⟩ | ⟨rest, has, hds⟩ := List.append_eq_append_iff.mp h
  · obtain ⟨rfl, hds⟩ | ⟨middle, rfl, rfl⟩ := List.cons_eq_append_iff.mp hbs
    · exact .inl ⟨by rw [hcs, List.append_nil], (List.cons.inj hds).2.symm⟩
    · exact .inr (.inl ⟨middle, hcs, rfl⟩)
  · obtain ⟨rfl, hbs⟩ | ⟨middle, rfl, rfl⟩ := List.cons_eq_append_iff.mp hds
    · exact .inl ⟨by rw [has, List.append_nil], (List.cons.inj hbs).2⟩
    · exact .inr (.inr ⟨middle, has, rfl⟩)

/-- **The groups that are hashed alike** are those of one account and one name, and those that cut
one text at different hyphens. -/
theorem hashInput_eq_iff {a b : SecurityGroup} :
    hashInput a = hashInput b ↔
      (a.accountId = b.accountId ∧ a.name = b.name) ∨ CutLater a b ∨ CutLater b a := by
  have hcut : ∀ {x y : SecurityGroup} {middle : List Char},
      y.accountId.toList = x.accountId.toList ++ '-' :: middle →
      x.name.toList = middle ++ '-' :: y.name.toList → CutLater x y := by
    intro x y middle haccount hname
    refine ⟨String.ofList middle, ?_, ?_⟩
    · rw [← String.toList_inj, haccount]
      simp
    · rw [← String.toList_inj, hname]
      simp
  constructor
  · intro h
    have htext : a.accountId.toList ++ '-' :: a.name.toList =
        b.accountId.toList ++ '-' :: b.name.toList := by
      simpa [hashInput] using congrArg String.toList h
    obtain ⟨haccount, hname⟩ | ⟨middle, haccount, hname⟩ | ⟨middle, haccount, hname⟩ :=
      append_cons_eq_append_cons htext
    · exact .inl ⟨String.toList_inj.mp haccount, String.toList_inj.mp hname⟩
    · exact .inr (.inl (hcut haccount hname))
    · exact .inr (.inr (hcut haccount hname))
  · rintro (⟨haccount, hname⟩ | h | h)
    · unfold hashInput
      rw [haccount, hname]
    · exact h.hashInput_eq
    · exact h.hashInput_eq.symm

/-! ## Groups that share a chain -/

/-- **Two cuts of one text give one chain**, or none, whatever the hash is. -/
theorem CutLater.same_chain {a b : SecurityGroup} (h : CutLater a b) (hash : String → String)
    (chain : String) : (name hash a).value = .ok chain ↔ (name hash b).value = .ok chain := by
  rw [value_name_eq_ok_iff, value_name_eq_ok_iff, h.hashInput_eq]

/-- The accounts of the groups cannot be cut differently out of one text: they are equally long, or
none of them has a hyphen. -/
def PlainAccounts (a b : SecurityGroup) : Prop :=
  a.accountId.length = b.accountId.length ∨
    ('-' ∉ a.accountId.toList ∧ '-' ∉ b.accountId.toList)

theorem PlainAccounts.not_cutLater {a b : SecurityGroup} (h : PlainAccounts a b) :
    ¬ CutLater a b ∧ ¬ CutLater b a := by
  constructor
  · intro hcut
    obtain ⟨hlength, hhyphen⟩ := hcut.accountId
    rcases h with hsame | ⟨-, hnone⟩
    · omega
    · exact hnone hhyphen
  · intro hcut
    obtain ⟨hlength, hhyphen⟩ := hcut.accountId
    rcases h with hsame | ⟨hnone, -⟩
    · omega
    · exact hnone hhyphen

/-- **Groups share a chain exactly if they are hashed alike**, given a hash that is usable for both
and tells their texts apart. So no two groups of plain accounts do. -/
theorem chains_told_apart {hash : String → String} {a b : SecurityGroup}
    (ha : Usable hash (hashInput a)) (hb : Usable hash (hashInput b))
    (hinj : hash (hashInput a) = hash (hashInput b) → hashInput a = hashInput b) :
    ∃ x y, (name hash a).value = .ok x ∧ (name hash b).value = .ok y ∧
      (x = y ↔ (a.accountId = b.accountId ∧ a.name = b.name) ∨ CutLater a b ∨ CutLater b a) ∧
      (PlainAccounts a b → a.accountId ≠ b.accountId ∨ a.name ≠ b.name → x ≠ y) := by
  have hchain : leader ++ hash (hashInput a) = leader ++ hash (hashInput b) ↔
      (a.accountId = b.accountId ∧ a.name = b.name) ∨ CutLater a b ∨ CutLater b a := by
    rw [String.append_right_inj, ← hashInput_eq_iff]
    exact ⟨hinj, congrArg hash⟩
  refine ⟨_, _, value_name_eq_ok_iff.mpr ⟨ha, rfl⟩, value_name_eq_ok_iff.mpr ⟨hb, rfl⟩, hchain, ?_⟩
  intro hplain hdiffer hsame
  obtain ⟨hlater, hearlier⟩ := hplain.not_cutLater
  rcases hchain.mp hsame with ⟨haccount, hname⟩ | hcut | hcut
  · rcases hdiffer with hne | hne
    · exact hne haccount
    · exact hne hname
  · exact hlater hcut
  · exact hearlier hcut

end CloudNet.Chain

namespace CloudNet

namespace Sample

/-- A group of an account, without rules and members. -/
def groupOf (accountId name : String) : SecurityGroup := { name, accountId }

/-- A network with two groups whose accounts and names make one text. -/
def hyphenated : Document where
  root := ⟨"network-data", [{ name := "version", value := "7" }], [
    part "configuration" [
      setting "mode" "EDGE", setting "enabledCLCIp" "10.0.0.1",
      setting "instanceDNSDomain" "cloud.internal", setting "instanceDNSServers" "10.0.0.2"],
    part "securityGroups" [
      entity "securityGroup" "b-c" [field "ownerId" "a"],
      entity "securityGroup" "c" [field "ownerId" "a-b"]]]⟩

/-- The model of the network. -/
def hyphenatedModel : NetworkModel where
  initialized := true
  mode := "EDGE"
  version := "7"
  controllerIp := 167772161
  dnsDomain := "cloud.internal"
  dnsServers := [167772162]
  sortedInstances := true
  secgroups := [groupOf "a" "b-c", groupOf "a-b" "c"]

end Sample

namespace Chain

/-- Two tenants have a group of one name each. With a hash that leaves every text as it is, the
groups have chains of their own. -/
theorem chains_of_two_tenants :
    Usable id (hashInput (Sample.groupOf "000111" "web")) ∧
    Usable id (hashInput (Sample.groupOf "000222" "web")) ∧
    PlainAccounts (Sample.groupOf "000111" "web") (Sample.groupOf "000222" "web") ∧
    ∃ x y, (name id (Sample.groupOf "000111" "web")).value = .ok x ∧
      (name id (Sample.groupOf "000222" "web")).value = .ok y ∧ x ≠ y := by
  have hfirst : Usable id (hashInput (Sample.groupOf "000111" "web")) :=
    ⟨by decide, by decide⟩
  have hsecond : Usable id (hashInput (Sample.groupOf "000222" "web")) :=
    ⟨by decide, by decide⟩
  have hplain : PlainAccounts (Sample.groupOf "000111" "web") (Sample.groupOf "000222" "web") :=
    .inl (by decide)
  obtain ⟨x, y, hx, hy, -, hdiffer⟩ := chains_told_apart hfirst hsecond id
  exact ⟨hfirst, hsecond, hplain, x, y, hx, hy, hdiffer hplain (.inl (by decide))⟩

/-- **Two groups of one network share a chain**, though they differ in account and name and break no
rule: a hash that tells all texts apart is usable for both, and like every other one it gives them
the same chain. -/
theorem one_text_cut_twice :
    (NetworkModel.ofDocument Sample.hyphenated .all {}).value = .ok Sample.hyphenatedModel ∧
    Sample.hyphenatedModel.secgroups = [Sample.groupOf "a" "b-c", Sample.groupOf "a-b" "c"] ∧
    Function.Injective (id : String → String) ∧ Usable id "a-b-c" ∧
    (name id (Sample.groupOf "a" "b-c")).value = .ok "EU_a-b-c" ∧
    (name id (Sample.groupOf "a-b" "c")).value = .ok "EU_a-b-c" ∧
    ∀ hash chain, (name hash (Sample.groupOf "a" "b-c")).value = .ok chain ↔
      (name hash (Sample.groupOf "a-b" "c")).value = .ok chain := by
  have hsorted : Instance.byName (NetworkModel.unsorted Sample.hyphenated) = [] :=
    List.mergeSort_nil
  have hbuilt : (NetworkModel.ofDocument Sample.hyphenated .all {}).value =
      .ok Sample.hyphenatedModel :=
    NetworkModel.ofDocument_of_sorted rfl hsorted (by decide +kernel) (by decide +kernel)
  have hcut : CutLater (Sample.groupOf "a" "b-c") (Sample.groupOf "a-b" "c") := ⟨"b", rfl, rfl⟩
  exact ⟨hbuilt, rfl, Function.injective_id, ⟨by decide, by decide⟩, rfl, rfl, hcut.same_chain⟩

end Chain

end CloudNet
