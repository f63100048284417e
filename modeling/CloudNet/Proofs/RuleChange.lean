import CloudNet.Change
import CloudNet.Proofs.MatchAgreement
import CloudNet.Proofs.Records
import Mathlib.Data.List.Forall2

/-!
# Rules that did not change

Two rules match if they agree in the numbers of their source blocks and in everything else that is
matched. Match expressions are made from the text of a source block instead. A text can spell one
block in several ways, and a text that no block can be read off leaves the numbers of any address.
So the rules of a group that did not change agree in everything but the source, and the sources
agree as far as they can be read.

* `Rule.recorded_ofElement`: the numbers of a rule's source block are those that its text reads as.
* `Rule.SameMatch.enforcedAlike`: what rules that match have in common.
* `SecurityGroup.enforcedAlike_of_unchanged`: the same of the rules of a group that did not change,
  one by one.
* `SecurityGroup.unchanged_with_other_source`: a source that cannot be read goes unnoticed.
-/

namespace CloudNet

namespace Rule

/-! ## Reading and writing source blocks -/

/-- The block of all addresses. -/
def everywhere : Cidr := ⟨0, 0, by decide⟩

/-- The addresses a rule is about: all of them without a text, else those its text names, if it
names any. -/
def block? (r : Rule) : Option Cidr :=
  if Text.trim r.cidr = "" then some everywhere else Cidr.ofBlockOrAddress? r.cidr

/-- The numbers of the source block are those that the text reads as, and zero if it reads as
none. -/
def Recorded (r : Rule) : Prop :=
  match Cidr.ofBlockOrAddress? r.cidr with
  | some block => r.cidrAddress = block.address ∧ r.cidrLength = block.length
  | none => r.cidrAddress = 0 ∧ r.cidrLength = 0

theorem recorded_ofElement (e : Element) : (ofElement e).value.Recorded := by
  unfold ofElement
  dsimp only
  split
  · exact ⟨rfl, rfl⟩
  · next cidr _ =>
    split
    · next block hblock =>
      unfold Recorded
      simp only [Noted.value_pure, hblock, and_self]
    · next hnone =>
      unfold Recorded
      simp only [Noted.value_bind, Noted.value_pure, hnone, and_self]

/-- A text of blanks is no block. -/
theorem ofBlockOrAddress?_of_trim {s : String} (h : Text.trim s = "") :
    Cidr.ofBlockOrAddress? s = none := by
  have hnil : Text.trimChars s.toList = [] := by
    simpa [Text.trim] using h
  unfold Cidr.ofBlockOrAddress? Ipv4.ofText?
  rw [hnil]
  rfl

/-- The numbers of a rule are those of the block it is about, which is any address for a text that
names none. -/
theorem Recorded.eq_block {r : Rule} (h : r.Recorded) :
    r.cidrAddress = (r.block?.getD everywhere).address ∧
      r.cidrLength = (r.block?.getD everywhere).length := by
  unfold Recorded at h
  unfold block?
  split
  · next hempty =>
    rw [ofBlockOrAddress?_of_trim hempty] at h
    exact h
  · cases hblock : Cidr.ofBlockOrAddress? r.cidr with
    | none =>
      rw [hblock] at h
      exact h
    | some block =>
      rw [hblock] at h
      exact h

/-! ## Rules that match -/

/-- The rules match the same traffic, field by field. -/
structure SameMatch (a b : Rule) : Prop where
  cidrAddress : a.cidrAddress = b.cidrAddress
  cidrLength : a.cidrLength = b.cidrLength
  protocol : a.protocol = b.protocol
  fromPort : a.fromPort = b.fromPort
  toPort : a.toPort = b.toPort
  icmpType : a.icmpType = b.icmpType
  icmpCode : a.icmpCode = b.icmpCode
  groupId : a.groupId = b.groupId

theorem SameMatch.of_sameMatch {a b : Rule} (h : a.sameMatch b = true) : SameMatch a b := by
  unfold sameMatch at h
  simp only [Bool.and_eq_true, beq_iff_eq] at h
  obtain ⟨⟨⟨⟨⟨⟨⟨haddress, hlength⟩, hprotocol⟩, hfrom⟩, hto⟩, htype⟩, hcode⟩, hgroup⟩ := h
  exact ⟨haddress, hlength, hprotocol, hfrom, hto, htype, hcode, hgroup⟩

/-- The rules are enforced alike, apart from their own sources. -/
structure EnforcedAlike (a b : Rule) : Prop where
  /-- From one source they have one expression, or none for one reason. -/
  compile_from : ∀ source flag, a.compile (some source) flag = b.compile (some source) flag
  /-- From their own sources they do exactly if they cannot be expressed or spell them alike. -/
  compile_own : ∀ flag, a.compile none flag = b.compile none flag ↔
    ¬ a.Expressible ∨ SameSource none a none b
  /-- From their own sources they have expressions that say the same after the source, or none for
  one reason. -/
  outcome : ∀ flag,
    (∃ e, a.compile none flag = .error e ∧ b.compile none flag = .error e) ∨
    ∃ ta tb rest, a.compile none flag = .ok ta ∧ b.compile none flag = .ok tb ∧
      Text.words ta.toList = sourceWords (a.source none) ++ rest ∧
      Text.words tb.toList = sourceWords (b.source none) ++ rest
  /-- They name the same addresses, where a text that names none counts as any address. -/
  block : a.block?.getD everywhere = b.block?.getD everywhere

/-- Expressions that are one text and say the same after the source have one source. -/
theorem joinWith_source_inj {s t : String} {rest : List String}
    (h : Text.joinWith " " ((if s = "" then [] else ["-s " ++ s]) ++ rest) =
      Text.joinWith " " ((if t = "" then [] else ["-s " ++ t]) ++ rest)) : s = t := by
  have hne : ∀ source : String, "-s " ++ source ≠ "" := fun source => by simp
  by_cases hs : s = "" <;> by_cases ht : t = ""
  · rw [hs, ht]
  · rw [if_pos hs, if_neg ht] at h
    exact absurd h (Text.joinWith_ne_joinWith_cons (hne t))
  · rw [if_neg hs, if_pos ht] at h
    exact absurd h.symm (Text.joinWith_ne_joinWith_cons (hne s))
  · rw [if_neg hs, if_neg ht] at h
    exact (String.append_right_inj "-s ").1 (Text.joinWith_cons_inj h)

namespace SameMatch

variable {a b : Rule}

/-- Rules that match agree from one source. -/
theorem agree (h : SameMatch a b) {given given' : Option String}
    (hsource : SameSource given a given' b) (flag : RuleFlag) :
    Agree given a flag given' b flag where
  source := hsource
  protocol := h.protocol
  icmp _ := ⟨h.icmpType, .inr h.icmpCode⟩
  ports _ := ⟨h.fromPort, .inr (.inl h.toPort)⟩
  condition := rfl

/-- Rules that match agree from one source in the place of theirs. -/
theorem agree_from (h : SameMatch a b) (source : String) (flag : RuleFlag) :
    Agree (some source) a flag (some source) b flag := by
  refine h.agree (.inl ?_) flag
  simp only [Option.getD_some]

/-- Rules that match admit the same protocol. -/
theorem ofRule_eq (h : SameMatch a b) : ProtocolMatch.ofRule a = ProtocolMatch.ofRule b :=
  (h.agree_from "" .none).ofRule_eq

/-- Rules that match have one expression exactly if they have none or spell their sources alike. -/
theorem compile_own_iff (h : SameMatch a b) (flag : RuleFlag) :
    a.compile none flag = b.compile none flag ↔ ¬ a.Expressible ∨ SameSource none a none b := by
  constructor
  · intro hcompile
    refine or_iff_not_imp_left.2 fun hexpr => ?_
    obtain ⟨p, hp⟩ := (expressible_iff a).1 (not_not.1 hexpr)
    rw [compile_eq, compile_eq, ← h.ofRule_eq, hp, Except.map, Except.map, Except.ok.injEq,
      List.append_assoc, List.append_assoc] at hcompile
    exact sameSource_iff.2 (joinWith_source_inj hcompile)
  · rintro (hexpr | hsource)
    · cases hp : ProtocolMatch.ofRule a with
      | error e =>
        rw [compile_eq_error hp, compile_eq_error (h.ofRule_eq.symm.trans hp)]
      | ok p => exact absurd ((expressible_iff a).2 ⟨p, hp⟩) hexpr
    · exact (h.agree hsource flag).compile_eq

/-- **Rules that match are enforced alike**, apart from their own sources, if their numbers are those
of their texts. -/
theorem enforcedAlike (h : SameMatch a b) (ha : a.Recorded) (hb : b.Recorded) :
    EnforcedAlike a b where
  compile_from source flag := (h.agree_from source flag).compile_eq
  compile_own := h.compile_own_iff
  outcome flag := by
    cases hp : ProtocolMatch.ofRule a with
    | error e =>
      have hpb := h.ofRule_eq.symm.trans hp
      exact .inl ⟨e, compile_eq_error hp none flag, compile_eq_error hpb none flag⟩
    | ok p =>
      obtain ⟨ta, hta⟩ := exists_compile hp none flag
      obtain ⟨tb, htb⟩ := exists_compile (h.ofRule_eq.symm.trans hp) none flag
      obtain ⟨pa, hpa, hwordsA⟩ := words_of_compile hta
      obtain ⟨pb, hpb, hwordsB⟩ := words_of_compile htb
      have hsame : pa = pb := Except.ok.inj (hpa.symm.trans (h.ofRule_eq.trans hpb))
      subst hsame
      exact .inr ⟨ta, tb, _, hta, htb, hwordsA, hwordsB⟩
  block := by
    obtain ⟨haddress, hlength⟩ := ha.eq_block
    obtain ⟨haddress', hlength'⟩ := hb.eq_block
    exact Cidr.ext (haddress.symm.trans (h.cidrAddress.trans haddress'))
      (hlength.symm.trans (h.cidrLength.trans hlength'))

end SameMatch

end Rule

/-- Lists of rules that do not differ match one by one. -/
theorem forall₂_of_rulesDiffer {as bs : List Rule} (h : rulesDiffer as bs = false) :
    List.Forall₂ Rule.SameMatch as bs := by
  obtain ⟨hlength, hzip⟩ := rulesDiffer_eq_false_iff.1 h
  exact List.forall₂_iff_zip.2 ⟨hlength, fun hmem => .of_sameMatch (hzip _ _ hmem)⟩

namespace SecurityGroup

/-- The rules of a built model have the numbers that their texts read as. -/
theorem recorded_of_mem {d : Document} {hostnames : HostnameCache} {m : NetworkModel}
    (h : (NetworkModel.ofDocument d .all hostnames).value = .ok m) {g : SecurityGroup}
    (hg : g ∈ m.secgroups) {r : Rule} (hr : r ∈ g.ingressRules) : r.Recorded := by
  obtain ⟨g₀, hg₀, heq⟩ := (NetworkModel.assembled_of_ofDocument h).mem_secgroups hg
  obtain ⟨e, -, rfl⟩ := List.mem_map.1 hg₀
  rw [heq] at hr
  unfold ofElement at hr
  simp only [Noted.value_bind, Noted.value_pure, Noted.value_mapList] at hr
  obtain ⟨e', -, rfl⟩ := List.mem_map.1 hr
  exact Rule.recorded_ofElement e'

/-- **The rules of a group that did not change are enforced alike**, apart from their own sources,
one by one, whatever two documents the group is built from. -/
theorem enforcedAlike_of_unchanged {da db : Document} {ha hb : HostnameCache} {ma mb : NetworkModel}
    (hma : (NetworkModel.ofDocument da .all ha).value = .ok ma)
    (hmb : (NetworkModel.ofDocument db .all hb).value = .ok mb) {a b : SecurityGroup}
    (hga : a ∈ ma.secgroups) (hgb : b ∈ mb.secgroups) (h : (a.changes ma mb b).ingress = false) :
    List.Forall₂ Rule.EnforcedAlike a.ingressRules b.ingressRules := by
  have hrules : rulesDiffer a.ingressRules b.ingressRules = false := by
    unfold changes at h
    split at h
    · exact absurd h (by decide)
    · exact h
  obtain ⟨hlength, hzip⟩ := List.forall₂_iff_zip.1 (forall₂_of_rulesDiffer hrules)
  refine List.forall₂_iff_zip.2 ⟨hlength, fun {x y} hmem => ?_⟩
  obtain ⟨hx, hy⟩ := List.of_mem_zip hmem
  exact (hzip hmem).enforcedAlike (recorded_of_mem hma hga hx) (recorded_of_mem hmb hgb hy)

/-- The same address with and without the length of its block: the rule did not change, from one
source both have one expression, and the two texts name one block. -/
theorem unchanged_of_login :
    (NetworkModel.ofDocument (Sample.loginNetwork "10.0.0.4") .all {}).value =
      .ok (Sample.guardedModel (Sample.loginFrom "10.0.0.4" 167772164 32)) ∧
    (NetworkModel.ofDocument (Sample.loginNetwork "10.0.0.4/32") .all {}).value =
      .ok (Sample.guardedModel (Sample.loginFrom "10.0.0.4/32" 167772164 32)) ∧
    List.Forall₂ Rule.EnforcedAlike [Sample.loginFrom "10.0.0.4" 167772164 32]
      [Sample.loginFrom "10.0.0.4/32" 167772164 32] := by
  have hma : (NetworkModel.ofDocument (Sample.loginNetwork "10.0.0.4") .all {}).value =
      .ok (Sample.guardedModel (Sample.loginFrom "10.0.0.4" 167772164 32)) :=
    Sample.ofDocument_guarded (by decide +kernel) (by decide +kernel)
  have hmb : (NetworkModel.ofDocument (Sample.loginNetwork "10.0.0.4/32") .all {}).value =
      .ok (Sample.guardedModel (Sample.loginFrom "10.0.0.4/32" 167772164 32)) :=
    Sample.ofDocument_guarded (by decide +kernel) (by decide +kernel)
  exact ⟨hma, hmb,
    enforcedAlike_of_unchanged hma hmb List.mem_cons_self List.mem_cons_self (by rfl)⟩

/-- No block can be read off the first source, so it counts as any address, which the second one
is. The group is the same although its rule admits other traffic. -/
theorem unchanged_with_other_source :
    (NetworkModel.ofDocument (Sample.loginNetwork "10.0.0.0/255.0.0.0") .all {}).value =
      .ok (Sample.guardedModel (Sample.loginFrom "10.0.0.0/255.0.0.0" 0 0)) ∧
    (NetworkModel.ofDocument (Sample.loginNetwork "0.0.0.0/0") .all {}).value =
      .ok (Sample.guardedModel (Sample.loginFrom "0.0.0.0/0" 0 0)) ∧
    (Sample.guardedGroup (Sample.loginFrom "10.0.0.0/255.0.0.0" 0 0)).changes
        (Sample.guardedModel (Sample.loginFrom "10.0.0.0/255.0.0.0" 0 0))
        (Sample.guardedModel (Sample.loginFrom "0.0.0.0/0" 0 0))
        (Sample.guardedGroup (Sample.loginFrom "0.0.0.0/0" 0 0)) =
      { same := true, ingress := false, egress := false, interfaces := false } ∧
    (Sample.loginFrom "10.0.0.0/255.0.0.0" 0 0).compile none .none =
      .ok "-s 10.0.0.0/255.0.0.0 -p tcp -m tcp --dport 22" ∧
    (Sample.loginFrom "0.0.0.0/0" 0 0).compile none .none = .ok "-p tcp -m tcp --dport 22" :=
  ⟨Sample.ofDocument_guarded (by decide +kernel) (by decide +kernel),
    Sample.ofDocument_guarded (by decide +kernel) (by decide +kernel), rfl, by decide +kernel,
    by decide +kernel⟩

end SecurityGroup

end CloudNet
