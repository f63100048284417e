import CloudNet.Proofs.FirstSections
import CloudNet.Proofs.Words

/-!
# Legacy rules of a finished model

A legacy rule that has no match expression leaves an empty one in its group, and the check of the
model looks for empty ones. That finds every such rule and no other, since no match expression is
empty, and so each legacy rule of a group that is read is in force, or the build fails.

* `LegacyRule.exists_start_of_convert`: how match expressions start.
* `SecurityGroup.notMem_groupRules_iff`: an empty expression tells of a rule without one.
* `NetworkModel.legacy_rules_kept`: the expressions of a built model are those of the rules in the
  document.
* `NetworkModel.late_rule_unread`: the rules of a second section of groups are not looked at.
-/

namespace CloudNet

namespace LegacyRule

/-! ## Match expressions -/

/-- What match expressions of legacy rules start with. -/
def expressionStarts : List String := ["-p icmp", "-p tcp -m tcp", "-p udp -m udp"]

/-- The protocols of legacy rules and their names. -/
theorem protocolName?_eq_some {number : Int32} {name : String}
    (h : protocolName? number = some name) :
    (number = protocolIcmp ∧ name = "icmp") ∨ (number = protocolTcp ∧ name = "tcp") ∨
      (number = protocolUdp ∧ name = "udp") := by
  unfold protocolName? at h
  split at h
  · next hnumber =>
    have hicmp : Protocol.name? protocolIcmp = some "icmp" := by decide +kernel
    have htcp : Protocol.name? protocolTcp = some "tcp" := by decide +kernel
    have hudp : Protocol.name? protocolUdp = some "udp" := by decide +kernel
    simp only [List.mem_cons, List.not_mem_nil, or_false] at hnumber
    rcases hnumber with rfl | rfl | rfl
    · exact .inl ⟨rfl, Option.some.inj (h.symm.trans hicmp)⟩
    · exact .inr (.inl ⟨rfl, Option.some.inj (h.symm.trans htcp)⟩)
    · exact .inr (.inr ⟨rfl, Option.some.inj (h.symm.trans hudp)⟩)
  · exact absurd h (by simp)

theorem exists_start_of_toMatch {r : LegacyRule} {expression : String}
    (h : r.toMatch = .ok expression) :
    ∃ start ∈ expressionStarts, start.toList <+: expression.toList := by
  unfold toMatch at h
  split at h
  · exact absurd h (by simp)
  · next number _ =>
    split at h
    · exact absurd h (by simp)
    · next name hname =>
      -- the first clause is the start, and it depends on the protocol alone
      rcases protocolName?_eq_some hname with ⟨rfl, rfl⟩ | ⟨rfl, rfl⟩ | ⟨rfl, rfl⟩
      · cases h
        exact ⟨"-p icmp", by decide, Text.prefix_joinWith_cons _ _ _⟩
      · cases h
        exact ⟨"-p tcp -m tcp", by decide, Text.prefix_joinWith_cons _ _ _⟩
      · cases h
        exact ⟨"-p udp -m udp", by decide, Text.prefix_joinWith_cons _ _ _⟩

/-- **How match expressions start**: with the clause for their protocol. -/
theorem exists_start_of_convert {s expression : String} (h : convert s = .ok expression) :
    ∃ start ∈ expressionStarts, start.toList <+: expression.toList := by
  unfold convert at h
  cases hread : ofText s with
  | error cause => rw [hread] at h; cases h
  | ok r =>
    rw [hread] at h
    exact exists_start_of_toMatch h

/-- No match expression is empty. -/
theorem convert_ne_empty (s : String) : convert s ≠ .ok "" := by
  intro h
  obtain ⟨start, hstart, hprefix⟩ := exists_start_of_convert h
  have hempty : start.toList = [] := List.prefix_nil.mp hprefix
  revert start
  decide

end LegacyRule

/-! ## Rules of groups -/

/-- The elements of the groups that are read: those of the section of security groups. -/
def Document.groupElements (d : Document) : List Element :=
  Element.entries d.sections.securityGroups "securityGroup"

/-- The texts of the legacy rules in the element of a group. -/
def Element.legacyRules (e : Element) : List String := e.texts (Route.grandchild "rules" "value")

namespace SecurityGroup

theorem groupRules_ofElement (e : Element) : (ofElement e).value.groupRules =
    e.legacyRules.map fun s => (LegacyRule.convert s).toOption.getD "" := by
  unfold ofElement
  simp only [Noted.value_bind, Noted.value_mapList, Noted.value_pure, List.map_map,
    LegacyRule.value_convertNoted]
  rfl

/-- **An empty expression tells of a rule without one.** -/
theorem notMem_groupRules_iff (e : Element) : "" ∉ (ofElement e).value.groupRules ↔
    ∀ s ∈ e.legacyRules, ∃ expression, LegacyRule.convert s = .ok expression := by
  rw [groupRules_ofElement, List.mem_map]
  constructor
  · intro h s hs
    cases hc : LegacyRule.convert s with
    | ok expression => exact ⟨expression, rfl⟩
    | error cause => exact absurd ⟨s, hs, by rw [hc]; rfl⟩ h
  · rintro h ⟨s, hs, hempty⟩
    obtain ⟨expression, hc⟩ := h s hs
    rw [hc] at hempty
    cases hempty
    exact LegacyRule.convert_ne_empty s hc

/-- Without an empty expression, the expressions are those of the rules. -/
theorem map_convert_legacyRules {e : Element} (h : "" ∉ (ofElement e).value.groupRules) :
    e.legacyRules.map LegacyRule.convert = (ofElement e).value.groupRules.map .ok := by
  rw [groupRules_ofElement, List.map_map]
  refine List.map_congr_left fun s hs => ?_
  obtain ⟨expression, hc⟩ := (notMem_groupRules_iff e).mp h s hs
  rw [Function.comp_apply, hc]
  rfl

end SecurityGroup

namespace NetworkModel

/-- The groups of a model that breaks no rule have no empty expressions. -/
theorem Valid.notMem_groupRules {m : NetworkModel} (h : m.Valid) {g : SecurityGroup}
    (hg : g ∈ m.secgroups) : "" ∉ g.groupRules := by
  have hpasses : Check.allPass (Check.noneWhere (· == "") g.groupRules
      fun i => .entity .secgroup g.name (.emptyGroupRule i)) = true :=
    List.all_eq_true.mpr fun c hc => h.passes_of_mem_secgroups hg
      (List.mem_append_left _ (List.mem_append_left _ (List.mem_append_right _ hc)))
  rw [Check.allPass_noneWhere, List.all_eq_true] at hpasses
  intro hempty
  exact absurd (hpasses "" hempty) (by decide)

namespace Assembled

variable {d : Document} {m : NetworkModel}

/-- The groups of an assembled model are those of the document, in its order. -/
theorem secgroups_eq_map (h : Assembled d.sections m) :
    m.secgroups = d.groupElements.map fun e =>
      (SecurityGroup.ofElement e).value.withMembers m.instances m.interfaces := by
  rw [h.secgroups, SecurityGroup.listed, List.map_map]
  rfl

/-- If the model breaks no rule, no group is read with an empty expression. -/
theorem notMem_groupRules (h : Assembled d.sections m) (hvalid : m.Valid) {e : Element}
    (he : e ∈ d.groupElements) : "" ∉ (SecurityGroup.ofElement e).value.groupRules := by
  have hmem : (SecurityGroup.ofElement e).value.withMembers m.instances m.interfaces ∈
      m.secgroups := h.secgroups_eq_map ▸ List.mem_map_of_mem he
  exact (hvalid.notMem_groupRules hmem :)

end Assembled

/-- **No legacy rule of a group that is read is lost.** Match expressions start with the clause for
their protocol and so are never empty. In a built model the groups are those of the document, in its
order, and each has the expressions of its rules, in their order; if a rule has no expression, the
build fails. -/
theorem legacy_rules_kept (d : Document) (hostnames : HostnameCache) :
    (∀ s, LegacyRule.convert s ≠ .ok "" ∧ ∀ expression, LegacyRule.convert s = .ok expression →
      ∃ start ∈ LegacyRule.expressionStarts, start.toList <+: expression.toList) ∧
    (∀ m, (ofDocument d .all hostnames).value = .ok m →
      List.Forall₂ (fun e g => e.legacyRules.map LegacyRule.convert = g.groupRules.map .ok)
        d.groupElements m.secgroups) ∧
    ((∃ e ∈ d.groupElements, ∃ s ∈ e.legacyRules, ∃ cause, LegacyRule.convert s = .error cause) →
      ∃ fault, (ofDocument d .all hostnames).value = .error fault) := by
  refine ⟨fun s => ⟨LegacyRule.convert_ne_empty s,
    fun expression => LegacyRule.exists_start_of_convert⟩, ?_, ?_⟩
  · intro m h
    obtain ⟨-, -, hvalid⟩ := (value_ofDocument_eq_ok_iff (by decide)).mp h
    have ha := assembled_of_ofDocument h
    rw [ha.secgroups_eq_map, List.forall₂_map_right_iff, List.forall₂_same]
    intro e he
    exact SecurityGroup.map_convert_legacyRules (ha.notMem_groupRules hvalid he)
  · rintro ⟨e, he, s, hs, cause, hfails⟩
    cases h : (ofDocument d .all hostnames).value with
    | error fault => exact ⟨fault, rfl⟩
    | ok m =>
      obtain ⟨-, -, hvalid⟩ := (value_ofDocument_eq_ok_iff (by decide)).mp h
      have hnone := (assembled_of_ofDocument h).notMem_groupRules hvalid he
      obtain ⟨expression, hok⟩ := (SecurityGroup.notMem_groupRules_iff e).mp hnone s hs
      exact absurd (hfails.symm.trans hok) (by simp)

end NetworkModel

/-! ## Two networks with legacy rules -/

namespace Sample

/-- A section with one group, given its name and its legacy rules. -/
def groupSection (name : String) (rules : List String) : Content :=
  part "securityGroups" [
    entity "securityGroup" name [
      field "ownerId" "account", part "rules" (rules.map (field "value"))]]

/-- The settings of a network without tenant networks, and a group with legacy rules. -/
def ruled (rules : List String) : Document :=
  (guarded []).withContent ((guarded []).root.content.take 1 ++ [groupSection "web" rules])

/-- The model of such a network, given the expressions of the rules. -/
def ruledModel (expressions : List String) : NetworkModel :=
  { guardedModel {} with secgroups :=
      [{ name := "web", accountId := "account", groupRules := expressions }] }

/-- The network without a rule, with a second section of groups behind its own. -/
def lateGroups : Document :=
  (guarded []).withContent ((guarded []).root.content ++ [groupSection "late" ["-P 47"]])

/-- Two legacy rules. -/
def webRules : List String := ["-P 6 -p 80-80", "-t -1:-1 -P 1"]

/-- The build of the network with these rules succeeds. -/
theorem ofDocument_ruled :
    (NetworkModel.ofDocument (ruled webRules) .all {}).value =
      .ok (ruledModel ["-p tcp -m tcp --dport 80", "-p icmp --icmp-type any"]) := by
  have hsorted : Instance.byName (NetworkModel.unsorted (ruled webRules)) = [] :=
    List.mergeSort_nil
  exact NetworkModel.ofDocument_of_sorted rfl hsorted (by decide +kernel) (by decide +kernel)

end Sample

namespace NetworkModel

/-- Two rules are kept in their order, and a rule about another protocol makes the build fail. -/
theorem web_rules_kept :
    (ofDocument (Sample.ruled Sample.webRules) .all {}).value =
      .ok (Sample.ruledModel ["-p tcp -m tcp --dport 80", "-p icmp --icmp-type any"]) ∧
    Sample.webRules.map LegacyRule.convert =
      [.ok "-p tcp -m tcp --dport 80", .ok "-p icmp --icmp-type any"] ∧
    LegacyRule.convert "-P 47" = .error (.unsupportedProtocol 47) ∧
    ∃ fault, (ofDocument (Sample.ruled ["-P 6", "-P 47"]) .all {}).value = .error fault := by
  obtain ⟨-, hkept, -⟩ := legacy_rules_kept (Sample.ruled Sample.webRules) {}
  have hrules := hkept _ Sample.ofDocument_ruled
  have hfails : LegacyRule.convert "-P 47" = .error (.unsupportedProtocol 47) := by decide +kernel
  obtain ⟨-, -, hlost⟩ := legacy_rules_kept (Sample.ruled ["-P 6", "-P 47"]) {}
  refine ⟨Sample.ofDocument_ruled, ?_, hfails, hlost ?_⟩
  · cases hrules with
    | cons hweb _ => exact hweb
  · exact ⟨⟨"securityGroup", [{ name := "name", value := "web" }], _⟩, List.mem_singleton_self _,
      "-P 47", by decide, _, hfails⟩

/-- The rules of a second section of groups are not looked at: one of them has no expression, and
the build succeeds. -/
theorem late_rule_unread :
    (∃ e ∈ Sample.lateGroups.root.follow (Route.grandchild "securityGroups" "securityGroup"),
      ∃ s ∈ e.legacyRules, LegacyRule.convert s = .error (.unsupportedProtocol 47)) ∧
    (ofDocument Sample.lateGroups .all {}).value = .ok (Sample.guardedModel {}) := by
  have hagain : Content.Rearrangement ((Sample.guarded []).root.content ++ [])
      Sample.lateGroups.root.content :=
    @Content.Rearrangement.again _ [] ⟨"securityGroups", [], _⟩ ⟨"securityGroups", [], _⟩
      (List.mem_cons_of_mem _ List.mem_cons_self) rfl
  have hsections : Sample.lateGroups.sections = (Sample.guarded []).sections :=
    Document.sections_congr fun name hname =>
      (Content.first?_eq_of_rearrangement hagain hname).symm
  have hsame : ofDocument Sample.lateGroups .all {} = ofDocument (Sample.guarded []) .all {} :=
    ofDocument_congr (Document.declared?_withContent _ _ "version")
      (Document.declared?_withContent _ _ "applied-version") hsections rfl .all {}
  refine ⟨by decide +kernel, ?_⟩
  rw [hsame]
  exact Sample.ofDocument_guarded rfl (by decide)

end NetworkModel

end CloudNet
