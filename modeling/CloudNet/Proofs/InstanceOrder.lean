import CloudNet.Proofs.FirstSections
import CloudNet.Proofs.InstanceSearch
import CloudNet.Proofs.Records
import CloudNet.Proofs.SettingsAlone

/-!
# The order of instances in a document

Outside networks of tenant networks the order in which a document lists its instances is lost: they
are sorted by name before anything refers to their positions. Instances without a name are not told
apart by sorting, but then the model is refused, whatever their order: its settings are checked
before its instances, and the first instance has no name.

* `Instance.byName_eq_of_perm`: sorting by distinct names does not depend on the order before.
* `value_withEntities_congr`: the passes over the entities see the instances sorted.
* `value_validate_of_unnamed`: the verdict on a model whose first instance has no name is a matter
  of its settings.
* `instance_order_irrelevant`: documents that differ in the order of their instances have the same
  model, or are refused with the same fault.
-/

namespace CloudNet

/-! ## Sorting -/

namespace Instance

/-- **Sorting by distinct names forgets the order before.** -/
theorem byName_eq_of_perm {xs ys : List Instance} (hp : xs.Perm ys)
    (hnames : (xs.map name).Nodup) : byName xs = byName ys := by
  have hxs : (byName xs).Perm xs := List.mergeSort_perm xs _
  have hys : (byName ys).Perm ys := List.mergeSort_perm ys _
  refine List.Perm.eq_of_pairwise (fun a b ha hb hab hba => ?_) (pairwise_byName xs)
    (pairwise_byName ys) (hxs.trans (hp.trans hys.symm))
  have hname : a.name = b.name := le_antisymm hab hba
  exact List.inj_on_of_nodup_map hnames (hxs.mem_iff.mp ha)
    (hp.mem_iff.mpr (hys.mem_iff.mp hb)) hname

/-- Without interfaces there is nothing to number. -/
theorem numbered_of_no_interfaces {start : Nat} {xs : List (Instance × List Instance)}
    (h : ∀ p ∈ xs, p.2 = []) :
    numbered start xs = xs.map fun p => { p.1 with interfaces := [] } := by
  induction xs generalizing start with
  | nil => rfl
  | cons p xs ih =>
    rw [numbered, h p List.mem_cons_self, List.map_cons]
    exact congrArg _ (ih fun q hq => h q (List.mem_cons_of_mem p hq))

/-- **Only a primary interface is not named as it is declared**: it has the name of its owner. -/
theorem name_ofElement_eq (e : Element) (owner : String) :
    (ofElement e owner).value.name =
      if isInterfaceName e.entityName ∧ e.intAt (Route.child "deviceIndex") = 0 then owner
      else e.entityName := by
  unfold ofElement
  by_cases hinterface : isInterfaceName e.entityName = true
  · simp only [Noted.value_bind, Element.value_notedName, Noted.value_pure, hinterface, if_true,
      true_and]
    rfl
  · simp only [Noted.value_bind, Element.value_notedName, Noted.value_pure, hinterface, if_false,
      false_and, Bool.false_eq_true]

/-- An instance goes by its declared name unless that is the identifier of an interface. -/
theorem name_ofElement {e : Element} (h : isInterfaceName e.entityName = false) (owner : String) :
    (ofElement e owner).value.name = e.entityName := by
  rw [name_ofElement_eq, h, if_neg fun hprimary => Bool.false_ne_true hprimary.1]

/-- The instances of a section without interfaces, as they are read. -/
theorem numbered_listed_false (part : Option Element) :
    numbered 0 (listed false part) = (Element.entries part "instance").map fun e =>
      { (ofElement e "").value with interfaces := [] } := by
  have hnone : ∀ p ∈ listed false part, p.2 = [] := by
    intro p hp
    obtain ⟨e, -, rfl⟩ := List.mem_map.mp hp
    rfl
  rw [numbered_of_no_interfaces hnone]
  exact List.map_map

/-- Instances of distinct names are sorted alike in whatever order they are read. -/
theorem byName_listed_eq_of_perm {part part' : Option Element}
    (hp : (Element.entries part "instance").Perm (Element.entries part' "instance"))
    (hplain : ∀ e ∈ Element.entries part "instance", isInterfaceName e.entityName = false)
    (hnames : ((Element.entries part "instance").map Element.entityName).Nodup) :
    byName (numbered 0 (listed false part)) = byName (numbered 0 (listed false part')) := by
  rw [numbered_listed_false, numbered_listed_false]
  refine byName_eq_of_perm (hp.map _) ?_
  rw [List.map_map]
  have hread : (Element.entries part "instance").map Element.entityName =
      (Element.entries part "instance").map
        (name ∘ fun e => { (ofElement e "").value with interfaces := [] }) :=
    List.map_congr_left fun e he => (name_ofElement (hplain e he) "").symm
  rwa [← hread]

end Instance

/-! ## Instances without a name -/

/-- Checks after others are run if these pass. -/
theorem Check.value_run_append (before after : List Check) :
    (run (before ++ after)).value = (run before).value.bind fun () => (run after).value := by
  fun_induction run before with
  | case1 => rfl
  | case2 notice rest ih => exact ih
  | case3 fault notices rest ih => exact ih
  | case4 fault notices rest => rfl

namespace NetworkModel

/-- The checks of a model of a known mode begin with those of its settings, and those of its
instances come next. -/
theorem checks_eq_settingsOnly_append {m : NetworkModel} {mode : NetMode}
    (hmode : NetMode.validate m.mode = .ok mode) :
    m.checks = m.settingsOnly.checks ++ (m.instances.flatMap Instance.instanceChecks ++
      (m.interfaces.flatMap Instance.interfaceChecks ++ (m.secgroups.flatMap (·.checks m) ++
        if mode = .vpcMido then m.vpcs.flatMap Vpc.checks else []))) := by
  unfold checks
  rw [mode_settingsOnly, hmode]
  simp only [entityChecks_settingsOnly]
  simp only [entityChecks, List.append_assoc, List.cons_append]
  rfl

/-- **A model whose first instance has no name** is refused for that, unless its settings are the
reason. -/
theorem value_validate_of_unnamed {m : NetworkModel} {i : Instance} {rest : List Instance}
    (hi : m.instances = i :: rest) (hname : i.name = "") :
    m.validate.value = m.settingsOnly.validate.value.bind fun () =>
      .error (.invalid (.unnamed .machine)) := by
  unfold validate
  cases hmode : NetMode.validate m.mode with
  | error violation =>
    have hchecks : m.checks =
        [.require m.initialized .uninitialized, .require false violation] := by
      unfold checks
      rw [hmode]
    have hsettings : m.settingsOnly.checks = m.checks := by
      rw [hchecks]
      unfold checks
      rw [mode_settingsOnly, hmode]
      rfl
    rw [hsettings, hchecks]
    cases m.initialized <;> rfl
  | ok mode =>
    rw [checks_eq_settingsOnly_append hmode, Check.value_run_append, hi]
    congr 1
    funext _
    unfold Instance.instanceChecks Instance.memberChecks identityChecks
    rw [List.flatMap_cons, hname]
    rfl

end NetworkModel

/-- The first of names in order is the empty one if that is among them. -/
theorem eq_empty_of_pairwise {name : String} {names : List String}
    (h : (name :: names).Pairwise (· ≤ ·)) (hmem : "" ∈ name :: names) : name = "" := by
  rcases List.mem_cons.mp hmem with hempty | hlater
  · exact hempty.symm
  · have hle : name ≤ "" := (List.pairwise_cons.mp h).1 "" hlater
    by_contra hne
    obtain ⟨c, cs, hcs⟩ := List.exists_cons_of_ne_nil fun hnil => hne (String.toList_inj.mp hnil)
    have hlt : "" < name := by
      rw [String.lt_iff_toList_lt, hcs]
      exact List.nil_lt_cons c cs
    exact absurd hlt (not_lt.mpr hle)

/-! ## Documents that differ in the order of instances -/

namespace Document

/-- The mode that the configuration section of a document names; none is the empty name. -/
def mode (d : Document) : String :=
  (d.sections.configuration.bind (·.lastText? (Route.propertyValue "mode"))).getD ""

/-- The elements from which the instances of a document are read. -/
def instanceElements (d : Document) : List Element :=
  Element.entries d.sections.instances "instance"

/-- The document `d'` is `d` with what stands in a section of instances in another order. -/
inductive Reordered (d : Document) : Document → Prop
  | instances (before after : List Content) (e : Element) (content : List Content)
      (hname : e.name = "instances") (hroot : d.root.content = before ++ e.toContent :: after)
      (hperm : e.content.Perm content) :
      Reordered d (d.withContent (before ++ { e with content }.toContent :: after))

/-- The documents differ at most in the order in which they list their instances. -/
structure SameButOrder (d d' : Document) : Prop where
  root : d.root.name = d'.root.name
  declared : ∀ name, d.declared? name = d'.declared? name
  sections : d'.sections = { d.sections with instances := d'.sections.instances }
  instances : d.instanceElements.Perm d'.instanceElements

/-- The children that a route leads to are in the order of the content. -/
theorem perm_follow_child {e : Element} {content : List Content} (h : e.content.Perm content)
    (name : String) :
    (e.follow (Route.child name)).Perm ({ e with content }.follow (Route.child name)) := by
  have hchildren : e.children.Perm { e with content }.children := h.filterMap _
  unfold Route.child
  rw [Element.follow_singleton, Element.follow_singleton]
  exact hchildren.filter _

/-- Only the section of instances is another one. -/
theorem first?_replaced {name : String} {e e' : Element} (he : e.name ≠ name)
    (he' : e'.name ≠ name) (before after : List Content) :
    Content.first? name (before ++ e.toContent :: after) =
      Content.first? name (before ++ e'.toContent :: after) := by
  have hnone : ∀ x : Element, x.name ≠ name → Content.first? name [x.toContent] = none := by
    intro x hx
    rw [Content.first?_singleton_eq_none_iff]
    rintro _ ⟨⟩
    exact hx
  rw [Content.first?_append, Content.first?_append, Content.first?_cons name e.toContent,
    Content.first?_cons name e'.toContent, hnone e he, hnone e' he']

/-- The first section of instances is that of a name in front of it, or else this one. -/
theorem first?_instances {e : Element} (he : e.name = "instances") (before after : List Content) :
    Content.first? "instances" (before ++ e.toContent :: after) =
      (Content.first? "instances" before).or (some e) := by
  have hhere : Content.first? "instances" [e.toContent] = some e := by
    unfold Content.first?
    simp [he]
  rw [Content.first?_append, Content.first?_cons, hhere, Option.some_or]

/-- **Another order of what stands in a section of instances** is at most another order of the
instances that are listed. -/
theorem Reordered.sameButOrder {d d' : Document} (h : d.Reordered d') : d.SameButOrder d' := by
  obtain ⟨before, after, e, content, hname, hroot, hperm⟩ := h
  have hothers : ∀ name, name ≠ "instances" →
      Content.first? name (before ++ { e with content }.toContent :: after) =
        Content.first? name d.root.content := by
    intro name hne
    have he : e.name ≠ name := fun h => hne (h.symm.trans hname)
    rw [hroot]
    exact first?_replaced (e := { e with content }) he he before after
  refine ⟨rfl, fun name => (d.declared?_withContent _ name).symm, ?_, ?_⟩
  · have hfind : ∀ name, name ≠ "instances" →
        (d.withContent (before ++ { e with content }.toContent :: after)).root.children.find?
          (fun e => e.name = name) = d.root.children.find? (fun e => e.name = name) := hothers
    unfold sections
    simp only [hfind "configuration" (by decide), hfind "securityGroups" (by decide),
      hfind "vpcs" (by decide), hfind "internetGateways" (by decide),
      hfind "dhcpOptionSets" (by decide)]
  · show (Element.entries (Content.first? "instances" d.root.content) "instance").Perm
      (Element.entries (Content.first? "instances"
        (before ++ { e with content }.toContent :: after)) "instance")
    rw [hroot, first?_instances hname, first?_instances (e := { e with content }) hname]
    cases Content.first? "instances" before with
    | some found => exact List.Perm.refl _
    | none => exact perm_follow_child hperm "instance"

end Document

/-! ## Models of such documents -/

namespace NetworkModel

theorem isVpcMido_eq_false {m : NetworkModel} (h : m.mode ≠ NetMode.vpcMido.name) :
    m.isVpcMido = false := by
  rw [isVpcMido, beq_eq_false_iff_ne]
  intro hmode
  exact h (NetMode.name_of_ofName? hmode).symm

theorem mode_header (d : Document) : (header d).mode = d.mode := rfl

/-- All passes together, one after the other. -/
theorem value_assemble_eq (d : Document) (hostnames : HostnameCache) :
    (assemble d true hostnames).value =
      { (((header d).withEntities d.sections).value.configured
          d.sections.configuration).linked.value with hostnames } := by
  unfold assemble
  simp only [if_true, Noted.value_bind, Noted.value_pure]
  rfl

section SameButOrder

variable {d d' : Document} (h : d.SameButOrder d')

include h

theorem configuration_eq : d'.sections.configuration = d.sections.configuration := by
  rw [h.sections]

theorem header_eq : header d = header d' := by
  unfold header
  rw [configuration_eq h, withHeader_congr (h.declared _) (h.declared _)]

/-- The settings of the network do not depend on the order of the instances. -/
theorem settingsOnly_assemble_eq (hostnames : HostnameCache) :
    (assemble d true hostnames).value.settingsOnly =
      (assemble d' true hostnames).value.settingsOnly := by
  rw [settingsOnly_assemble, settingsOnly_assemble]
  show { ((header d).configured d.sections.configuration) with hostnames } =
    { ((header d').configured d'.sections.configuration) with hostnames }
  rw [configuration_eq h, header_eq h]

/-- **Instances of distinct names give one model** in whatever order they are listed. -/
theorem value_assemble_eq_of_nodup (hmode : d.mode ≠ NetMode.vpcMido.name)
    (hplain : ∀ e ∈ d.instanceElements, isInterfaceName e.entityName = false)
    (hnames : (d.instanceElements.map Element.entityName).Nodup) (hostnames : HostnameCache) :
    (assemble d true hostnames).value = (assemble d' true hostnames).value := by
  have hmido : (header d).isVpcMido = false := isVpcMido_eq_false (by rwa [mode_header])
  have hblank : (header d).Blank := blank_header d _
  have hsorted := Instance.byName_listed_eq_of_perm h.instances hplain hnames
  have hentities : ((header d).withEntities d'.sections).value =
      ((header d).withEntities d.sections).value := by
    rw [value_withEntities hblank, value_withEntities hblank, h.sections]
    simp only [hmido, hsorted, Instance.flatMap_snd_listed_false]
  rw [value_assemble_eq, value_assemble_eq, ← header_eq h, configuration_eq h, hentities]

end SameButOrder

/-- An instance without a name comes first. -/
theorem Assembled.exists_unnamed_first {s : Sections} {m : NetworkModel} (h : Assembled s m)
    {e : Element} (he : e ∈ Element.entries s.instances "instance") (hname : e.entityName = "") :
    ∃ i rest, m.instances = i :: rest ∧ i.name = "" := by
  have hread : (Instance.ofElement e "").value.name = "" := by
    rw [Instance.name_ofElement (by rw [hname]; decide), hname]
  have hmem : "" ∈ m.instances.map Instance.name :=
    h.perm_names.mem_iff.mpr (List.mem_map.mpr ⟨e, he, hread⟩)
  have hordered := h.searchable.ordered
  cases hi : m.instances with
  | nil => simp [hi] at hmem
  | cons i rest =>
    rw [hi] at hmem hordered
    exact ⟨i, rest, rfl, eq_empty_of_pairwise hordered hmem⟩

/-- The verdict on a document with an instance without a name is a matter of its settings. -/
theorem value_validate_assemble_of_unnamed {d : Document} {e : Element}
    (he : e ∈ d.instanceElements) (hname : e.entityName = "") (hostnames : HostnameCache) :
    (assemble d true hostnames).value.validate.value =
      (assemble d true hostnames).value.settingsOnly.validate.value.bind fun () =>
        .error (.invalid (.unnamed .machine)) := by
  obtain ⟨i, rest, hi, hempty⟩ := (assembled_assemble d hostnames).exists_unnamed_first he hname
  exact value_validate_of_unnamed hi hempty

end NetworkModel

/-- What is refused after all has no model. -/
theorem map_bind_error {α β ε : Type} (x : Except ε Unit) (fault : ε) (f : α → β) :
    (x.bind fun () => (.error fault : Except ε α)).map f = x.bind fun () => .error fault := by
  cases x <;> rfl

/-- Unless one of them is missing, the names of entities are those that are declared. -/
theorem Element.map_entityName {es : List Element} (h : "" ∉ es.map entityName) :
    es.map entityName = es.filterMap nameAttr? := by
  rw [← List.filterMap_eq_map]
  refine List.filterMap_congr fun e he => ?_
  cases hname : e.nameAttr? with
  | none => exact absurd (List.mem_map.mpr ⟨e, he, by rw [entityName, hname]; rfl⟩) h
  | some name => simp [entityName, hname]

namespace NetworkModel

/-- **The order of instances in a document is irrelevant** outside networks of tenant networks, if
those of their names that are there are distinct and none is the identifier of an interface: the
models are the same, or the documents are refused with the same fault. -/
theorem instance_order_irrelevant {d d' : Document} (h : d.Reordered d')
    (hmode : d.mode ≠ NetMode.vpcMido.name)
    (hplain : ∀ e ∈ d.instanceElements, isInterfaceName e.entityName = false)
    (hnames : (d.instanceElements.filterMap Element.nameAttr?).Nodup)
    (hostnames : HostnameCache) :
    (ofDocument d .all hostnames).value = (ofDocument d' .all hostnames).value := by
  have hsame := h.sameButOrder
  have hall : (Extent.all == Extent.all) = true := rfl
  rw [value_ofDocument (by decide), value_ofDocument (by decide), ← hsame.root, hall]
  split
  · by_cases hnone : "" ∈ d.instanceElements.map Element.entityName
    · -- both models are refused, and before their instances are looked at they are alike
      obtain ⟨e, he, hempty⟩ := List.mem_map.mp hnone
      have he' : e ∈ d'.instanceElements := hsame.instances.mem_iff.mp he
      rw [value_validate_assemble_of_unnamed he hempty,
        value_validate_assemble_of_unnamed he' hempty, settingsOnly_assemble_eq hsame,
        map_bind_error, map_bind_error]
    · have hdistinct : (d.instanceElements.map Element.entityName).Nodup := by
        rwa [Element.map_entityName hnone]
      rw [value_assemble_eq_of_nodup hsame hmode hplain hdistinct]
  · rfl

end NetworkModel

/-! ## Two instances in both orders -/

namespace Sample

/-- A network without tenant networks in which the given instances name a group. -/
def staffed (machines : List Content) : Document where
  root := ⟨"network-data", [{ name := "version", value := "7" }], [
    part "configuration" [
      setting "mode" "EDGE", setting "enabledCLCIp" "10.0.0.1",
      setting "instanceDNSDomain" "cloud.internal", setting "instanceDNSServers" "10.0.0.2"],
    part "instances" machines,
    part "securityGroups" [entity "securityGroup" "web" [field "ownerId" "account"]]]⟩

/-- Two instances that are not in order of name. -/
def lastFirst : List Content := [machine "i-b" "10.1.0.4" [], machine "i-a" "10.1.0.6" []]

/-- The model of the network with the two instances. -/
def staffedModel : NetworkModel where
  initialized := true
  mode := "EDGE"
  version := "7"
  controllerIp := 167772161
  dnsDomain := "cloud.internal"
  dnsServers := [167772162]
  instances := [
    { machineA with interfaces := [], secgroups := [0] },
    { machineB with interfaces := [], secgroups := [0] }]
  sortedInstances := true
  secgroups := [{ web with interfaces := [] }]

/-- **The build of the network succeeds.** -/
theorem ofDocument_staffed :
    (NetworkModel.ofDocument (staffed lastFirst) .all {}).value = .ok staffedModel := by
  have hread : NetworkModel.unsorted (staffed lastFirst) =
      [{ machineB with interfaces := [] }, { machineA with interfaces := [] }] := by
    decide +kernel
  have hsorted : Instance.byName (NetworkModel.unsorted (staffed lastFirst)) =
      [{ machineA with interfaces := [] }, { machineB with interfaces := [] }] := by
    have hle : ¬ machineB.name ≤ machineA.name := by decide
    rw [hread]
    simp [Instance.byName, List.mergeSort, List.MergeSort.Internal.splitInTwo, hle]
  exact NetworkModel.ofDocument_of_sorted rfl hsorted (by decide +kernel) (by decide +kernel)

end Sample

namespace NetworkModel

/-- The two instances give one model in both orders, with the same members of the group. -/
theorem order_of_two_instances :
    (Sample.staffed Sample.lastFirst).Reordered (Sample.staffed Sample.lastFirst.reverse) ∧
    (Sample.staffed Sample.lastFirst).mode = "EDGE" ∧
    (Sample.staffed Sample.lastFirst).instanceElements.map Element.entityName = ["i-b", "i-a"] ∧
    (ofDocument (Sample.staffed Sample.lastFirst) .all {}).value = .ok Sample.staffedModel ∧
    (ofDocument (Sample.staffed Sample.lastFirst.reverse) .all {}).value =
      .ok Sample.staffedModel := by
  have hreordered :
      (Sample.staffed Sample.lastFirst).Reordered (Sample.staffed Sample.lastFirst.reverse) :=
    .instances [_] [_] ⟨"instances", [], Sample.lastFirst⟩ Sample.lastFirst.reverse rfl rfl
      (List.reverse_perm _).symm
  have hmode : (Sample.staffed Sample.lastFirst).mode = "EDGE" := by decide +kernel
  have hsame := instance_order_irrelevant hreordered (by rw [hmode]; decide) (by decide +kernel)
    (by decide +kernel) {}
  exact ⟨hreordered, hmode, by decide +kernel, Sample.ofDocument_staffed,
    hsame ▸ Sample.ofDocument_staffed⟩

end NetworkModel

end CloudNet
