import CloudNet.Proofs.SettingsAlone

/-!
# Sections that fail

A section that cannot be used is noted and left out of the model, and the passes go on with what
there is. The only section this happens to is the configuration, when it is missing. Then the model
has no mode, which the check of the model finds: a build that succeeds has left nothing out, and is
the same as one that stops at the first section that fails.

* `failedSections_assemble`: which sections are left out.
* `settles_assemble`: what assembling up to the first failure gives, if there is none.
* `success_leaves_nothing_out`: a build that succeeds leaves no section out.
* `bogus_without_mode`: a document with another root is rejected before any section is read.
-/

namespace CloudNet

/-! ## Sections that are left out -/

/-- The section that a notice says is left out, if it is such a notice. -/
def Notice.failedSection? : Notice → Option Section
  | sectionFailed part _ => some part
  | _ => none

namespace Noted

variable {α β : Type}

/-- The sections that are left out on the way to a value. -/
def failedSections (x : Noted α) : List Section := x.notices.filterMap Notice.failedSection?

@[simp] theorem failedSections_pure (a : α) : (pure a : Noted α).failedSections = [] := rfl

@[simp] theorem failedSections_bind (x : Noted α) (f : α → Noted β) :
    (x >>= f).failedSections = x.failedSections ++ (f x.value).failedSections :=
  List.filterMap_append

@[simp] theorem failedSections_map (f : α → β) (x : Noted α) :
    (f <$> x).failedSections = x.failedSections :=
  (failedSections_bind x fun a => pure (f a)).trans (List.append_nil _)

@[simp] theorem failedSections_tell (n : Notice) :
    (tell n).failedSections = n.failedSection?.toList := by
  cases h : n.failedSection? with
  | none => exact List.filterMap_cons_none h
  | some part => exact List.filterMap_cons_some h

@[simp] theorem failedSections_tellIf (condition : Bool) (n : Notice) :
    (tellIf condition n).failedSections = if condition then n.failedSection?.toList else [] := by
  cases condition with
  | true => exact failedSections_tell n
  | false => rfl

theorem failedSections_mapList {f : α → Noted β} (hf : ∀ a, (f a).failedSections = [])
    (xs : List α) : (mapList f xs).failedSections = [] := by
  unfold failedSections
  rw [notices_mapList, List.filterMap_flatMap, List.flatMap_eq_nil_iff]
  exact fun a _ => hf a

end Noted

/-! ## Passes that leave nothing out -/

theorem Range.failedSection?_expandEntry {entry : String} {n : Notice}
    (h : expandEntry entry = .error n) : n.failedSection? = none := by
  unfold expandEntry at h
  split at h
  · cases h
    rfl
  · dsimp only at h
    split at h
    · cases h
      rfl
    · cases h

@[simp] theorem Range.failedSections_expand (entries : List String) :
    (expand entries).failedSections = [] := by
  unfold Noted.failedSections expand
  rw [List.filterMap_filterMap, List.filterMap_map, List.filterMap_eq_nil_iff]
  intro entry _
  rw [Function.comp_apply]
  cases h : expandEntry entry with
  | ok addresses => rfl
  | error n => exact failedSection?_expandEntry h

namespace Element

variable (e : Element)

@[simp] theorem failedSections_rangesAt (route : Route) :
    (e.rangesAt route).failedSections = [] := by
  simp [rangesAt, Notice.failedSection?]

@[simp] theorem failedSections_addressName (kind : String) :
    (e.addressName kind).failedSections = [] := by
  simp [addressName, notedName, Notice.failedSection?]

@[simp] theorem failedSections_macAt (name : String) (route : Route) :
    (e.macAt name route).failedSections = [] := by
  unfold macAt
  split
  · rfl
  · split <;> rfl

end Element

@[simp] theorem Subnet.failedSections_ofElement (e : Element) :
    (ofElement e).failedSections = [] := by
  simp [ofElement]

@[simp] theorem ManagedSubnet.failedSections_ofElement (e : Element) :
    (ofElement e).failedSections = [] := by
  simp [ofElement]

@[simp] theorem Cluster.failedSections_ofElement (e : Element) :
    (ofElement e).failedSections = [] := by
  unfold ofElement Element.notedName
  split <;> simp [Notice.failedSection?]

@[simp] theorem failedSections_gatewayEntries (mido : Element) :
    (gatewayEntries mido).failedSections = [] := by
  simp [gatewayEntries, Notice.failedSection?]

@[simp] theorem Instance.failedSections_ofElement (e : Element) (owner : String) :
    (ofElement e owner).failedSections = [] := by
  simp [ofElement, Element.notedName, Notice.failedSection?]

@[simp] theorem Instance.failedSections_ofElementWithInterfaces (withInterfaces : Bool)
    (e : Element) : (ofElementWithInterfaces withInterfaces e).failedSections = [] := by
  simp [ofElementWithInterfaces, Noted.failedSections_mapList]

@[simp] theorem LegacyRule.failedSections_convertNoted (s : String) :
    (convertNoted s).failedSections = [] := by
  unfold convertNoted
  split <;> rfl

@[simp] theorem Rule.failedSections_ofElement (e : Element) :
    (ofElement e).failedSections = [] := by
  unfold ofElement
  split
  · rfl
  · dsimp only
    split <;> rfl

@[simp] theorem SecurityGroup.failedSections_ofElement (e : Element) :
    (ofElement e).failedSections = [] := by
  simp [ofElement, Noted.failedSections_mapList]

@[simp] theorem VpcSubnet.failedSections_ofElement (tables : List RouteTable) (e : Element) :
    (ofElement tables e).failedSections = [] := by
  unfold ofElement
  dsimp only
  split
  · rfl
  · simp [Notice.failedSection?]

@[simp] theorem Vpc.failedSections_ofElement (e : Element) : (ofElement e).failedSections = [] := by
  simp [ofElement, Noted.failedSections_mapList]

namespace NetworkModel

variable (m : NetworkModel)

@[simp] theorem failedSections_withInstances (part : Option Element) :
    (m.withInstances part).failedSections = [] := by
  unfold withInstances
  split
  · rfl
  · rfl
  · dsimp only
    rw [Noted.failedSections_bind, Noted.failedSections_mapList (by simp)]
    split <;> rfl

@[simp] theorem failedSections_withSecgroups (part : Option Element) :
    (m.withSecgroups part).failedSections = [] := by
  unfold withSecgroups
  split
  · rfl
  · rfl
  · simp [Noted.failedSections_mapList]

@[simp] theorem failedSections_withVpcs (part : Option Element) :
    (m.withVpcs part).failedSections = [] := by
  unfold withVpcs
  split
  · rfl
  · rfl
  · simp [Noted.failedSections_mapList]

@[simp] theorem failedSections_withMido (e : Element) : (m.withMido e).failedSections = [] := by
  unfold withMido
  split
  · simp
  · rfl

@[simp] theorem failedSections_withSettings (e : Element) :
    (m.withSettings e).failedSections = [] := by
  simp [withSettings, Noted.failedSections_mapList]

@[simp] theorem failedSections_withConfiguration (part : Option Element) :
    (m.withConfiguration part).failedSections = [] := by
  unfold withConfiguration
  split
  · rfl
  · rfl
  · split <;> simp

@[simp] theorem failedSections_linked : m.linked.failedSections = [] := by
  simp [linked, linkVpc, linkSubnet, Noted.failedSections_mapList, Notice.failedSection?]

end NetworkModel

/-! ## Checks -/

namespace Check

/-- No notice of the check says that a section is left out. -/
def quiet : Check → Bool
  | remark n => n.failedSection?.isNone
  | demand _ _ notices => notices.all (·.failedSection?.isNone)

theorem failedSections_run {checks : List Check} (h : checks.all quiet = true) :
    (run checks).failedSections = [] := by
  rw [List.all_eq_true] at h
  fun_induction run checks with
  | case1 => rfl
  | case2 n rest ih =>
    have hn : n.failedSection? = none := Option.isNone_iff_eq_none.mp (h _ List.mem_cons_self)
    rw [Noted.failedSections_bind, Noted.failedSections_tell, hn]
    exact ih fun c hc => h c (List.mem_cons_of_mem _ hc)
  | case3 fault notices rest ih => exact ih fun c hc => h c (List.mem_cons_of_mem _ hc)
  | case4 fault notices rest =>
    have hnotices : notices.all (·.failedSection?.isNone) = true := h _ List.mem_cons_self
    rw [List.all_eq_true] at hnotices
    exact List.filterMap_eq_nil_iff.mpr fun n hn => Option.isNone_iff_eq_none.mp (hnotices n hn)

@[simp] theorem quiet_require (holds : Bool) (v : Violation) : (require holds v).quiet = true := rfl

@[simp] theorem quiet_lengthAtMost (field s : String) (limit : Nat) :
    (lengthAtMost field s limit).quiet = true := rfl

theorem quiet_noting {n : Notice} (hn : n.failedSection? = none) (c : Check) :
    (noting n c).quiet = c.quiet := by
  cases c with
  | remark earlier => rfl
  | demand holds fault notices => simp [noting, quiet, hn]

@[simp] theorem all_quiet_noneWhere {α : Type} (bad : α → Bool) (xs : List α)
    (v : Nat → Violation) : (noneWhere bad xs v).all quiet = true := by
  unfold noneWhere
  split <;> rfl

@[simp] theorem all_quiet_remarkIf (condition : Bool) (n : Notice) :
    (remarkIf condition n).all quiet = (!condition || n.failedSection?.isNone) := by
  cases condition <;> simp [remarkIf, quiet]

end Check

/-! ### The checks of a model -/

@[simp] theorem all_quiet_identityChecks (kind : EntityKind) (name accountId : String) :
    (identityChecks kind name accountId).all Check.quiet = true := rfl

@[simp] theorem Subnet.all_quiet_checks (s : Subnet) : s.checks.all Check.quiet = true := by
  unfold checks
  split <;> rfl

@[simp] theorem Cluster.all_quiet_checks (c : Cluster) (mode : NetMode) :
    (c.checks mode).all Check.quiet = true := by
  cases mode <;> simp [checks, edgeChecks, Node.checks, Notice.failedSection?]

@[simp] theorem Instance.all_quiet_memberChecks (i : Instance) (kind : EntityKind) :
    (i.memberChecks kind).all Check.quiet = true := by
  simp [memberChecks, Notice.failedSection?]

@[simp] theorem SecurityGroup.all_quiet_checks (g : SecurityGroup) (m : NetworkModel) :
    (g.checks m).all Check.quiet = true := by
  simp [checks]

@[simp] theorem Vpc.all_quiet_checks (v : Vpc) : v.checks.all Check.quiet = true := by
  simp [checks, VpcSubnet.checks, NatGateway.checks, RouteTable.checks, RouteEntry.checks,
    NetworkAcl.checks, AclEntry.checks, Notice.failedSection?]

namespace NetworkModel

variable (m : NetworkModel)

@[simp] theorem all_quiet_managedChecks : m.managedChecks.all Check.quiet = true := by
  unfold managedChecks
  cases m.managedSubnets <;> rfl

@[simp] theorem all_quiet_edgeChecks : m.edgeChecks.all Check.quiet = true := by
  rw [edgeChecks, List.all_flatMap, List.all_eq_true]
  rintro ⟨s, i⟩ -
  simp only [List.all_map, Function.comp_def, Check.quiet_noting (n := .invalidSubnet i) rfl]
  exact s.all_quiet_checks

@[simp] theorem all_quiet_modeChecks (mode : NetMode) :
    (m.modeChecks mode).all Check.quiet = true := by
  cases mode <;> simp [modeChecks, midoChecks]

@[simp] theorem all_quiet_entityChecks (mode : NetMode) :
    (m.entityChecks mode).all Check.quiet = true := by
  cases mode <;> simp [entityChecks, Instance.instanceChecks, Instance.interfaceChecks]

theorem all_quiet_checks : m.checks.all Check.quiet = true := by
  unfold checks
  split
  · rfl
  · simp [settingChecks]

end NetworkModel

/-! ## Builds that stop at the first failure -/

/-- The value is reached, and no section is left out on the way. -/
structure Noted.Settles {α : Type} (x : Noted α) (a : α) : Prop where
  value : x.value = a
  failedSections : x.failedSections = []

namespace Noted.Settles

variable {α β : Type}

/-- What is left out is left out after the value is reached. -/
theorem failedSections_bind {x : Noted α} {a : α} (hx : x.Settles a) (f : α → Noted β) :
    (x >>= f).failedSections = (f a).failedSections := by
  rw [Noted.failedSections_bind, hx.failedSections, hx.value, List.nil_append]

theorem bind {x : Noted α} {f : α → Noted β} {a : α} {b : β} (hx : x.Settles a)
    (hf : (f a).Settles b) : (x >>= f).Settles b := by
  refine ⟨?_, (hx.failedSections_bind f).trans hf.failedSections⟩
  rw [value_bind, hx.value, hf.value]

end Noted.Settles

namespace Except

variable {ε α β : Type} {x : Except ε α} {f : α → Except ε β}

theorem bind_eq_ok {b : β} : (x >>= f) = .ok b ↔ ∃ a, x = .ok a ∧ f a = .ok b := by
  cases x <;> simp [Bind.bind, Except.bind]

theorem exists_bind_eq_ok {a : α} (hx : x = .ok a) (hf : ∃ b, f a = .ok b) :
    ∃ b, (x >>= f) = .ok b := by
  subst hx
  exact hf

end Except

namespace NetworkModel

variable {m next : NetworkModel}

/-- A section that does not fail is not left out. -/
theorem settles_orKeep {part : Section} {outcome : Except Fault NetworkModel}
    (h : outcome = .ok next) : (m.orKeep part outcome).Settles next := by
  subst h
  exact ⟨rfl, rfl⟩

/-- A section that fails is left out. -/
@[simp] theorem failedSections_orKeep_error (part : Section) (fault : Fault) :
    (m.orKeep part (.error fault)).failedSections = [part] := rfl

/-- Fill in the sections about entities, up to the first that fails. -/
def fillStrictly (m : NetworkModel) (s : Sections) : Except Fault NetworkModel := do
  let m ← (m.withInstances s.instances).value
  let m ← (m.withSecgroups s.securityGroups).value
  let m ← (m.withVpcs s.vpcs).value
  let m ← m.withInternetGateways s.internetGateways
  m.withDhcpOptionSets s.dhcpOptionSets

/-- The model of a document with the right root, unless one of its sections fails. -/
def assembleStrictly (d : Document) (withAll : Bool) (hostnames : HostnameCache) :
    Except Fault NetworkModel := do
  let s := d.sections
  let m ← empty.withHeader d s.configuration
  let m ← (if withAll then m.fillStrictly s else .ok m)
  let m ← (m.withConfiguration s.configuration).value
  return { (if withAll then m.linked.value else m) with hostnames }

theorem settles_withEntities {s : Sections} (h : m.fillStrictly s = .ok next) :
    (m.withEntities s).Settles next := by
  obtain ⟨m₁, h₁, h⟩ := Except.bind_eq_ok.mp h
  obtain ⟨m₂, h₂, h⟩ := Except.bind_eq_ok.mp h
  obtain ⟨m₃, h₃, h⟩ := Except.bind_eq_ok.mp h
  obtain ⟨m₄, h₄, h⟩ := Except.bind_eq_ok.mp h
  refine .bind ⟨h₁, by simp⟩ (.bind (settles_orKeep rfl) ?_)
  refine .bind ⟨h₂, by simp⟩ (.bind (settles_orKeep rfl) ?_)
  refine .bind ⟨h₃, by simp⟩ (.bind (settles_orKeep rfl) ?_)
  exact .bind (settles_orKeep h₄) (settles_orKeep h)

/-- **A build that stops at the first failure** gives the model of one that does not, which leaves
nothing out then. -/
theorem settles_assemble {d : Document} {withAll : Bool} {hostnames : HostnameCache}
    (h : assembleStrictly d withAll hostnames = .ok next) :
    (assemble d withAll hostnames).Settles next := by
  obtain ⟨header, hheader, h⟩ := Except.bind_eq_ok.mp h
  obtain ⟨filled, hfilled, h⟩ := Except.bind_eq_ok.mp h
  obtain ⟨configured, hconfigured, h⟩ := Except.bind_eq_ok.mp h
  cases h
  refine .bind (settles_orKeep hheader) ?_
  cases withAll with
  | true =>
    refine .bind (settles_withEntities hfilled) ?_
    refine .bind ⟨hconfigured, by simp⟩ (.bind (settles_orKeep rfl) ?_)
    exact .bind ⟨rfl, by simp⟩ ⟨rfl, rfl⟩
  | false =>
    cases hfilled
    refine .bind ⟨rfl, rfl⟩ ?_
    refine .bind ⟨hconfigured, by simp⟩ (.bind (settles_orKeep rfl) ?_)
    exact .bind ⟨rfl, rfl⟩ ⟨rfl, rfl⟩

/-! ## What fails -/

/-- No section about entities fails. -/
theorem exists_fillStrictly (hm : m.Blank) (s : Sections) :
    ∃ next, m.fillStrictly s = .ok next := by
  have hnone : m.isVpcMido = false →
      (Instance.listed m.isVpcMido s.instances).flatMap Prod.snd = [] := fun h => by
    rw [h, Instance.flatMap_snd_listed_false]
  have hinstances := value_withInstances s.instances hm.initialized hm.instances hm.interfaces
    hm.secgroups
  refine Except.exists_bind_eq_ok hinstances ?_
  refine Except.exists_bind_eq_ok (value_withSecgroups _ hm.initialized hm.secgroups hnone) ?_
  refine Except.exists_bind_eq_ok (value_withVpcs _ hm.initialized hm.vpcs) ?_
  refine Except.exists_bind_eq_ok
    (withInternetGateways_eq_ok _ hm.initialized hm.internetGateways) ?_
  exact ⟨_, withDhcpOptionSets_eq_ok _ hm.initialized hm.dhcpOptionSets⟩

theorem withConfiguration_none (hm : m.initialized = true) :
    m.withConfiguration none = pure (.error .noConfiguration) := by
  unfold withConfiguration
  rw [hm]

/-- The configuration does not fail if it is there. -/
theorem exists_withConfiguration (hm : m.initialized = true) (e : Element) :
    ∃ next, (m.withConfiguration (some e)).value = .ok next := by
  unfold withConfiguration
  rw [hm]
  dsimp only
  split <;> exact ⟨_, rfl⟩

/-- The header of a document does not fail, and neither does a section about entities. -/
theorem exists_settled (d : Document) (withAll : Bool) :
    ∃ header filled, empty.withHeader d d.sections.configuration = .ok header ∧
      (if withAll then header.fillStrictly d.sections else .ok header) = .ok filled ∧
      (if withAll then header.withEntities d.sections else pure header).Settles filled ∧
      filled.initialized = true := by
  have hblank := blank_header d d.sections.configuration
  cases withAll with
  | false => exact ⟨_, _, rfl, rfl, ⟨rfl, rfl⟩, rfl⟩
  | true =>
    obtain ⟨filled, hfilled⟩ := exists_fillStrictly hblank d.sections
    have hsettles := settles_withEntities hfilled
    refine ⟨_, filled, rfl, hfilled, hsettles, ?_⟩
    rw [← hsettles.value, value_withEntities hblank]
    rfl

theorem exists_assembleStrictly {d : Document} {e : Element} (h : d.sections.configuration = some e)
    (withAll : Bool) (hostnames : HostnameCache) :
    ∃ next, assembleStrictly d withAll hostnames = .ok next := by
  obtain ⟨header, filled, hheader, hfilled, -, hinit⟩ := exists_settled d withAll
  obtain ⟨configured, hconfigured⟩ := exists_withConfiguration hinit e
  rw [← h] at hconfigured
  refine Except.exists_bind_eq_ok hheader (Except.exists_bind_eq_ok hfilled ?_)
  exact Except.exists_bind_eq_ok hconfigured ⟨_, rfl⟩

/-- **Which sections are left out**: the configuration, if it is missing, and no other. -/
theorem failedSections_assemble (d : Document) (withAll : Bool) (hostnames : HostnameCache) :
    (assemble d withAll hostnames).failedSections =
      if d.sections.configuration.isNone then [.configuration] else [] := by
  cases hpart : d.sections.configuration with
  | some e =>
    obtain ⟨next, hnext⟩ := exists_assembleStrictly hpart withAll hostnames
    exact (settles_assemble hnext).failedSections
  | none =>
    obtain ⟨header, filled, hheader, -, hsettles, hinit⟩ := exists_settled d withAll
    rw [hpart] at hheader
    unfold assemble
    simp only [hpart]
    rw [(settles_orKeep hheader).failedSections_bind]
    cases withAll with
    | true =>
      simp only [if_true] at hsettles ⊢
      rw [hsettles.failedSections_bind]
      simp [withConfiguration_none hinit]
    | false =>
      simp only [Bool.false_eq_true, if_false] at hsettles ⊢
      rw [hsettles.failedSections_bind]
      simp [withConfiguration_none hinit]

/-- Without a configuration section a model is set up and has no mode. -/
theorem settings_assemble_of_none {d : Document} (h : d.sections.configuration = none)
    (withAll : Bool) (hostnames : HostnameCache) :
    (assemble d withAll hostnames).value.initialized = true ∧
      (assemble d withAll hostnames).value.mode = "" := by
  have hsettings : (assemble d false hostnames).value.initialized = true ∧
      (assemble d false hostnames).value.mode = "" := by
    unfold assemble
    simp only [h]
    exact ⟨rfl, rfl⟩
  cases withAll with
  | false => exact hsettings
  | true =>
    rw [← initialized_settingsOnly, ← mode_settingsOnly, settingsOnly_assemble]
    exact hsettings

/-- A model without a mode is rejected for that. -/
theorem value_validate_of_no_mode (hm : m.initialized = true) (hmode : m.mode = "") :
    m.validate.value = .error (.invalid .noMode) := by
  unfold validate checks
  rw [hm, hmode]
  rfl

/-- The check of a model leaves nothing out. -/
@[simp] theorem failedSections_validate (m : NetworkModel) : m.validate.failedSections = [] :=
  Check.failedSections_run m.all_quiet_checks

/-- A build leaves out what the passes over its sections leave out. -/
theorem failedSections_ofDocument {d : Document} (hroot : d.root.name = rootName) {extent : Extent}
    (he : extent ≠ .nothing) (hostnames : HostnameCache) :
    (ofDocument d extent hostnames).failedSections =
      (assemble d (extent == .all) hostnames).failedSections := by
  rw [ofDocument_eq, if_neg he, if_pos hroot]
  simp

/-- **A build that succeeds leaves no section out**, and gives the model of a build that stops at
the first section that fails. Without a configuration section a build fails, since the model has no
mode, unless it fails since the root of the document is another one. -/
theorem success_leaves_nothing_out {extent : Extent} (he : extent ≠ .nothing) (d : Document)
    (hostnames : HostnameCache) :
    (∀ m, (ofDocument d extent hostnames).value = .ok m →
      assembleStrictly d (extent == .all) hostnames = .ok m ∧
        (ofDocument d extent hostnames).failedSections = []) ∧
    (d.root.name = rootName → d.sections.configuration = none →
      (ofDocument d extent hostnames).value = .error (.invalid .noMode)) ∧
    (d.root.name ≠ rootName →
      (ofDocument d extent hostnames).value = .error (.input (.wrongRoot d.root.name))) := by
  have hnone : d.root.name = rootName → d.sections.configuration = none →
      (ofDocument d extent hostnames).value = .error (.invalid .noMode) := by
    intro hroot hpart
    obtain ⟨hinit, hmode⟩ := settings_assemble_of_none hpart (extent == .all) hostnames
    rw [value_ofDocument he, if_pos hroot, value_validate_of_no_mode hinit hmode]
    rfl
  refine ⟨?_, hnone, ?_⟩
  · intro m hm
    obtain ⟨hroot, rfl, -⟩ := (value_ofDocument_eq_ok_iff he).mp hm
    cases hpart : d.sections.configuration with
    | none => exact absurd (hm.symm.trans (hnone hroot hpart)) (by simp)
    | some e =>
      obtain ⟨next, hnext⟩ := exists_assembleStrictly hpart (extent == .all) hostnames
      constructor
      · rw [(settles_assemble hnext).value]
        exact hnext
      · rw [failedSections_ofDocument hroot he, failedSections_assemble, hpart]
        rfl
  · intro hroot
    rw [value_ofDocument he, if_neg hroot]

end NetworkModel

/-- A document whose root has a name and nothing else. -/
def Sample.empty (name : String) : Document where
  root := ⟨name, [], []⟩

namespace NetworkModel

/-- The build of the small network leaves nothing out, and without its sections it fails. -/
theorem nothing_left_out_of_network :
    (ofDocument Sample.network .all {}).value = .ok Sample.model ∧
    assembleStrictly Sample.network true {} = .ok Sample.model ∧
    (ofDocument Sample.network .all {}).failedSections = [] ∧
    (ofDocument (Sample.empty rootName) .configOnly {}).value = .error (.invalid .noMode) := by
  have hall : Extent.all ≠ .nothing := by decide
  have hconfigOnly : Extent.configOnly ≠ .nothing := by decide
  obtain ⟨hkept, -, -⟩ := success_leaves_nothing_out hall Sample.network {}
  obtain ⟨hstrictly, hfailed⟩ := hkept _ Sample.ofDocument_network
  obtain ⟨-, hnone, -⟩ := success_leaves_nothing_out hconfigOnly (Sample.empty rootName) {}
  exact ⟨Sample.ofDocument_network, hstrictly, hfailed, hnone rfl rfl⟩

/-- A document with another root, and so without a configuration section, is not rejected for what
its model would be. -/
theorem bogus_without_mode :
    (Sample.empty "bogus").sections.configuration = none ∧
    (ofDocument (Sample.empty "bogus") .all {}).value = .error (.input (.wrongRoot "bogus")) ∧
    ∀ violation, (ofDocument (Sample.empty "bogus") .all {}).value ≠
      .error (.invalid violation) := by
  have hvalue : (ofDocument (Sample.empty "bogus") .all {}).value =
      .error (.input (.wrongRoot "bogus")) := rfl
  refine ⟨rfl, hvalue, fun violation h => ?_⟩
  exact absurd (hvalue.symm.trans h) (by simp)

end NetworkModel

end CloudNet
