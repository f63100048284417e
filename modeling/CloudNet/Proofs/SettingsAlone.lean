import CloudNet.Change
import CloudNet.Proofs.Building

/-!
# The settings of a network alone

A build of a whole document and one of its configuration section alone run through the same passes,
except that the second one leaves out those over the entities and their links.
`NetworkModel.settingsOnly` forgets what the passes over the entities fill in. Each pass in common
commutes with it, each of the others is forgotten altogether, and so the second build gives what is
left of the first one's model.

* `settingsOnly_configured`: the pass over the settings, which also places instances on their nodes,
  fills in the same settings whether there are instances or not.
* `settingsOnly_assemble`: all passes together.
* `Valid.settingsOnly`: the check of a model asks nothing of its settings that depends on entities.
* `ofDocument_configOnly`: whenever the whole document can be used, so can its settings alone, and
  they are the same.
-/

namespace CloudNet

namespace NetworkModel

/-- The settings of the network, as in a model that holds no entities but its clusters. -/
def settingsOnly (m : NetworkModel) : NetworkModel :=
  { m with
    instances := []
    interfaces := []
    sortedInstances := false
    secgroups := []
    vpcs := []
    internetGateways := []
    dhcpOptionSets := [] }

variable (m : NetworkModel)

@[simp] theorem initialized_settingsOnly : m.settingsOnly.initialized = m.initialized := rfl

@[simp] theorem mode_settingsOnly : m.settingsOnly.mode = m.mode := rfl

@[simp] theorem isVpcMido_settingsOnly : m.settingsOnly.isVpcMido = m.isVpcMido := rfl

/-! ## The passes -/

theorem settingsOnly_withMido (e : Element) :
    (m.withMido e).value.settingsOnly = (m.settingsOnly.withMido e).value := by
  unfold withMido
  split <;> rfl

/-- It does not matter to the settings whether instances are placed. -/
theorem settingsOnly_withSettings (e : Element) (placed placed' : Bool) :
    (if placed then (m.withSettings e).value.placed else (m.withSettings e).value).settingsOnly =
      if placed' then (m.settingsOnly.withSettings e).value.placed
      else (m.settingsOnly.withSettings e).value := by
  simp only [placed_eq]
  cases placed <;> cases placed' <;> rfl

/-- The pass over the settings, which without a configuration section changes nothing. -/
def configured (part : Option Element) : NetworkModel :=
  (m.orKeep .configuration (m.withConfiguration part).value).value

/-- **The pass over the settings** fills in the same ones whether there are entities or not. -/
theorem settingsOnly_configured (part : Option Element) :
    (m.configured part).settingsOnly = m.settingsOnly.configured part := by
  unfold configured withConfiguration
  rw [initialized_settingsOnly]
  split
  · rfl
  · rfl
  · next e _ =>
    rw [isVpcMido_settingsOnly]
    split
    · refine ((m.withMido e).value.settingsOnly_withSettings e _
        (m.settingsOnly.withMido e).value.isVpcMido).trans ?_
      rw [settingsOnly_withMido]
      rfl
    · exact m.settingsOnly_withSettings e _ _

variable {m}

/-- The passes over the entities leave the settings of a model alone. -/
theorem settingsOnly_withEntities (hm : m.Blank) (s : Sections) :
    (m.withEntities s).value.settingsOnly = m.settingsOnly := by
  rw [value_withEntities hm]
  rfl

theorem settingsOnly_linked (m : NetworkModel) :
    m.linked.value.settingsOnly = m.settingsOnly := by
  rw [value_linked]
  rfl

/-- **All passes together**: of a whole model the settings are left. -/
theorem settingsOnly_assemble (d : Document) (hostnames : HostnameCache) :
    (assemble d true hostnames).value.settingsOnly = (assemble d false hostnames).value := by
  have hblank := blank_header d d.sections.configuration
  generalize hpart : d.sections.configuration = part at hblank
  generalize hheader : (empty.orKeep .header (empty.withHeader d part)).value = header at hblank
  have hpasses : ((header.withEntities d.sections).value.configured part).linked.value.settingsOnly
      = header.configured part := calc
    _ = ((header.withEntities d.sections).value.configured part).settingsOnly :=
        settingsOnly_linked _
    _ = (header.withEntities d.sections).value.settingsOnly.configured part :=
        settingsOnly_configured _ part
    _ = header.settingsOnly.configured part := by rw [settingsOnly_withEntities hblank]
    _ = header.configured part := by subst hheader; rfl
  subst hheader hpart
  exact congrArg (fun m : NetworkModel => { m with hostnames }) hpasses

/-! ## Checks -/

theorem entityChecks_settingsOnly (m : NetworkModel) (mode : NetMode) :
    m.settingsOnly.entityChecks mode = m.clusters.flatMap (·.checks mode) := by
  simp [entityChecks, settingsOnly]

/-- What is checked of the settings alone is checked of the whole model. -/
theorem checks_settingsOnly_subset (m : NetworkModel) : m.settingsOnly.checks ⊆ m.checks := by
  unfold checks
  refine List.cons_subset_cons _ ?_
  rw [mode_settingsOnly]
  cases NetMode.validate m.mode with
  | error violation => exact List.Subset.refl _
  | ok mode =>
    have hentities : m.settingsOnly.entityChecks mode ⊆ m.entityChecks mode := by
      intro c hc
      rw [entityChecks_settingsOnly] at hc
      simp only [entityChecks, List.mem_append]
      exact .inl (.inl (.inl (.inl hc)))
    exact List.append_subset.2
      ⟨List.subset_append_left _ _, List.Subset.trans hentities (List.subset_append_right _ _)⟩

/-- **The settings of a valid model are valid alone.** -/
theorem Valid.settingsOnly (h : m.Valid) : m.settingsOnly.Valid := by
  rw [validate_eq_ok_iff] at h ⊢
  exact fun c hc => h c (checks_settingsOnly_subset m hc)

end NetworkModel

/-! ## Changes -/

namespace ConfigChange

theorem onlyIf_bne_self {α : Type} [BEq α] [LawfulBEq α] (a : α) (part : ConfigChange) :
    onlyIf (a != a) part = none := by
  rw [bne_self_eq_false]
  rfl

/-- Nothing differs between a model and itself. -/
theorem between_self (m : NetworkModel) : between m m = none := by
  unfold between
  rw [bne_self_eq_false]
  simp only [onlyIf_bne_self]
  cases m.isVpcMido <;> rfl

/-- Entities do not count as settings of the whole network. -/
theorem between_settingsOnly (a b : NetworkModel) :
    between a b.settingsOnly = between a b := rfl

end ConfigChange

/-! ## Builds -/

namespace NetworkModel

/-- **The settings can be used alone** whenever the whole document can be used. They are those of
the whole model, which differs from them in its entities only. -/
theorem ofDocument_configOnly {d : Document} {hostnames : HostnameCache} {a : NetworkModel}
    (h : (ofDocument d .all hostnames).value = .ok a) :
    (ofDocument d .configOnly hostnames).value = .ok a.settingsOnly ∧
      a.settingsOnly.hostnames = hostnames ∧ ConfigChange.between a a.settingsOnly = .none := by
  obtain ⟨hroot, rfl, hvalid⟩ := (value_ofDocument_eq_ok_iff (by decide)).1 h
  refine ⟨?_, hostnames_assemble d true hostnames, ?_⟩
  · have hassembled := settingsOnly_assemble d hostnames
    exact (value_ofDocument_eq_ok_iff (by decide)).2 ⟨hroot, hassembled, hvalid.settingsOnly⟩
  · rw [ConfigChange.between_settingsOnly, ConfigChange.between_self]

/-- The settings of the small network, in which an instance is placed on a node. -/
theorem configOnly_network :
    (ofDocument Sample.network .all {}).value = .ok Sample.model ∧
    (ofDocument Sample.network .configOnly {}).value = .ok
      { initialized := true
        mode := "VPCMIDO"
        version := "7"
        controllerIp := 167772161
        dnsDomain := "cloud.internal"
        dnsServers := [167772162]
        clusters := [
          { name := "one", controllerIp := 167772163, macPrefix := "d0:0d"
            nodes := [{ name := "10.0.0.9", instanceNames := ["i-b"] }] }] } := by
  obtain ⟨hsettings, -, -⟩ := ofDocument_configOnly Sample.ofDocument_network
  exact ⟨Sample.ofDocument_network, hsettings⟩

end NetworkModel

end CloudNet
