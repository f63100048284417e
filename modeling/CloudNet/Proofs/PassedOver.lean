import CloudNet.Assembly.Populate

/-!
# Builds that go on

A step of a build may have a fault that ends it. No pass over a section has: what can go wrong in one
is that the model is not set up or has the section already, that a group has a member that is
missing, or that there is no configuration, and these faults are passed over. So a build comes to the
model that is assembled from its passes, and it can only fail at the root of the document or when
that model is checked.

* `Passable`: the faults of a step are passed over; `passable_withInstances` to
  `passable_withConfiguration`: those of all passes are.
* `populate_eq`: a build comes to the model that is assembled from its passes.
* `ofDocument_eq`: what there is to a build, if no pass can end it.
-/

namespace CloudNet.NetworkModel

/-! ## Steps that are passed over -/

/-- The model that a step made of `m`. Whatever its fault, a step that failed is noted and leaves `m`
as it was. -/
def orKeep (m : NetworkModel) (part : Section) : Except Fault NetworkModel → Noted NetworkModel
  | .ok next => return next
  | .error fault => do
    Noted.tell (.sectionFailed part fault)
    return m

/-- Fill in the sections about entities, with every fault passed over. -/
def withEntities (m : NetworkModel) (s : Sections) : Noted NetworkModel := do
  let m ← m.orKeep .instances (← m.withInstances s.instances)
  let m ← m.orKeep .secgroups (← m.withSecgroups s.securityGroups)
  let m ← m.orKeep .vpcs (← m.withVpcs s.vpcs)
  let m ← m.orKeep .internetGateways (m.withInternetGateways s.internetGateways)
  m.orKeep .dhcpOptionSets (m.withDhcpOptionSets s.dhcpOptionSets)

/-- The model of a document with the right root, with every fault passed over. -/
def assemble (d : Document) (withAll : Bool) (hostnames : HostnameCache) : Noted NetworkModel := do
  let s := d.sections
  let m ← empty.orKeep .header (empty.withHeader d s.configuration)
  let m ← if withAll then m.withEntities s else pure m
  let m ← m.orKeep .configuration (← m.withConfiguration s.configuration)
  let m ← if withAll then m.linked else pure m
  return { m with hostnames }

/-- If the step fails, the fault does not end the build. -/
def Passable (step : Noted (Except Fault NetworkModel)) : Prop :=
  ∀ fault, step.value = .error fault → fault.endsBuild = false

/-- A step whose faults are passed over always comes to a model. -/
theorem Passable.tolerate_eq {step : Noted (Except Fault NetworkModel)} (h : Passable step)
    (m : NetworkModel) (part : Section) :
    m.tolerate part step = monadLift (step >>= m.orKeep part) := by
  show m.tolerate part step = ExceptT.lift (step >>= m.orKeep part)
  obtain ⟨outcome, notices⟩ := step
  refine ExceptT.ext ?_
  cases outcome with
  | ok next => simp [tolerate, orKeep, Noted.ext_iff]
  | error fault =>
    have hgoesOn : fault.endsBuild = false := h fault rfl
    simp [tolerate, orKeep, hgoesOn, Noted.ext_iff]

/-! ## The passes -/

theorem endsBuild_of_fillable {m : NetworkModel} {part : Section} {isEmpty : Bool} {fault : Fault}
    (h : m.fillable part isEmpty = .error fault) : fault.endsBuild = false := by
  unfold fillable at h
  split at h
  · cases h
    rfl
  · split at h <;> cases h
    rfl

theorem passable_withHeader (m : NetworkModel) (d : Document) (part : Option Element) :
    Passable (pure (m.withHeader d part)) := by
  intro fault h
  rw [Noted.value_pure] at h
  unfold withHeader at h
  split at h <;> cases h
  rfl

theorem passable_withInstances (m : NetworkModel) (part : Option Element) :
    Passable (m.withInstances part) := by
  intro fault h
  unfold withInstances at h
  split at h
  · next hfill =>
    cases h
    exact endsBuild_of_fillable hfill
  · cases h
  · rw [Noted.value_bind] at h
    dsimp only at h
    split at h <;> cases h
    rfl

theorem passable_withSecgroups (m : NetworkModel) (part : Option Element) :
    Passable (m.withSecgroups part) := by
  intro fault h
  unfold withSecgroups at h
  split at h
  · next hfill =>
    cases h
    exact endsBuild_of_fillable hfill
  · cases h
  · cases h

theorem passable_withVpcs (m : NetworkModel) (part : Option Element) :
    Passable (m.withVpcs part) := by
  intro fault h
  unfold withVpcs at h
  split at h
  · next hfill =>
    cases h
    exact endsBuild_of_fillable hfill
  · cases h
  · cases h

theorem passable_withInternetGateways (m : NetworkModel) (part : Option Element) :
    Passable (pure (m.withInternetGateways part)) := by
  intro fault h
  rw [Noted.value_pure] at h
  unfold withInternetGateways at h
  cases hfill : m.fillable .internetGateways m.internetGateways.isEmpty with
  | error e =>
    rw [hfill] at h
    cases h
    exact endsBuild_of_fillable hfill
  | ok _ =>
    rw [hfill] at h
    cases part <;> cases h

theorem passable_withDhcpOptionSets (m : NetworkModel) (part : Option Element) :
    Passable (pure (m.withDhcpOptionSets part)) := by
  intro fault h
  rw [Noted.value_pure] at h
  unfold withDhcpOptionSets at h
  cases hfill : m.fillable .dhcpOptionSets m.dhcpOptionSets.isEmpty with
  | error e =>
    rw [hfill] at h
    cases h
    exact endsBuild_of_fillable hfill
  | ok _ =>
    rw [hfill] at h
    cases part <;> cases h

theorem passable_withConfiguration (m : NetworkModel) (part : Option Element) :
    Passable (m.withConfiguration part) := by
  intro fault h
  unfold withConfiguration at h
  split at h
  · cases h
    rfl
  · cases h
    rfl
  · dsimp only at h
    split at h <;> cases h

/-! ## Builds -/

theorem populateEntities_eq (m : NetworkModel) (s : Sections) :
    m.populateEntities s = monadLift (m.withEntities s) := by
  unfold populateEntities withEntities
  simp only [(passable_withInstances _ _).tolerate_eq, (passable_withSecgroups _ _).tolerate_eq,
    (passable_withVpcs _ _).tolerate_eq, (passable_withInternetGateways _ _).tolerate_eq,
    (passable_withDhcpOptionSets _ _).tolerate_eq, monadLift_bind, bind_assoc, pure_bind]

/-- **A build always comes to the model that is assembled from its passes**, with the notices of
all the faults that are passed over. -/
theorem populate_eq (d : Document) (withAll : Bool) (hostnames : HostnameCache) :
    populate d withAll hostnames = monadLift (assemble d withAll hostnames) := by
  unfold populate assemble
  cases withAll with
  | true =>
    simp only [if_true, populateEntities_eq, (passable_withHeader _ _ _).tolerate_eq,
      (passable_withConfiguration _ _).tolerate_eq, monadLift_bind, monadLift_pure, bind_assoc,
      pure_bind]
  | false =>
    simp only [if_false, Bool.false_eq_true, (passable_withHeader _ _ _).tolerate_eq,
      (passable_withConfiguration _ _).tolerate_eq, monadLift_bind, monadLift_pure, bind_assoc,
      pure_bind]

/-- **What there is to a build**: nothing, or the root, the model that is assembled, and the check of
that model. -/
theorem ofDocument_eq (d : Document) (extent : Extent) (hostnames : HostnameCache) :
    ofDocument d extent hostnames =
      if extent = .nothing then pure (.ok empty)
      else if d.root.name = rootName then do
        let m ← assemble d (extent == .all) hostnames
        return (← m.validate).map fun () => m
      else pure (.error (.input (.wrongRoot d.root.name))) := by
  unfold ofDocument
  split
  · rfl
  · next hne =>
    rw [if_neg hne, populate_eq]
    by_cases hroot : d.root.name = rootName
    · simp [hroot]
    · simp [hroot]

end CloudNet.NetworkModel
