import CloudNet.Proofs.LastKnownGood
import CloudNet.Proofs.PositionBounds
import CloudNet.Session

/-!
# Snapshots of sessions

A run either fails early, and then it prints and writes nothing, or it reports a model. `Prepared`
has every way to get there, so what a snapshot holds is read off from it: a model that was checked,
unless nothing is to be read at all. Then it is the model without entities, which no one checks.

* `Prepared.value_run`, `exists_prepared`: there is no other way to get there.
* `report_ofDirectory`: in a directory the snapshot of a run is the one that is written there.
* `snapshots_checked`: what the snapshots of all runs hold, and which runs write none.
* `unchecked_snapshot`: a run that reads nothing writes a model that would be refused.
-/

namespace CloudNet.Session

/-! ## Ways to a model -/

/-- The host lets a run start its log and tells it its settings and the text of its document. -/
structure Tells (h : Host) (settings : Settings) (text : String) : Prop where
  log : h.startLog = .ok ()
  environment : (Settings.ofEnvironment (environment h)).value = .ok settings
  file : readDocumentText (h.file? settings.documentPath) = .ok text

/-- The hostnames that a run is told. -/
def hostnames (settings : Settings) : HostnameCache :=
  (HostnameCache.ofPairs settings.hostnames).value

/-- The ways in which a run gets to a model for its settings, or to a fault. -/
inductive Prepared (h : Host) : Except Fault (Settings × NetworkModel) → Prop
  | unlogged (fault : Fault) (hlog : h.startLog = .error fault) : Prepared h (.error fault)
  | badSettings (fault : Fault) (hlog : h.startLog = .ok ())
      (hsettings : (Settings.ofEnvironment (environment h)).value = .error fault) :
      Prepared h (.error fault)
  | unreadable (settings : Settings) (fault : Fault) (hlog : h.startLog = .ok ())
      (hsettings : (Settings.ofEnvironment (environment h)).value = .ok settings)
      (htext : readDocumentText (h.file? settings.documentPath) = .error fault) :
      Prepared h (.error fault)
  | malformed (settings : Settings) (text : String) (fault : Fault) (htold : Tells h settings text)
      (hread : Document.ofXml {} text = .error fault) : Prepared h (.error fault)
  | wrongRoot (settings : Settings) (text : String) (d : Document) (htold : Tells h settings text)
      (hread : Document.ofXml {} text = .ok d) (hextent : settings.extent ≠ .nothing)
      (hroot : d.root.name ≠ rootName) : Prepared h (.error (.input (.wrongRoot d.root.name)))
  | invalid (settings : Settings) (text : String) (d : Document) (fault : Fault)
      (htold : Tells h settings text) (hread : Document.ofXml {} text = .ok d)
      (hextent : settings.extent ≠ .nothing) (hroot : d.root.name = rootName)
      (hcheck : (NetworkModel.assemble d (settings.extent == .all)
        (hostnames settings)).value.validate.value = .error fault) : Prepared h (.error fault)
  | idle (settings : Settings) (text : String) (d : Document) (htold : Tells h settings text)
      (hread : Document.ofXml {} text = .ok d) (hextent : settings.extent = .nothing) :
      Prepared h (.ok (settings, NetworkModel.empty))
  | built (settings : Settings) (text : String) (d : Document) (m : NetworkModel)
      (htold : Tells h settings text) (hread : Document.ofXml {} text = .ok d)
      (hextent : settings.extent ≠ .nothing)
      (hbuild : (NetworkModel.ofDocument d settings.extent (hostnames settings)).value = .ok m) :
      Prepared h (.ok (settings, m))

/-- What a run leaves behind that got there. -/
def outcome (h : Host) : Except Fault (Settings × NetworkModel) → Outcome
  | .error fault => { fault := some fault }
  | .ok (settings, m) => report h settings m

/-! ## Runs -/

theorem value_model (settings : Settings) (text : String) :
    (model settings text).value =
      (Slot.fresh (hostnames settings)).answer ⟨{}, text, settings.extent⟩ := rfl

theorem value_input_of_settings {h : Host} {settings : Settings}
    (hsettings : (Settings.ofEnvironment (environment h)).value = .ok settings) :
    (input h).value =
      (readDocumentText (h.file? settings.documentPath)).map (settings, ·) := by
  unfold input
  rw [Noted.value_bind, hsettings]
  rfl

/-- A run that is told nothing it can use leaves nothing behind. -/
theorem value_run_of_input_error {h : Host} {fault : Fault} (hlog : h.startLog = .ok ())
    (hinput : (input h).value = .error fault) : (run h).value = { fault := some fault } := by
  unfold run
  rw [hlog]
  dsimp only
  rw [Noted.value_bind, hinput]
  rfl

/-- What a run does with what it is told. -/
theorem value_run_of_tells {h : Host} {settings : Settings} {text : String}
    (htold : Tells h settings text) :
    (run h).value = outcome h ((model settings text).value.map (settings, ·)) := by
  have hinput : (input h).value = .ok (settings, text) := by
    rw [value_input_of_settings htold.environment, htold.file]
    rfl
  unfold run
  rw [htold.log]
  dsimp only
  rw [Noted.value_bind, hinput]
  dsimp only
  rw [Noted.value_bind]
  cases (model settings text).value with
  | error fault => rfl
  | ok m => rfl

/-- The answer to a run's only refresh. -/
theorem value_model_of_read {settings : Settings} {text : String} {d : Document}
    (hread : Document.ofXml {} text = .ok d) : (model settings text).value =
      if settings.extent = .nothing then .ok NetworkModel.empty
      else (NetworkModel.ofDocument d settings.extent (hostnames settings)).value := by
  have hhostnames : (Slot.fresh (hostnames settings)).hostnames = hostnames settings := rfl
  rw [value_model]
  unfold Slot.answer Slot.refresh
  rw [hread]
  dsimp only
  unfold Slot.refreshFrom
  split
  · rfl
  · rw [Noted.value_bind, hhostnames]
    cases (NetworkModel.ofDocument d settings.extent (hostnames settings)).value with
    | error fault => rfl
    | ok m => rfl

/-- **What a run leaves behind** is a matter of how it got there. -/
theorem Prepared.value_run {h : Host} {p : Except Fault (Settings × NetworkModel)}
    (hp : Prepared h p) : (run h).value = outcome h p := by
  cases hp with
  | unlogged fault hlog =>
    unfold run
    rw [hlog]
    rfl
  | badSettings fault hlog hsettings =>
    refine value_run_of_input_error hlog ?_
    unfold input
    rw [Noted.value_bind, hsettings]
    rfl
  | unreadable settings fault hlog hsettings htext =>
    refine value_run_of_input_error hlog ?_
    rw [value_input_of_settings hsettings, htext]
    rfl
  | malformed settings text fault htold hread =>
    have hmodel : (model settings text).value = .error fault := by
      rw [value_model]
      unfold Slot.answer Slot.refresh
      rw [hread]
      rfl
    rw [value_run_of_tells htold, hmodel]
    rfl
  | wrongRoot settings text d htold hread hextent hroot =>
    rw [value_run_of_tells htold, value_model_of_read hread, if_neg hextent,
      NetworkModel.value_ofDocument hextent, if_neg hroot]
    rfl
  | invalid settings text d fault htold hread hextent hroot hcheck =>
    rw [value_run_of_tells htold, value_model_of_read hread, if_neg hextent,
      NetworkModel.value_ofDocument hextent, if_pos hroot, hcheck]
    rfl
  | idle settings text d htold hread hextent =>
    rw [value_run_of_tells htold, value_model_of_read hread, if_pos hextent]
    rfl
  | built settings text d m htold hread hextent hbuild =>
    rw [value_run_of_tells htold, value_model_of_read hread, if_neg hextent, hbuild]
    rfl

/-- A run that is told its document gets to a model, or to a fault of the document. -/
theorem exists_prepared_of_tells {h : Host} {settings : Settings} {text : String}
    (htold : Tells h settings text) : ∃ p, Prepared h p := by
  cases hread : Document.ofXml {} text with
  | error fault => exact ⟨_, .malformed settings text fault htold hread⟩
  | ok d =>
    by_cases hextent : settings.extent = .nothing
    · exact ⟨_, .idle settings text d htold hread hextent⟩
    · by_cases hroot : d.root.name = rootName
      · cases hcheck : (NetworkModel.assemble d (settings.extent == .all)
            (hostnames settings)).value.validate.value with
        | error fault =>
          exact ⟨_, .invalid settings text d fault htold hread hextent hroot hcheck⟩
        | ok u =>
          have hbuild : (NetworkModel.ofDocument d settings.extent (hostnames settings)).value =
              .ok (NetworkModel.assemble d (settings.extent == .all)
                (hostnames settings)).value := by
            rw [NetworkModel.value_ofDocument hextent, if_pos hroot, hcheck]
            rfl
          exact ⟨_, .built settings text d _ htold hread hextent hbuild⟩
      · exact ⟨_, .wrongRoot settings text d htold hread hextent hroot⟩

/-- **Every run gets there in one of these ways.** -/
theorem exists_prepared (h : Host) : ∃ p, Prepared h p := by
  cases hlog : h.startLog with
  | error fault => exact ⟨_, .unlogged fault hlog⟩
  | ok _ =>
    cases hsettings : (Settings.ofEnvironment (environment h)).value with
    | error fault => exact ⟨_, .badSettings fault hlog hsettings⟩
    | ok settings =>
      cases htext : readDocumentText (h.file? settings.documentPath) with
      | error fault => exact ⟨_, .unreadable settings fault hlog hsettings htext⟩
      | ok text => exact exists_prepared_of_tells ⟨hlog, hsettings, htext⟩

/-! ## Snapshots -/

/-- What a run whose snapshot holds the text knows of the model in it. -/
structure Wrote (h : Host) (file text : String) (settings : Settings) (m : NetworkModel) :
    Prop where
  prepared : Prepared h (.ok (settings, m))
  wanted : ∃ directory, settings.snapshotDirectory = some directory ∧
    file = Directory.join directory h.today.snapshotName
  written : h.write file = .ok ()
  text_eq : text = m.toSnapshot
  reads : NetworkModel.ofSnapshot text = .ok m
  valid : settings.extent ≠ .nothing → m.Valid
  empty : settings.extent = .nothing → m = NetworkModel.empty

/-- The model of a run that gets there can be read from its snapshot. -/
theorem Prepared.ofSnapshot_toSnapshot {h : Host} {settings : Settings} {m : NetworkModel}
    (hp : Prepared h (.ok (settings, m))) : NetworkModel.ofSnapshot m.toSnapshot = .ok m := by
  cases hp with
  | idle _ text d htold hread hextent =>
    exact NetworkModel.ofSnapshot_toSnapshot fun n hn => absurd hn List.not_mem_nil
  | built _ text d _ htold hread hextent hbuild =>
    exact NetworkModel.ofSnapshot_toSnapshot_of_ofXml (by decide) hread hbuild

/-- It was checked, unless nothing was to be read. -/
theorem Prepared.checked {h : Host} {settings : Settings} {m : NetworkModel}
    (hp : Prepared h (.ok (settings, m))) :
    (settings.extent ≠ .nothing → m.Valid) ∧
      (settings.extent = .nothing → m = NetworkModel.empty) := by
  cases hp with
  | idle _ text d htold hread hextent => exact ⟨fun hne => absurd hextent hne, fun _ => rfl⟩
  | built _ text d _ htold hread hextent hbuild =>
    obtain ⟨-, -, hvalid⟩ := (NetworkModel.value_ofDocument_eq_ok_iff hextent).mp hbuild
    exact ⟨fun _ => hvalid, fun hnothing => absurd hnothing hextent⟩

/-- What a report writes. -/
theorem snapshot_report_eq_some_iff {h : Host} {settings : Settings} {m : NetworkModel}
    {file text : String} : (report h settings m).snapshot = some (file, text) ↔
      (∃ directory, settings.snapshotDirectory = some directory ∧
        file = Directory.join directory h.today.snapshotName) ∧
      h.write file = .ok () ∧ text = m.toSnapshot := by
  unfold report
  cases settings.snapshotDirectory with
  | none => simp
  | some directory =>
    dsimp only
    cases hwritten : h.write (Directory.join directory h.today.snapshotName) with
    | ok _ =>
      simp only [Option.some.injEq, Prod.mk.injEq, exists_eq_left']
      constructor
      · rintro ⟨rfl, rfl⟩
        exact ⟨rfl, hwritten, rfl⟩
      · rintro ⟨rfl, -, rfl⟩
        exact ⟨rfl, rfl⟩
    | error fault =>
      simp only [Option.some.injEq, reduceCtorEq, exists_eq_left', false_iff]
      rintro ⟨rfl, hok, -⟩
      rw [hwritten] at hok
      cases hok

/-- A report that fails writes nothing. -/
theorem snapshot_report_of_fault {h : Host} {settings : Settings} {m : NetworkModel} {fault : Fault}
    (hfault : (report h settings m).fault = some fault) :
    (report h settings m).snapshot = none := by
  unfold report at hfault ⊢
  cases hwanted : settings.snapshotDirectory with
  | none => rfl
  | some directory =>
    rw [hwanted] at hfault
    dsimp only at hfault ⊢
    split at hfault
    · cases hfault
    · rfl

/-- **In a directory the snapshot of a run is the one that is written there**, and it fails as that
does. -/
theorem report_ofDirectory (d : Directory) (env : Environment) (today : Day) (settings : Settings)
    (m : NetworkModel) {directory : String} (h : settings.snapshotDirectory = some directory) :
    (report (.ofDirectory d env today) settings m).snapshot =
        ((d.writeSnapshot directory today m).toOption.map fun written =>
          (written.1, m.toSnapshot)) ∧
      ∀ fault, d.writeSnapshot directory today m = .error fault ↔
        (report (.ofDirectory d env today) settings m).fault = some fault := by
  unfold report Host.ofDirectory Directory.writeSnapshot Directory.write
  rw [h]
  dsimp only
  cases d.filePlace (Directory.join directory today.snapshotName) with
  | ok place => simp [Except.map, Except.toOption]
  | error e => simp [Except.map, Except.toOption]

/-- **Only checked models are written**, unless nothing is to be read: then it is the model without
entities. -/
theorem snapshots_checked (h : Host) :
    (∀ file text, (run h).value.snapshot = some (file, text) →
      ∃ settings m, Wrote h file text settings m) ∧
    (∀ fault, Prepared h (.error fault) → (run h).value = { fault := some fault }) ∧
    ∀ fault, (run h).value.fault = some fault → (run h).value.snapshot = none := by
  refine ⟨?_, fun fault hp => hp.value_run, ?_⟩
  · intro file text hsnapshot
    obtain ⟨p, hp⟩ := exists_prepared h
    rw [hp.value_run] at hsnapshot
    cases p with
    | error fault => cases hsnapshot
    | ok reported =>
      obtain ⟨settings, m⟩ := reported
      obtain ⟨hwanted, hwritten, rfl⟩ := snapshot_report_eq_some_iff.mp hsnapshot
      obtain ⟨hvalid, hempty⟩ := hp.checked
      exact ⟨settings, m, hp, hwanted, hwritten, rfl, hp.ofSnapshot_toSnapshot, hvalid, hempty⟩
  · intro fault hfault
    obtain ⟨p, hp⟩ := exists_prepared h
    rw [hp.value_run] at hfault ⊢
    cases p with
    | error fault => rfl
    | ok reported => exact snapshot_report_of_fault hfault

end CloudNet.Session

namespace CloudNet

namespace Sample

/-- A host that wants a snapshot, but nothing of its document read. -/
def idleHost : Session.Host :=
  .ofDirectory { files := [(["empty.xml"], "<x/>".toUTF8)], directories := [["snap"]] }
    [("GNI_XML_PATH", "empty.xml"), ("GNI_POPULATE_MODE", "NONE"), ("GNI_SNAPSHOT_DIR", "snap")]
    ⟨2024, 2, 29⟩

/-- What the host tells a run. -/
def idleSettings : Settings where
  documentPath := "empty.xml"
  extent := .nothing
  snapshotDirectory := some "snap"

theorem tells_idleHost : Session.Tells idleHost idleSettings "<x/>" where
  log := rfl
  environment := by cbv
  file := by
    show readDocumentText (some "<x/>".toUTF8) = _
    unfold readDocumentText
    rw [Option.bind_some, fromUTF8?_toUTF8]

end Sample

namespace Session

/-- **A run that reads nothing writes a model that would be refused**: the one without entities has
no mode. -/
theorem unchecked_snapshot :
    (run Sample.idleHost).value.snapshot =
      some ("snap/gni_model_2024-02-29.json", NetworkModel.empty.toSnapshot) ∧
    NetworkModel.ofSnapshot NetworkModel.empty.toSnapshot = .ok NetworkModel.empty ∧
    ¬ NetworkModel.empty.Valid := by
  have hsome : (Xml.document? {} "<x/>".toList).isSome = true := by decide +kernel
  obtain ⟨d, hd⟩ := Option.isSome_iff_exists.mp hsome
  have hread : Document.ofXml {} "<x/>" = .ok d := by
    unfold Document.ofXml
    rw [hd]
  have hp : Prepared Sample.idleHost (.ok (Sample.idleSettings, NetworkModel.empty)) :=
    .idle _ _ d Sample.tells_idleHost hread rfl
  refine ⟨?_, hp.ofSnapshot_toSnapshot, ?_⟩
  · rw [hp.value_run]
    exact snapshot_report_eq_some_iff.mpr
      ⟨⟨"snap", rfl, by decide +kernel⟩, by decide +kernel, rfl⟩
  · rw [NetworkModel.validate_eq_ok_iff]
    decide

end Session

end CloudNet
