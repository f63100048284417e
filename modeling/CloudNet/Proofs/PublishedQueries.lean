import CloudNet.Proofs.InstanceSearch
import CloudNet.Proofs.LastKnownGood
import CloudNet.Proofs.SettingsAlone

/-!
# Queries for instances of what is published

The searches for an instance and for its interfaces ask for one thing only: the mark that the
instances are known to be in order. A build of a whole document sets it, even where there are no
instances to sort, and a build of the settings alone does not. So the newest build decides whether
the published model answers.

* `answers_of_sorted`, `refuses_of_unsorted`: the mark decides, whatever the instances are.
* `searchedBy_of_ofDocument`: what a build of each extent leaves for the searches.
* `searchedBy_of_mem_replies`: so does each refresh of a sequence that publishes a model.
* `queries_by_extent`: what is published answers unless the newest build was of the settings alone.
* `settings_refuse_queries`: such a build, and the refusals after it.
-/

namespace CloudNet

namespace NetworkModel

variable {m : NetworkModel}

/-! ## The two searches -/

/-- The searches for the instance of a name and for its interfaces both answer. -/
structure Answers (m : NetworkModel) (name : String) : Prop where
  findInstance : ∃ found, m.findInstance name = .ok found
  secondaryInterfaces : ∃ found, m.secondaryInterfaces name = .ok found

/-- Both searches are refused, as if the instances were out of order. -/
structure Refuses (m : NetworkModel) (name : String) : Prop where
  findInstance : m.findInstance name = .error (.contract .unsorted)
  secondaryInterfaces : m.secondaryInterfaces name = .error (.contract .unsorted)

theorem answers_of_sorted (h : m.sortedInstances = true) (name : String) : m.Answers name := by
  -- the mark is all that is asked for: bisection ends whatever the order is
  have hfound : m.findInstance name =
      .ok (Bisection.search (fun i => compare i.name name) m.instances) := if_pos h
  refine ⟨⟨_, hfound⟩, ?_⟩
  unfold secondaryInterfaces
  rw [hfound]
  cases Bisection.search (fun i => compare i.name name) m.instances with
  | none => exact ⟨_, rfl⟩
  | some i => exact ⟨_, rfl⟩

theorem refuses_of_unsorted (h : m.sortedInstances = false) (name : String) : m.Refuses name := by
  have hrefused : m.findInstance name = .error (.contract .unsorted) :=
    if_neg (by rw [h]; exact Bool.false_ne_true)
  refine ⟨hrefused, ?_⟩
  unfold secondaryInterfaces
  rw [hrefused]
  rfl

/-! ## Builds -/

/-- What a build leaves for the searches. Instances that were read are in order; where none were
read there are none, and the mark is missing. -/
inductive SearchedBy (m : NetworkModel) : Extent → Prop
  | whole (h : m.Searchable) : SearchedBy m .all
  | settings (hnone : m.instances = []) (hmark : m.sortedInstances = false) :
      SearchedBy m .configOnly

/-- A build of the settings alone reads no instances. -/
theorem searchedBy_assemble_false (d : Document) (hostnames : HostnameCache) :
    (assemble d false hostnames).value.SearchedBy .configOnly := by
  rw [← settingsOnly_assemble]
  exact .settings rfl rfl

/-- **What a build of each extent leaves for the searches.** -/
theorem searchedBy_of_ofDocument {d : Document} {extent : Extent} {hostnames : HostnameCache}
    (he : extent ≠ .nothing) (h : (ofDocument d extent hostnames).value = .ok m) :
    m.SearchedBy extent := by
  cases extent with
  | all => exact .whole (assembled_of_ofDocument h).searchable
  | configOnly =>
    obtain ⟨-, rfl, -⟩ := (value_ofDocument_eq_ok_iff he).mp h
    exact searchedBy_assemble_false d hostnames
  | nothing => exact absurd rfl he

/-- What a build makes of the searches for a name: after one of a whole document both answer, and
after one of the settings alone both are refused, though there are no instances to be out of
order. -/
inductive QueriedBy (m : NetworkModel) (name : String) : Extent → Prop
  | whole (h : m.Answers name) : QueriedBy m name .all
  | settings (hnone : m.instances = []) (h : m.Refuses name) : QueriedBy m name .configOnly

theorem SearchedBy.queriedBy {extent : Extent} (h : m.SearchedBy extent) (name : String) :
    m.QueriedBy name extent := by
  cases h with
  | whole hsearch => exact .whole (answers_of_sorted hsearch.sortedInstances name)
  | settings hnone hmark => exact .settings hnone (refuses_of_unsorted hmark name)

end NetworkModel

namespace Slot

/-! ## Sequences of refreshes -/

/-- A refresh that publishes a model has built it. -/
theorem searchedBy_of_publishes {s : Slot} {r : Request} {m : NetworkModel}
    (h : (s.reply r).Publishes m) : m.SearchedBy r.extent := by
  obtain ⟨hextent, hanswer⟩ := h
  have hr := s.refreshed r
  change s.answer r = .ok m at hanswer
  rw [hanswer] at hr
  generalize s.after r = t at hr
  cases hr with
  | idle d htext hnothing => exact absurd hnothing hextent
  | published d _ htext hread hbuild => exact NetworkModel.searchedBy_of_ofDocument hread hbuild

/-- **So has each refresh of a sequence.** -/
theorem searchedBy_of_mem_replies {s : Slot} {rs : List Request} {reply : Reply}
    (hreply : reply ∈ s.replies rs) {m : NetworkModel} (h : reply.Publishes m) :
    reply.request ∈ rs ∧ m.SearchedBy reply.request.extent := by
  induction rs generalizing s with
  | nil => exact absurd hreply List.not_mem_nil
  | cons r rs ih =>
    rcases List.mem_cons.mp hreply with rfl | hlater
    · exact ⟨List.mem_cons_self, searchedBy_of_publishes h⟩
    · obtain ⟨hmem, hsearched⟩ := ih hlater
      exact ⟨List.mem_cons_of_mem r hmem, hsearched⟩

/-- **What is published answers all queries for instances** unless the newest build was of the
settings alone. Then it refuses them all. -/
theorem queries_by_extent (hostnames : HostnameCache) (rs : List Request) (name : String) :
    let s := (fresh hostnames).afterAll rs
    (∀ m, s.current = some m → ∃ earlier r later,
      (fresh hostnames).replies rs = earlier ++ r :: later ∧ r.Publishes m ∧
      (∀ r' ∈ later, ∀ m', ¬ r'.Publishes m') ∧ m.QueriedBy name r.request.extent) ∧
    ((∀ r ∈ rs, r.extent ≠ .configOnly) → ∀ m, s.current = some m → m.Answers name) := by
  intro s
  have hnewest : ∀ m, s.current = some m → ∃ earlier r later,
      (fresh hostnames).replies rs = earlier ++ r :: later ∧ r.Publishes m ∧
      (∀ r' ∈ later, ∀ m', ¬ r'.Publishes m') ∧
      r.request ∈ rs ∧ m.SearchedBy r.request.extent := by
    intro m hm
    have hreplies := newest_replies hostnames rs
    rw [hm] at hreplies
    obtain ⟨earlier, r, later, hsplit, hpublishes, hlater⟩ := hreplies
    have hmem : r ∈ (fresh hostnames).replies rs := by
      rw [hsplit]
      exact List.mem_append_right _ List.mem_cons_self
    exact ⟨earlier, r, later, hsplit, hpublishes, hlater,
      searchedBy_of_mem_replies hmem hpublishes⟩
  constructor
  · intro m hm
    obtain ⟨earlier, r, later, hsplit, hpublishes, hlater, -, hsearched⟩ := hnewest m hm
    exact ⟨earlier, r, later, hsplit, hpublishes, hlater, hsearched.queriedBy name⟩
  · intro hwhole m hm
    obtain ⟨-, r, -, -, -, -, hasked, hsearched⟩ := hnewest m hm
    have hextent := hwhole r.request hasked
    generalize r.request.extent = extent at hsearched hextent
    cases hsearched with
    | whole hsearch => exact NetworkModel.answers_of_sorted hsearch.sortedInstances name
    | settings hnone hmark => exact absurd rfl hextent

/-- **A build of the settings alone is refused all queries.** The network has an instance of the
name, and the model that is published has none, so the search for it would end at once. -/
theorem settings_refuse_queries :
    (({} : Slot).refreshFrom Sample.network .configOnly).value.2.current =
      some Sample.model.settingsOnly ∧
    Sample.model.settingsOnly.instances = [] ∧
    Sample.model.settingsOnly.findInstance "i-b" = .error (.contract .unsorted) ∧
    Sample.model.settingsOnly.secondaryInterfaces "i-b" = .error (.contract .unsorted) := by
  obtain ⟨hroot, hm, hvalid⟩ :=
    (NetworkModel.value_ofDocument_eq_ok_iff (by decide)).mp Sample.ofDocument_network
  have hsettings : Sample.model.settingsOnly =
      (NetworkModel.assemble Sample.network false {}).value := by
    rw [hm]
    exact NetworkModel.settingsOnly_assemble Sample.network {}
  have hbuild : (NetworkModel.ofDocument Sample.network .configOnly {}).value =
      .ok Sample.model.settingsOnly :=
    (NetworkModel.value_ofDocument_eq_ok_iff (by decide)).mpr
      ⟨hroot, hsettings, hvalid.settingsOnly⟩
  refine ⟨?_, rfl, rfl, rfl⟩
  unfold refreshFrom
  rw [if_neg (by decide), Noted.value_bind, hbuild]
  rfl

end Slot

end CloudNet
