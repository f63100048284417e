import CloudNet.Proofs.Building
import CloudNet.Slot
import Mathlib.Data.List.Induction

/-!
# The last known good model

A slot serves one refresh after the other. `Refreshed` has every way in which a refresh can end; all
that follows about sequences of them is read off from it.

* `refreshed`: there is no other way for a refresh to end.
* `newest_replies`: after any refreshes, what is published is the newest model that was answered
  with something read.
* `Sound.afterAll`: whatever is published breaks no rule and carries the hostnames of the slot.
* `last_known_good`: both together, and what refreshes that publish nothing answer and leave.
-/

namespace CloudNet

namespace Slot

/-- A refresh that is asked for: a text, how it is to be read, and how much of it. -/
structure Request where
  settings : Xml.Settings
  text : String
  extent : Extent

/-- What a refresh answers. -/
def answer (s : Slot) (r : Request) : Except Fault NetworkModel :=
  (s.refresh r.settings r.text r.extent).value.1

/-- The slot after a refresh. -/
def after (s : Slot) (r : Request) : Slot := (s.refresh r.settings r.text r.extent).value.2

/-- A slot that nothing was published to. -/
def fresh (hostnames : HostnameCache) : Slot := { hostnames }

/-! ## One refresh -/

/-- **The ways in which a refresh can end**, with the answer and the slot afterwards. -/
inductive Refreshed (s : Slot) (r : Request) : Except Fault NetworkModel → Slot → Prop
  | malformed (fault : Fault) (htext : Document.ofXml r.settings r.text = .error fault) :
      Refreshed s r (.error fault) s
  | idle (d : Document) (htext : Document.ofXml r.settings r.text = .ok d)
      (hextent : r.extent = .nothing) : Refreshed s r (.ok (s.current.getD NetworkModel.empty)) s
  | rejected (d : Document) (fault : Fault) (htext : Document.ofXml r.settings r.text = .ok d)
      (hextent : r.extent ≠ .nothing)
      (hbuild : (NetworkModel.ofDocument d r.extent s.hostnames).value = .error fault) :
      Refreshed s r (.error fault) s
  | published (d : Document) (m : NetworkModel) (htext : Document.ofXml r.settings r.text = .ok d)
      (hextent : r.extent ≠ .nothing)
      (hbuild : (NetworkModel.ofDocument d r.extent s.hostnames).value = .ok m) :
      Refreshed s r (.ok m) { s with current := some m }

/-- Every refresh ends in one of these ways. -/
theorem refreshed (s : Slot) (r : Request) : Refreshed s r (s.answer r) (s.after r) := by
  unfold answer after refresh
  cases htext : Document.ofXml r.settings r.text with
  | error fault => exact .malformed fault htext
  | ok d =>
    unfold refreshFrom
    by_cases hextent : r.extent = .nothing
    · simp only [hextent, if_true]
      exact .idle d htext hextent
    · simp only [hextent, if_false, Noted.value_bind]
      cases hbuild : (NetworkModel.ofDocument d r.extent s.hostnames).value with
      | error fault => exact .rejected d fault htext hextent hbuild
      | ok m => exact .published d m htext hextent hbuild

/-- A refresh leaves the slot as it was, or it publishes a model that was built. -/
theorem after_cases (s : Slot) (r : Request) :
    s.after r = s ∨ ∃ d m, r.extent ≠ .nothing ∧
      (NetworkModel.ofDocument d r.extent s.hostnames).value = .ok m ∧
      s.after r = { s with current := some m } := by
  have hr := s.refreshed r
  generalize s.answer r = a at hr
  generalize s.after r = t at hr ⊢
  cases hr with
  | malformed fault htext => exact .inl rfl
  | idle d htext hextent => exact .inl rfl
  | rejected d fault htext hextent hbuild => exact .inl rfl
  | published d m htext hextent hbuild => exact .inr ⟨d, m, hextent, hbuild, rfl⟩

theorem hostnames_after (s : Slot) (r : Request) : (s.after r).hostnames = s.hostnames := by
  obtain hkept | ⟨d, m, -, -, hpublished⟩ := s.after_cases r
  · rw [hkept]
  · rw [hpublished]

/-! ## What is published -/

/-- A request that was served, and the answer. -/
structure Reply where
  request : Request
  answer : Except Fault NetworkModel

/-- The reply publishes the model: something was to be read, and reading it succeeded. -/
def Reply.Publishes (r : Reply) (m : NetworkModel) : Prop :=
  r.request.extent ≠ .nothing ∧ r.answer = .ok m

/-- The reply to a request. -/
def reply (s : Slot) (r : Request) : Reply := ⟨r, s.answer r⟩

/-- What a refresh publishes is published afterwards. -/
theorem current_after_of_publishes {s : Slot} {r : Request} {m : NetworkModel}
    (h : (s.reply r).Publishes m) : (s.after r).current = some m := by
  obtain ⟨hextent, hanswer⟩ := h
  have hr := s.refreshed r
  change s.answer r = .ok m at hanswer
  rw [hanswer] at hr
  generalize s.after r = t at hr
  cases hr with
  | idle d htext hnothing => exact absurd hnothing hextent
  | published d htext hextent hbuild => rfl

/-- **A refresh that publishes nothing leaves the slot as it was.** -/
theorem after_of_not_publishes {s : Slot} {r : Request}
    (h : ∀ m, ¬ (s.reply r).Publishes m) : s.after r = s := by
  have hr := s.refreshed r
  generalize ha : s.answer r = a at hr
  generalize s.after r = t at hr ⊢
  cases hr with
  | malformed fault htext => rfl
  | idle d htext hextent => rfl
  | rejected d fault htext hextent hbuild => rfl
  | published d m htext hextent hbuild => exact absurd ⟨hextent, ha⟩ (h m)

/-! ## Sequences of refreshes -/

/-- The slot after a sequence of refreshes. -/
def afterAll (s : Slot) (rs : List Request) : Slot := rs.foldl after s

/-- The replies to a sequence of refreshes. -/
def replies (s : Slot) : List Request → List Reply
  | [] => []
  | r :: rs => s.reply r :: (s.after r).replies rs

theorem afterAll_concat (s : Slot) (rs : List Request) (r : Request) :
    s.afterAll (rs ++ [r]) = (s.afterAll rs).after r := by
  unfold afterAll
  rw [List.foldl_append]
  rfl

theorem replies_concat (s : Slot) (rs : List Request) (r : Request) :
    s.replies (rs ++ [r]) = s.replies rs ++ [(s.afterAll rs).reply r] := by
  induction rs generalizing s with
  | nil => rfl
  | cons r' rs ih =>
    show s.reply r' :: (s.after r').replies (rs ++ [r]) = _
    rw [ih]
    rfl

/-- What is answered first does not depend on what is asked later. -/
theorem replies_take (s : Slot) (rs : List Request) (n : Nat) :
    s.replies (rs.take n) = (s.replies rs).take n := by
  induction rs generalizing s n with
  | nil => rw [List.take_nil, replies, List.take_nil]
  | cons r rs ih =>
    cases n with
    | zero => rfl
    | succ n =>
      rw [List.take_succ_cons, replies, ih, replies, List.take_succ_cons]

theorem hostnames_afterAll (s : Slot) (rs : List Request) :
    (s.afterAll rs).hostnames = s.hostnames := by
  induction rs using List.reverseRecOn with
  | nil => rfl
  | append_singleton rs r ih => rw [afterAll_concat, hostnames_after, ih]

/-- The newest of the models that the replies publish, if they publish any. -/
def Newest (replies : List Reply) : Option NetworkModel → Prop
  | none => ∀ r ∈ replies, ∀ m, ¬ r.Publishes m
  | some m => ∃ earlier r later, replies = earlier ++ r :: later ∧ r.Publishes m ∧
      ∀ r' ∈ later, ∀ m', ¬ r'.Publishes m'

theorem newest_concat_of_publishes {replies : List Reply} {r : Reply} {m : NetworkModel}
    (h : r.Publishes m) : Newest (replies ++ [r]) (some m) :=
  ⟨replies, r, [], rfl, h, fun _ hr => absurd hr List.not_mem_nil⟩

theorem Newest.concat {replies : List Reply} {current : Option NetworkModel}
    (h : Newest replies current) {r : Reply} (hr : ∀ m, ¬ r.Publishes m) :
    Newest (replies ++ [r]) current := by
  cases current with
  | none =>
    intro r' hr'
    rcases List.mem_append.mp hr' with hr' | hr'
    · exact h r' hr'
    · rw [List.mem_singleton.mp hr']
      exact hr
  | some m =>
    obtain ⟨earlier, r', later, rfl, hpub, hlater⟩ := h
    refine ⟨earlier, r', later ++ [r], ?_, hpub, fun r'' hr'' => ?_⟩
    · rw [List.append_assoc, List.cons_append]
    · rcases List.mem_append.mp hr'' with hr'' | hr''
      · exact hlater r'' hr''
      · rw [List.mem_singleton.mp hr'']
        exact hr

theorem Reply.Publishes.unique {r : Reply} {m m' : NetworkModel} (h : r.Publishes m)
    (h' : r.Publishes m') : m = m' :=
  Except.ok.inj (h.2.symm.trans h'.2)

/-- The newest of the models is determined by the replies. -/
theorem Newest.unique {replies : List Reply} {c c' : Option NetworkModel}
    (h : Newest replies c) (h' : Newest replies c') : c = c' := by
  cases c with
  | none =>
    cases c' with
    | none => rfl
    | some m' =>
      obtain ⟨earlier, r, later, rfl, hpub, -⟩ := h'
      exact absurd hpub (h r (List.mem_append_right _ List.mem_cons_self) m')
  | some m =>
    obtain ⟨earlier, r, later, rfl, hpub, hlater⟩ := h
    cases c' with
    | none => exact absurd hpub (h' r (List.mem_append_right _ List.mem_cons_self) m)
    | some m' =>
      obtain ⟨earlier', r', later', hsplit, hpub', hlater'⟩ := h'
      -- the later one of two replies that publish would stand behind the newest
      rcases List.append_eq_append_iff.mp hsplit with ⟨between, rfl, hrest⟩ | ⟨between, rfl, hrest⟩
      · cases between with
        | nil =>
          obtain ⟨rfl, -⟩ := List.cons.inj hrest
          rw [hpub.unique hpub']
        | cons r'' between =>
          obtain ⟨rfl, rfl⟩ := List.cons.inj hrest
          exact absurd hpub' (hlater r' (List.mem_append_right _ List.mem_cons_self) m')
      · cases between with
        | nil =>
          obtain ⟨rfl, -⟩ := List.cons.inj hrest
          rw [hpub.unique hpub']
        | cons r'' between =>
          obtain ⟨rfl, rfl⟩ := List.cons.inj hrest
          exact absurd hpub (hlater' r (List.mem_append_right _ List.mem_cons_self) m)

/-- **What is published is the newest model that was answered.** -/
theorem newest_replies (hostnames : HostnameCache) (rs : List Request) :
    Newest ((fresh hostnames).replies rs) ((fresh hostnames).afterAll rs).current := by
  induction rs using List.reverseRecOn with
  | nil => exact fun _ hr => absurd hr List.not_mem_nil
  | append_singleton rs r ih =>
    rw [afterAll_concat, replies_concat]
    by_cases hp : ∃ m, (((fresh hostnames).afterAll rs).reply r).Publishes m
    · obtain ⟨m, hm⟩ := hp
      rw [current_after_of_publishes hm]
      exact newest_concat_of_publishes hm
    · have hnone : ∀ m, ¬ (((fresh hostnames).afterAll rs).reply r).Publishes m :=
        fun m hm => hp ⟨m, hm⟩
      rw [after_of_not_publishes hnone]
      exact ih.concat hnone

/-! ## Soundness -/

/-- What the slot shows breaks no rule and carries the slot's hostnames. -/
def Sound (s : Slot) : Prop := ∀ m, s.current = some m → m.Valid ∧ m.hostnames = s.hostnames

theorem sound_fresh (hostnames : HostnameCache) : (fresh hostnames).Sound :=
  fun _ h => absurd h (by simp [fresh])

/-- One refresh keeps a slot sound. -/
theorem Sound.after {s : Slot} (h : s.Sound) (r : Request) : (s.after r).Sound := by
  obtain hkept | ⟨d, m, hextent, hbuild, hpublished⟩ := s.after_cases r
  · rw [hkept]
    exact h
  · rw [hpublished]
    intro m' hm'
    obtain rfl := Option.some.inj hm'
    obtain ⟨-, rfl, hvalid⟩ := (NetworkModel.value_ofDocument_eq_ok_iff hextent).mp hbuild
    exact ⟨hvalid, NetworkModel.hostnames_assemble d _ s.hostnames⟩

/-- **Refreshes keep a slot sound.** -/
theorem Sound.afterAll {s : Slot} (h : s.Sound) (rs : List Request) : (s.afterAll rs).Sound := by
  induction rs using List.reverseRecOn with
  | nil => exact h
  | append_singleton rs r ih =>
    rw [afterAll_concat]
    exact ih.after r

/-! ## The last known good model -/

/-- If nothing is to be read, the answer is what is published, or a model without entities. -/
theorem answer_of_idle (s : Slot) {r : Request} {d : Document} (hextent : r.extent = .nothing)
    (htext : Document.ofXml r.settings r.text = .ok d) :
    s.answer r = .ok (s.current.getD { initialized := true }) := by
  unfold answer refresh
  rw [htext, hextent]
  rfl

/-- **The last known good model.** After each refresh of any sequence, the slot shows what the
newest refresh that built a model answered, and nothing before the first. What it shows breaks no
rule and carries the slot's hostnames. Refreshes that fail or read nothing leave it as it is; one
that reads nothing answers it, or a model without entities. -/
theorem last_known_good (hostnames : HostnameCache) (rs : List Request) (n : Nat) :
    let s := (fresh hostnames).afterAll (rs.take n)
    (∀ c, s.current = c ↔ Newest (((fresh hostnames).replies rs).take n) c) ∧
    (∀ r, r.extent = .nothing ∨ (∃ fault, s.answer r = .error fault) →
      (s.after r).current = s.current) ∧
    (∀ m, s.current = some m → m.Valid ∧ m.hostnames = hostnames) ∧
    ∀ r d, r.extent = .nothing → Document.ofXml r.settings r.text = .ok d →
      s.answer r = .ok (s.current.getD { initialized := true }) := by
  intro s
  have hnewest : Newest (((fresh hostnames).replies rs).take n) s.current := by
    rw [← replies_take]
    exact newest_replies hostnames (rs.take n)
  refine ⟨fun c => ⟨?_, fun hc => hnewest.unique hc⟩, ?_, ?_, ?_⟩
  · rintro rfl
    exact hnewest
  · intro r hr
    have hnone : ∀ m, ¬ (s.reply r).Publishes m := by
      rintro m ⟨hextent, hanswer⟩
      rcases hr with hnothing | ⟨fault, hfault⟩
      · exact hextent hnothing
      · exact absurd (hfault.symm.trans hanswer) (by simp)
    rw [after_of_not_publishes hnone]
  · intro m hm
    have hsound := (sound_fresh hostnames).afterAll (rs.take n) m hm
    rwa [hostnames_afterAll] at hsound
  · intro r d hextent htext
    exact s.answer_of_idle hextent htext

end Slot

end CloudNet
