import CloudNet.Document.Path
import CloudNet.Fault
import CloudNet.Proofs.Words

/-!
# Written paths

A text is a path exactly if it is the written form of one, and there is only one path that it is the
written form of. Reading cuts a text at separators first and looks at the parts afterwards, and a
condition may have separators between its quotes. Both directions rest on what cutting does:

* `intercalate_splitParts`: cutting loses nothing, so a text is spelled by the parts it has.
* `splitParts_intercalate`: parts that separators do not cut are found again.
* `step?_eq_some_iff`, `attr?_eq_some_iff`: the parts that are steps and attributes.
* `ofParts_splitParts_eq_ok_iff`: the texts that steps and an attribute spell.
* `reads_exactly`: the texts that a path is read from, blanks at either end apart.
-/

namespace CloudNet

namespace Path

/-! ## Cutting at separators -/

/-- Read from inside quotes (or from outside), the text is not cut, and what follows it is read from
inside quotes (or from outside). -/
def Uncut (before after : Bool) (s : List Char) : Prop :=
  ∀ t, splitParts before (s ++ t) = (splitParts after t).modifyHead (s ++ ·)

theorem splitParts_separator (t : List Char) :
    splitParts false ('/' :: t) = [] :: splitParts false t := by
  rw [splitParts]
  rfl

/-- A character that is no separator goes to the first of the parts. -/
theorem splitParts_cons {quoted : Bool} {c : Char} (hc : (c = '/' && !quoted) = false)
    (t : List Char) :
    splitParts quoted (c :: t) =
      (splitParts (if c = '\'' then !quoted else quoted) t).modifyHead (c :: ·) := by
  rw [splitParts, if_neg (by simpa using hc)]
  obtain ⟨part, more, h⟩ := List.exists_cons_of_ne_nil
    (splitParts_ne_nil (if c = '\'' then !quoted else quoted) t)
  rw [h]
  rfl

theorem Uncut.append {a b c : Bool} {s t : List Char} (hs : Uncut a b s) (ht : Uncut b c t) :
    Uncut a c (s ++ t) := by
  intro u
  rw [List.append_assoc, hs, ht, List.modifyHead_modifyHead]
  congr 1
  funext part
  simp

theorem uncut_nil (quoted : Bool) : Uncut quoted quoted [] := by
  intro t
  obtain ⟨part, more, h⟩ := List.exists_cons_of_ne_nil (splitParts_ne_nil quoted t)
  rw [List.nil_append, h]
  rfl

theorem uncut_singleton {quoted : Bool} {c : Char} (hc : (c = '/' && !quoted) = false) :
    Uncut quoted (if c = '\'' then !quoted else quoted) [c] :=
  splitParts_cons hc

/-- Text outside quotes is not cut if it has no separator. -/
theorem uncut_of_plain {s : List Char} (hsep : '/' ∉ s) (hquote : '\'' ∉ s) :
    Uncut false false s := by
  induction s with
  | nil => exact uncut_nil false
  | cons c s ih =>
    rw [List.mem_cons, not_or] at hsep hquote
    have hc : Uncut false (if c = '\'' then true else false) [c] :=
      uncut_singleton (by simp [Ne.symm hsep.1])
    rw [if_neg (Ne.symm hquote.1)] at hc
    exact hc.append (ih hsep.2 hquote.2)

/-- Text inside quotes is not cut, whatever separators it has. -/
theorem uncut_of_quoted {s : List Char} (hs : '\'' ∉ s) : Uncut true true s := by
  induction s with
  | nil => exact uncut_nil true
  | cons c s ih =>
    rw [List.mem_cons, not_or] at hs
    have hc : Uncut true (if c = '\'' then false else true) [c] := uncut_singleton (by simp)
    rw [if_neg (Ne.symm hs.1)] at hc
    exact hc.append (ih hs.2)

/-- **Cutting loses nothing but the separators.** -/
theorem intercalate_splitParts (quoted : Bool) (s : List Char) :
    List.intercalate ['/'] (splitParts quoted s) = s := by
  induction s generalizing quoted with
  | nil => rfl
  | cons c s ih =>
    cases hc : (c = '/' && !quoted : Bool) with
    | true =>
      simp only [Bool.and_eq_true, decide_eq_true_eq, Bool.not_eq_true'] at hc
      obtain ⟨rfl, rfl⟩ := hc
      obtain ⟨part, more, h⟩ := List.exists_cons_of_ne_nil (splitParts_ne_nil false s)
      have hs := ih false
      rw [h] at hs
      rw [splitParts_separator, h, List.intercalate_cons_cons, hs]
      rfl
    | false =>
      have hs := ih (if c = '\'' then !quoted else quoted)
      rw [splitParts_cons hc]
      obtain ⟨part, more, h⟩ := List.exists_cons_of_ne_nil
        (splitParts_ne_nil (if c = '\'' then !quoted else quoted) s)
      rw [h] at hs ⊢
      cases more with
      | nil => simpa using hs
      | cons next more =>
        rw [List.intercalate_cons_cons] at hs
        rw [List.modifyHead_cons, List.intercalate_cons_cons, ← hs]
        rfl

/-- **Parts that are not cut are found again** when they stand between separators. -/
theorem splitParts_intercalate {parts : List (List Char)} (hne : parts ≠ [])
    (h : ∀ part ∈ parts, Uncut false false part) :
    splitParts false (List.intercalate ['/'] parts) = parts := by
  induction parts with
  | nil => exact absurd rfl hne
  | cons part rest ih =>
    have hpart := h part List.mem_cons_self
    cases rest with
    | nil =>
      have hend := hpart []
      rw [List.append_nil] at hend
      rw [List.intercalate_singleton, hend]
      simp [splitParts]
    | cons next rest =>
      rw [List.intercalate_cons_cons, List.append_assoc, hpart, List.singleton_append,
        splitParts_separator,
        ih (List.cons_ne_nil _ _) fun p hp => h p (List.mem_cons_of_mem _ hp)]
      simp

/-! ## Names -/

/-- A character that a name cannot have is not in it. -/
theorem notMem_of_isName {s : List Char} (h : isName s = true) {c : Char}
    (hc : isNamePart c = false) : c ∉ s := by
  intro hmem
  rw [isNamePart_of_mem_isName h hmem] at hc
  exact absurd hc (by decide)

theorem uncut_of_isName {s : List Char} (h : isName s = true) : Uncut false false s :=
  uncut_of_plain (notMem_of_isName h (by decide)) (notMem_of_isName h (by decide))

/-- A name is not empty and begins with a letter or `_`. -/
theorem exists_cons_of_isName {s : List Char} (h : isName s = true) :
    ∃ c rest, s = c :: rest ∧ isNameStart c = true := by
  cases s with
  | nil => exact absurd h (by decide)
  | cons c rest =>
    simp only [isName, Bool.and_eq_true] at h
    exact ⟨c, rest, rfl, h.1⟩

theorem name?_eq_some_iff {s : List Char} {n : String} :
    name? s = some n ↔ isName n.toList = true ∧ s = n.toList := by
  unfold name?
  constructor
  · intro h
    split at h
    · next hname =>
      obtain rfl := Option.some.inj h
      exact ⟨by rwa [String.toList_ofList], String.toList_ofList.symm⟩
    · exact absurd h (by simp)
  · rintro ⟨hname, rfl⟩
    rw [if_pos hname, String.ofList_toList]

end Path

/-! ## Steps and attributes -/

/-- The name of a test can be written. -/
def NameTest.WellFormed (t : NameTest) : Prop := ∀ n, t = .named n → Path.isName n.toList

/-- The attribute of a condition is a name, and its value can stand between quotes. -/
structure Condition.WellFormed (c : Condition) : Prop where
  attr : Path.isName c.attr.toList
  value : '\'' ∉ c.value.toList

/-- The step can be written. -/
structure Step.WellFormed (s : Step) : Prop where
  test : s.test.WellFormed
  condition : ∀ c ∈ s.condition, c.WellFormed

namespace Path

theorem test?_eq_some_iff {s : List Char} {t : NameTest} :
    test? s = some t ↔ t.WellFormed ∧ s = t.text.toList := by
  unfold test?
  cases t with
  | any =>
    split
    · next h => simp [h, NameTest.WellFormed, NameTest.text]
    · next h => simp [h, NameTest.text]
  | named n =>
    simp only [NameTest.WellFormed, NameTest.text, NameTest.named.injEq, forall_eq']
    split
    · next h =>
      constructor
      · intro hany
        exact absurd hany (by simp)
      · rintro ⟨hname, rfl⟩
        rw [h] at hname
        exact absurd hname (by decide)
    · rw [Option.map_eq_some_iff]
      simp only [NameTest.named.injEq, exists_eq_right, name?_eq_some_iff]

/-- The characters of a condition after its opening bracket. -/
theorem toList_text_condition (c : Condition) :
    c.text.toList =
      '[' :: '@' :: (c.attr.toList ++ '=' :: '\'' :: (c.value.toList ++ ['\'', ']'])) := by
  simp [Condition.text]

theorem condition?_eq_some_iff {s : List Char} {c : Condition} :
    condition? s = some c ↔ c.WellFormed ∧ '[' :: s = c.text.toList := by
  rw [toList_text_condition, List.cons.injEq, eq_self, true_and]
  constructor
  · intro h
    unfold condition? at h
    split at h
    case h_2 => exact absurd h (by simp)
    split at h
    case h_2 => exact absurd h (by simp)
    next rest _ attr quoted hattr =>
    split at h
    case h_2 => exact absurd h (by simp)
    next value hvalue =>
    obtain ⟨rfl, -⟩ := Text.cutAt_eq_some hattr
    obtain ⟨rfl, hquote⟩ := Text.cutAt_eq_some hvalue
    obtain ⟨a, ha, rfl⟩ := Option.map_eq_some_iff.1 h
    obtain ⟨hname, rfl⟩ := name?_eq_some_iff.1 ha
    exact ⟨⟨hname, by simpa using hquote⟩, by simp⟩
  · rintro ⟨⟨hname, hvalue⟩, rfl⟩
    have hattr : '=' ∉ c.attr.toList := notMem_of_isName hname (by decide)
    simp [condition?, Text.cutAt_append hattr, Text.cutAt_append hvalue, name?, hname]

/-- **The parts that are steps** are the written forms of steps. -/
theorem step?_eq_some_iff {s : List Char} {t : Step} :
    step? s = some t ↔ t.WellFormed ∧ s = t.text.toList := by
  obtain ⟨test, condition⟩ := t
  have hbracket : test.WellFormed → '[' ∉ test.text.toList := by
    intro htest
    cases test with
    | any => decide
    | named n => exact notMem_of_isName (htest n rfl) (by decide)
  unfold step?
  constructor
  · intro h
    split at h
    · obtain ⟨t, ht, he⟩ := Option.map_eq_some_iff.1 h
      obtain ⟨rfl, rfl⟩ := Step.mk.inj he
      obtain ⟨htest, rfl⟩ := test?_eq_some_iff.1 ht
      exact ⟨⟨htest, fun c hc => absurd hc (by simp)⟩, by simp [Step.text]⟩
    · next before after hcut =>
      obtain ⟨rfl, -⟩ := Text.cutAt_eq_some hcut
      simp only [Option.bind_eq_bind, Option.bind_eq_some_iff, Option.pure_def,
        Option.some.injEq] at h
      obtain ⟨t, ht, c, hc, he⟩ := h
      obtain ⟨rfl, rfl⟩ := Step.mk.inj he
      obtain ⟨htest, rfl⟩ := test?_eq_some_iff.1 ht
      obtain ⟨hwritten, hchars⟩ := condition?_eq_some_iff.1 hc
      refine ⟨⟨htest, fun d hd => ?_⟩, by simp [Step.text, ← hchars]⟩
      obtain rfl := Option.some.inj hd
      exact hwritten
  · rintro ⟨⟨htest, hcondition⟩, rfl⟩
    have ht : test? test.text.toList = some test := test?_eq_some_iff.2 ⟨htest, rfl⟩
    cases condition with
    | none =>
      have hcut := Text.cutAt_eq_none_iff.2 (hbracket htest)
      simp [Step.text, hcut, ht]
    | some c =>
      have hread := condition?_eq_some_iff.2 ⟨hcondition c rfl, (toList_text_condition c).symm⟩
      have hcut := Text.cutAt_append (hbracket htest) ('@' :: (c.attr.toList ++ '=' :: '\'' ::
        (c.value.toList ++ ['\'', ']'])))
      simp [Step.text, toList_text_condition, hcut, ht, hread]

/-- The part that an attribute is written as. -/
theorem attr?_eq_some_iff {s : List Char} {a : String} :
    attr? s = some a ↔ isName a.toList = true ∧ s = '@' :: a.toList := by
  unfold attr?
  split
  · next rest => rw [name?_eq_some_iff, List.cons.injEq, eq_self, true_and]
  · next hat =>
    constructor
    · intro h
      exact absurd h (by simp)
    · rintro ⟨-, rfl⟩
      exact absurd rfl (hat _)

/-- A character that the written form of a step or of an attribute may start with. -/
def isPartStart (c : Char) : Bool := isNameStart c || c == '*' || c == '@'

theorem exists_cons_of_step {s : Step} (h : s.WellFormed) :
    ∃ c rest, s.text.toList = c :: rest ∧ (isNameStart c || c == '*') = true := by
  obtain ⟨test, condition⟩ := s
  cases test with
  | any =>
    exact ⟨'*', ((condition.map Condition.text).getD "").toList,
      by simp [Step.text, NameTest.text], by decide⟩
  | named n =>
    obtain ⟨c, rest, hn, hc⟩ := exists_cons_of_isName (h.test n rfl)
    exact ⟨c, rest ++ ((condition.map Condition.text).getD "").toList,
      by simp [Step.text, NameTest.text, hn], by simp [hc]⟩

theorem attr?_step {s : Step} (h : s.WellFormed) : attr? s.text.toList = none := by
  obtain ⟨c, rest, hs, hc⟩ := exists_cons_of_step h
  have hat : c ≠ '@' := by
    rintro rfl
    exact absurd hc (by decide)
  rw [hs]
  unfold attr?
  split
  · next heq => exact absurd (List.cons.inj heq).1 hat
  · rfl

/-- Separators in a step stand between quotes. -/
theorem uncut_step {s : Step} (h : s.WellFormed) : Uncut false false s.text.toList := by
  obtain ⟨test, condition⟩ := s
  have htest : Uncut false false test.text.toList := by
    cases test with
    | any => exact uncut_of_plain (by decide) (by decide)
    | named n => exact uncut_of_isName (h.test n rfl)
  cases condition with
  | none => simpa [Step.text] using htest
  | some c =>
    obtain ⟨hname, hvalue⟩ := h.condition c rfl
    have hopening : Uncut false false ['[', '@'] := uncut_of_plain (by decide) (by decide)
    have hquote : Uncut false true ['=', '\''] :=
      (uncut_of_plain (s := ['=']) (by decide) (by decide)).append (uncut_singleton rfl)
    have hclosing : Uncut true false ['\'', ']'] :=
      (uncut_singleton (c := '\'') rfl).append (uncut_of_plain (by decide) (by decide))
    have hcondition := ((hopening.append (uncut_of_isName hname)).append hquote).append
      ((uncut_of_quoted hvalue).append hclosing)
    simpa [Step.text, toList_text_condition] using htest.append hcondition

/-! ## Spelling -/

variable {p : Path}

/-- The steps and the attribute of the path can be written. -/
structure Spelled (p : Path) : Prop where
  steps : ∀ s ∈ p.steps, s.WellFormed
  attr : ∀ a ∈ p.attr, isName a.toList

/-- The parts of the path with separators between them. -/
def body (p : Path) : List Char := List.intercalate ['/'] (p.parts.map String.toList)

theorem parts_ne_nil_iff : p.parts ≠ [] ↔ p.steps ≠ [] ∨ p.attr.isSome := by
  obtain ⟨absolute, steps, attr⟩ := p
  cases attr <;> simp [parts]

theorem wellFormed_iff : p.WellFormed ↔ p.Spelled ∧ (p.absolute = true → p.parts ≠ []) := by
  rw [parts_ne_nil_iff]
  constructor
  · rintro ⟨htests, hconditions, hattr, hsomewhere⟩
    refine ⟨⟨fun s hs => ⟨htests s hs, fun c hc => ?_⟩, hattr⟩, hsomewhere⟩
    obtain ⟨hname, hvalue⟩ := hconditions s hs c hc
    exact ⟨hname, hvalue⟩
  · rintro ⟨⟨hsteps, hattr⟩, hsomewhere⟩
    refine ⟨fun s hs => (hsteps s hs).test, fun s hs c hc => ?_, hattr, hsomewhere⟩
    obtain ⟨hname, hvalue⟩ := (hsteps s hs).condition c hc
    exact ⟨hname, hvalue⟩

theorem parts_cons (absolute : Bool) (s : Step) (steps : List Step) (a : Option String) :
    parts ⟨absolute, s :: steps, a⟩ = s.text :: parts ⟨absolute, steps, a⟩ := rfl

theorem Spelled.cons {absolute : Bool} {s : Step} {steps : List Step} {a : Option String}
    (hs : s.WellFormed) (h : Spelled ⟨absolute, steps, a⟩) : Spelled ⟨absolute, s :: steps, a⟩ where
  steps := by
    intro t ht
    rcases List.mem_cons.1 ht with rfl | ht
    · exact hs
    · exact h.steps t ht
  attr := h.attr

/-- **The written parts of a path are read back.** -/
theorem ofParts_parts (whole : String) (h : p.Spelled) :
    ofParts whole (p.parts.map String.toList) = .ok (p.steps, p.attr) := by
  obtain ⟨absolute, steps, a⟩ := p
  obtain ⟨hsteps, ha⟩ := h
  induction steps with
  | nil =>
    cases a with
    | none => rfl
    | some a =>
      have hread : attr? ('@' :: a.toList) = some a := attr?_eq_some_iff.2 ⟨ha a rfl, rfl⟩
      simp [parts, ofParts, hread]
  | cons s steps ih =>
    have hs := hsteps s List.mem_cons_self
    have hread := step?_eq_some_iff.2 ⟨hs, rfl⟩
    have hrest := ih (fun t ht => hsteps t (List.mem_cons_of_mem _ ht)) ha
    rw [parts_cons, List.map_cons, ofParts, attr?_step hs, hread, hrest]
    rfl

/-- **What is read from parts has these parts.** -/
theorem spelled_of_ofParts {whole : String} {ps : List (List Char)} {steps : List Step}
    {a : Option String} (absolute : Bool) (h : ofParts whole ps = .ok (steps, a)) :
    Spelled ⟨absolute, steps, a⟩ ∧ ps = (parts ⟨absolute, steps, a⟩).map String.toList := by
  induction ps generalizing steps a with
  | nil =>
    obtain ⟨rfl, rfl⟩ := Prod.mk.inj (Except.ok.inj h)
    exact ⟨⟨fun s hs => absurd hs (by simp), fun a ha => absurd ha (by simp)⟩, rfl⟩
  | cons part rest ih =>
    unfold ofParts at h
    split at h
    · next b hb =>
      obtain ⟨hname, rfl⟩ := attr?_eq_some_iff.1 hb
      split at h
      · next hrest =>
        obtain ⟨rfl, rfl⟩ := Prod.mk.inj (Except.ok.inj h)
        refine ⟨⟨fun s hs => absurd hs (by simp), fun a ha => ?_⟩, by simp [parts, hrest]⟩
        obtain rfl := Option.some.inj ha
        exact hname
      · exact absurd h (by simp)
    · split at h
      · next s hs =>
        obtain ⟨hwritten, rfl⟩ := step?_eq_some_iff.1 hs
        obtain ⟨⟨steps, b⟩, hrest, he⟩ := map_eq_ok_iff.1 h
        obtain ⟨rfl, rfl⟩ := Prod.mk.inj he
        obtain ⟨hspelled, rfl⟩ := ih hrest
        exact ⟨hspelled.cons hwritten, by rw [parts_cons, List.map_cons]⟩
      · exact absurd h (by simp)

/-- A part of a path is the written form of a step or of an attribute. -/
theorem Spelled.part_cases (h : p.Spelled) {part : String} (hpart : part ∈ p.parts) :
    (∃ s : Step, s.WellFormed ∧ part = s.text) ∨
      ∃ a : String, isName a.toList = true ∧ part.toList = '@' :: a.toList := by
  rcases List.mem_append.1 hpart with hstep | hattr
  · obtain ⟨s, hs, rfl⟩ := List.mem_map.1 hstep
    exact .inl ⟨s, h.steps s hs, rfl⟩
  · simp only [Option.mem_toList, Option.map_eq_some_iff] at hattr
    obtain ⟨a, ha, rfl⟩ := hattr
    exact .inr ⟨a, h.attr a ha, by simp⟩

/-- Every part of a path is left whole where separators cut. -/
theorem Spelled.uncut (h : p.Spelled) : ∀ part ∈ p.parts.map String.toList,
    Uncut false false part := by
  intro part hpart
  obtain ⟨text, htext, rfl⟩ := List.mem_map.1 hpart
  rcases h.part_cases htext with ⟨s, hs, rfl⟩ | ⟨a, ha, hchars⟩
  · exact uncut_step hs
  · have hat : Uncut false false ['@'] := uncut_of_plain (by decide) (by decide)
    rw [hchars]
    exact hat.append (uncut_of_isName ha)

/-- **The texts that steps and an attribute are read from** are those that they spell. -/
theorem ofParts_splitParts_eq_ok_iff {whole : String} {s : List Char} {steps : List Step}
    {a : Option String} (absolute : Bool) :
    ofParts whole (splitParts false s) = .ok (steps, a) ↔
      Spelled ⟨absolute, steps, a⟩ ∧ parts ⟨absolute, steps, a⟩ ≠ [] ∧
        s = body ⟨absolute, steps, a⟩ := by
  constructor
  · intro h
    obtain ⟨hspelled, hparts⟩ := spelled_of_ofParts absolute h
    refine ⟨hspelled, fun hnone => ?_, ?_⟩
    · rw [hnone] at hparts
      exact splitParts_ne_nil false s hparts
    · unfold body
      rw [← hparts, intercalate_splitParts]
  · rintro ⟨hspelled, hne, rfl⟩
    unfold body
    rw [splitParts_intercalate (by simpa using hne) hspelled.uncut]
    exact ofParts_parts whole hspelled

/-! ## Ends of a written path -/

theorem not_isBlank_of_isNamePart {c : Char} (h : isNamePart c = true) :
    Text.isBlank c = false := by
  have hrange : 45 ≤ c.toNat ∧ c.toNat ≤ 122 := by
    simp only [isNamePart, isNameStart, Bool.or_eq_true, Bool.and_eq_true, decide_eq_true_eq,
      beq_iff_eq, Char.le_def, UInt32.le_iff_toNat_le] at h
    have hwithin : ∀ lo hi : Nat, 45 ≤ lo → hi ≤ 122 → lo ≤ c.toNat ∧ c.toNat ≤ hi →
        45 ≤ c.toNat ∧ c.toNat ≤ 122 := by omega
    rcases h with ((((hupper | hlower) | rfl) | hdigit) | rfl) | rfl
    · exact hwithin 65 90 (by decide) (by decide) hupper
    · exact hwithin 97 122 (by decide) (by decide) hlower
    · decide
    · exact hwithin 48 57 (by decide) (by decide) hdigit
    · decide
    · decide
  unfold Text.isBlank
  simp only [Bool.or_eq_false_iff, Bool.and_eq_false_iff, decide_eq_false_iff_not,
    beq_eq_false_iff_ne]
  omega

theorem not_isBlank_of_isPartStart {c : Char} (h : isPartStart c = true) :
    Text.isBlank c = false := by
  simp only [isPartStart, Bool.or_eq_true, beq_iff_eq] at h
  rcases h with (hname | rfl) | rfl
  · exact not_isBlank_of_isNamePart (by simp [isNamePart, hname])
  · decide
  · decide

/-- What a path with parts spells starts as its first part does. -/
theorem Spelled.exists_cons (h : p.Spelled) (hne : p.parts ≠ []) :
    ∃ c rest, p.body = c :: rest ∧ isPartStart c = true := by
  have hpart : ∀ part ∈ p.parts, ∃ c rest, part.toList = c :: rest ∧ isPartStart c = true := by
    intro part hmem
    rcases h.part_cases hmem with ⟨s, hs, rfl⟩ | ⟨a, -, hchars⟩
    · obtain ⟨c, rest, htext, hc⟩ := exists_cons_of_step hs
      exact ⟨c, rest, htext, by simp [isPartStart, hc]⟩
    · exact ⟨'@', a.toList, hchars, by decide⟩
  obtain ⟨part, more, hparts⟩ := List.exists_cons_of_ne_nil hne
  obtain ⟨c, rest, hchars, hc⟩ := hpart part (by rw [hparts]; exact List.mem_cons_self)
  unfold body
  rw [hparts, List.map_cons, hchars]
  cases more with
  | nil => exact ⟨c, rest, by simp, hc⟩
  | cons next more => exact ⟨c, _, by rw [List.map_cons, List.intercalate_cons_cons]; rfl, hc⟩

theorem not_isBlank_of_getLast?_step {s : Step} (h : s.WellFormed) {c : Char}
    (hc : c ∈ s.text.toList.getLast?) : Text.isBlank c = false := by
  obtain ⟨test, condition⟩ := s
  cases condition with
  | none =>
    have hmem : c ∈ test.text.toList := by
      simpa [Step.text] using List.mem_of_getLast? hc
    cases test with
    | any =>
      obtain rfl : c = '*' := by simpa [NameTest.text] using hmem
      decide
    | named n => exact not_isBlank_of_isNamePart (isNamePart_of_mem_isName (h.test n rfl) hmem)
  | some condition =>
    obtain rfl : ']' = c := by
      simpa [Step.text, toList_text_condition, List.getLast?_append, List.getLast?_cons] using hc
    decide

/-- What a path spells does not end with a blank. -/
theorem Spelled.not_isBlank_of_getLast? (h : p.Spelled) {c : Char} (hc : c ∈ p.body.getLast?) :
    Text.isBlank c = false := by
  have hpart : ∀ part ∈ p.parts, ∀ c ∈ part.toList.getLast?, Text.isBlank c = false := by
    intro part hmem c hc
    rcases h.part_cases hmem with ⟨s, hs, rfl⟩ | ⟨a, ha, hchars⟩
    · exact not_isBlank_of_getLast?_step hs hc
    · rw [hchars] at hc
      rcases List.mem_cons.1 (List.mem_of_getLast? hc) with rfl | hmem
      · decide
      · exact not_isBlank_of_isNamePart (isNamePart_of_mem_isName ha hmem)
  unfold body at hc
  generalize p.parts = parts at hc hpart
  induction parts with
  | nil => exact absurd hc (by simp)
  | cons part rest ih =>
    cases rest with
    | nil => exact hpart part List.mem_cons_self c (by simpa using hc)
    | cons next rest =>
      rw [List.map_cons, List.map_cons, List.intercalate_cons_cons, List.getLast?_append,
        Option.mem_def, Option.or_eq_some_iff] at hc
      rcases hc with hrest | ⟨-, hsep⟩
      · exact ih hrest fun q hq => hpart q (List.mem_cons_of_mem _ hq)
      · obtain rfl : '/' = c := by simpa using hsep
        decide

/-! ## Reading -/

/-- The forms of a text that spells a path: from the top, the context element itself, and from the
context element with or without a mark for it. -/
inductive Spells (p : Path) : List Char → Prop
  | top (hp : p.absolute = true) (hne : p.parts ≠ []) : Spells p ('/' :: p.body)
  | here (hp : p.absolute = false) (hnone : p.parts = []) : Spells p ['.']
  | full (hp : p.absolute = false) (hne : p.parts ≠ []) : Spells p ('.' :: '/' :: p.body)
  | short (hp : p.absolute = false) (hne : p.parts ≠ []) : Spells p p.body

theorem splitParts_dot (s : List Char) :
    splitParts false ('.' :: '/' :: s) = ['.'] :: splitParts false s := by
  rw [splitParts_cons (by decide), if_neg (by decide), splitParts_separator]
  rfl

/-- A first part `.` is all of the text, or a separator follows it. -/
theorem eq_of_head?_splitParts {s : List Char} (h : (splitParts false s).head? = some ['.']) :
    s = ['.'] ∨ ∃ rest, s = '.' :: '/' :: rest := by
  obtain ⟨more, hparts⟩ := List.head?_eq_some_iff.1 h
  have hs := intercalate_splitParts false s
  rw [hparts] at hs
  cases more with
  | nil => exact .inl (by simpa using hs.symm)
  | cons next more => exact .inr ⟨_, by rw [← hs, List.intercalate_cons_cons]; rfl⟩

theorem spells_of_ofText {s : String} (h : ofText s = .ok p) :
    p.Spelled ∧ p.Spells (Text.trimChars s.toList) := by
  unfold ofText at h
  dsimp only at h
  split at h
  · exact absurd h (by simp)
  · obtain ⟨⟨steps, a⟩, hread, rfl⟩ := map_eq_ok_iff.1 h
    obtain ⟨hspelled, hne, hbody⟩ := (ofParts_splitParts_eq_ok_iff true).1 hread
    next htrim =>
    rw [htrim, hbody]
    exact ⟨hspelled, .top rfl hne⟩
  · obtain ⟨⟨steps, a⟩, hread, rfl⟩ := map_eq_ok_iff.1 h
    split at hread
    · next hhead =>
      rcases eq_of_head?_splitParts hhead with hdot | ⟨rest, hrest⟩
      · rw [hdot] at hread ⊢
        obtain ⟨hspelled, hparts⟩ := spelled_of_ofParts false hread
        exact ⟨hspelled, .here rfl (List.map_eq_nil_iff.1 hparts.symm)⟩
      · rw [hrest, splitParts_dot, List.tail_cons] at hread
        obtain ⟨hspelled, hne, hbody⟩ := (ofParts_splitParts_eq_ok_iff false).1 hread
        rw [hrest, hbody]
        exact ⟨hspelled, .full rfl hne⟩
    · obtain ⟨hspelled, hne, hbody⟩ := (ofParts_splitParts_eq_ok_iff false).1 hread
      rw [hbody]
      exact ⟨hspelled, .short rfl hne⟩

theorem ofText_of_spells {s : String} (h : p.Spelled) (hs : p.Spells (Text.trimChars s.toList)) :
    ofText s = .ok p := by
  obtain ⟨absolute, steps, a⟩ := p
  have hread : ∀ whole, parts ⟨absolute, steps, a⟩ ≠ [] →
      ofParts whole (splitParts false (body ⟨absolute, steps, a⟩)) = .ok (steps, a) :=
    fun whole hne => (ofParts_splitParts_eq_ok_iff absolute).2 ⟨h, hne, rfl⟩
  unfold ofText
  generalize Text.trimChars s.toList = t at hs
  cases hs with
  | top hp hne =>
    obtain rfl : absolute = true := hp
    simp [hread _ hne, Except.map]
  | here hp hnone =>
    obtain rfl : absolute = false := hp
    obtain ⟨rfl, rfl⟩ : steps = [] ∧ a = none := by
      cases a <;> simp_all [parts]
    rfl
  | full hp hne =>
    obtain rfl : absolute = false := hp
    simp [splitParts_dot, hread _ hne, Except.map]
  | short hp hne =>
    obtain rfl : absolute = false := hp
    obtain ⟨c, rest, hbody, hc⟩ := h.exists_cons hne
    have hdot : c ≠ '.' := by
      rintro rfl
      exact absurd hc (by decide)
    have hslash : c ≠ '/' := by
      rintro rfl
      exact absurd hc (by decide)
    have hwhole : (splitParts false (c :: rest)).head? ≠ some ['.'] := by
      intro hhead
      rcases eq_of_head?_splitParts hhead with heq | ⟨_, heq⟩
      · exact hdot (List.cons.inj heq).1
      · exact hdot (List.cons.inj heq).1
    have hrest := hread (String.ofList (c :: rest)) hne
    rw [hbody] at hrest ⊢
    dsimp only
    split
    · next heq => exact absurd heq (List.cons_ne_nil _ _)
    · next heq => exact absurd (List.cons.inj heq).1 hslash
    · rw [if_neg hwhole, hrest]
      rfl

/-- **What is read from a text** is the path that the text spells. -/
theorem ofText_eq_ok_iff_spells {s : String} :
    ofText s = .ok p ↔ p.Spelled ∧ p.Spells (Text.trimChars s.toList) :=
  ⟨spells_of_ofText, fun h => ofText_of_spells h.1 h.2⟩

/-! ## Written forms -/

/-- The characters of the written form. -/
theorem toList_render (p : Path) : p.render.toList =
    if p.absolute then '/' :: p.body else if p.parts = [] then ['.'] else '.' :: '/' :: p.body := by
  unfold render body Text.joinWith
  split
  · simp [String.toList_intercalate]
  · split
    · rfl
    · simp [String.toList_intercalate]

/-- A text spells a path that can be written if it is the written form, with or without the mark for
the context element. -/
theorem spells_iff (s : String) : p.Spelled ∧ p.Spells s.toList ↔ p.WellFormed ∧
    (s = p.render ∨
      p.absolute = false ∧ (p.steps ≠ [] ∨ p.attr.isSome = true) ∧ "./" ++ s = p.render) := by
  have hmark : ("./" ++ s).toList = '.' :: '/' :: s.toList := by simp
  rw [wellFormed_iff, ← parts_ne_nil_iff, ← String.toList_inj, ← String.toList_inj, hmark,
    toList_render]
  generalize s.toList = t
  constructor
  · rintro ⟨hspelled, hs⟩
    refine ⟨⟨hspelled, fun hp => ?_⟩, ?_⟩
    · cases hs <;> simp_all
    · cases hs <;> simp_all
  · rintro ⟨⟨hspelled, hsomewhere⟩, hs⟩
    refine ⟨hspelled, ?_⟩
    rcases hs with hs | ⟨hp, hne, hs⟩
    · rw [hs]
      split
      · next hp => exact .top hp (hsomewhere hp)
      · next hp =>
        rw [Bool.not_eq_true] at hp
        split
        · next hnone => exact .here hp hnone
        · next hne => exact .full hp hne
    · simp only [hp, Bool.false_eq_true, if_false, hne, List.cons.injEq, true_and] at hs
      rw [hs]
      exact .short hp hne

/-- A text that spells a path has no blanks at either end. -/
theorem Spells.trimChars_eq_self {t : List Char} (h : p.Spelled) (ht : p.Spells t) :
    Text.trimChars t = t := by
  have hcons : ∀ {d : Char} {s : List Char}, Text.isBlank d = false →
      (∀ c ∈ s.getLast?, Text.isBlank c = false) →
        ∀ c ∈ (d :: s).getLast?, Text.isBlank c = false := by
    intro d s hd hs c hc
    rw [List.getLast?_cons, Option.mem_def, Option.some.injEq] at hc
    cases hend : s.getLast? with
    | none => simpa [hend, ← hc] using hd
    | some e => simpa [hend, ← hc] using hs e hend
  have hbody : ∀ c ∈ p.body.getLast?, Text.isBlank c = false :=
    fun _ => h.not_isBlank_of_getLast?
  cases ht with
  | top hp hne => exact Text.trimChars_eq_self (by simp; decide) (hcons (by decide) hbody)
  | here hp hnone => decide
  | full hp hne =>
    exact Text.trimChars_eq_self (by simp; decide) (hcons (by decide) (hcons (by decide) hbody))
  | short hp hne =>
    obtain ⟨c, rest, hchars, hc⟩ := h.exists_cons hne
    refine Text.trimChars_eq_self (fun d hd => ?_) hbody
    obtain rfl : c = d := by simpa [hchars] using hd
    exact not_isBlank_of_isPartStart hc

/-- A written form has no blanks at either end. -/
theorem WellFormed.trim_render (h : p.WellFormed) : Text.trim p.render = p.render := by
  obtain ⟨hspelled, hs⟩ := (spells_iff p.render).2 ⟨h, .inl rfl⟩
  unfold Text.trim
  rw [hs.trimChars_eq_self hspelled, String.ofList_toList]

/-- A path that can be written is read back. -/
theorem WellFormed.ofText_render (h : p.WellFormed) : ofText p.render = .ok p := by
  obtain ⟨hspelled, hs⟩ := (spells_iff p.render).2 ⟨h, .inl rfl⟩
  refine ofText_of_spells hspelled ?_
  rwa [hs.trimChars_eq_self hspelled]

/-- **A path is read exactly from its written forms**, blanks at either end apart: from the full
form, and from the form without the mark for the context element if that leaves anything. So a path
that can be written is read back, and a text that is no written form is not read. -/
theorem reads_exactly (p : Path) :
    (ofText p.render = .ok p ↔ p.WellFormed) ∧
    ∀ s : String, ofText s = .ok p ↔ p.WellFormed ∧
      (Text.trim s = p.render ∨ p.absolute = false ∧ (p.steps ≠ [] ∨ p.attr.isSome = true) ∧
        "./" ++ Text.trim s = p.render) := by
  have hread : ∀ s : String, ofText s = .ok p ↔ p.WellFormed ∧
      (Text.trim s = p.render ∨ p.absolute = false ∧ (p.steps ≠ [] ∨ p.attr.isSome = true) ∧
        "./" ++ Text.trim s = p.render) := by
    intro s
    rw [ofText_eq_ok_iff_spells, ← spells_iff, Text.trim, String.toList_ofList]
  refine ⟨⟨fun h => ((hread _).1 h).1, fun h => ?_⟩, hread⟩
  exact (hread _).2 ⟨h, .inl h.trim_render⟩

end Path

end CloudNet
