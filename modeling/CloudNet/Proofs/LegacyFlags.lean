import CloudNet.Proofs.Words
import CloudNet.Rule.Legacy

/-!
# The order of legacy flags

A legacy rule is read word by word, a flag together with the word behind it, whatever that is. Each
flag fills in a field of its own, so the order of the flags does not matter as long as each is given
once, and neither do words between them that are no flags. Only the number of the protocol can be
refused, so there is one error at most and the order does not change it.

* `words_of_onLine`: a line is read as the words that it is made of.
* `ofWords_of_interleaved`: a line fills in its flags one after the other.
* `set_comm`: two flags can be filled in in either order.
* `fill_perm`: and so can any number of them.
* `flag_order_irrelevant`: lines with the same flags are the same rule.
-/

namespace CloudNet

namespace Text

/-! ## Words on a line -/

/-- The text is one word. -/
structure IsWord (w : List Char) : Prop where
  ne_nil : w ≠ []
  not_isBlank : ∀ c ∈ w, isBlank c = false

/-- Whether a text is one word can be computed. -/
theorem isWord_iff {w : List Char} :
    IsWord w ↔ (!w.isEmpty && w.all fun c => !isBlank c) = true := by
  rw [Bool.and_eq_true, Bool.not_eq_true', List.isEmpty_eq_false_iff]
  constructor
  · rintro ⟨hne, hw⟩
    exact ⟨hne, List.all_eq_true.mpr fun c hc => by simp [hw c hc]⟩
  · rintro ⟨hne, hw⟩
    exact ⟨hne, not_isBlank_of_all hw⟩

instance : DecidablePred IsWord := fun _ => decidable_of_iff' _ isWord_iff

/-- The text is made of the words, with one blank at least between any two of them, and more blanks
anywhere. It has no line feed. -/
inductive OnLine : List (List Char) → List Char → Prop where
  | nil : OnLine [] []
  | blank {ws : List (List Char)} {s : List Char} {c : Char} (hc : isBlank c = true)
    (hline : c ≠ '\n') (h : OnLine ws s) : OnLine ws (c :: s)
  | word {ws : List (List Char)} {s w : List Char} (hw : IsWord w)
    (hgap : ∀ c ∈ s.head?, isBlank c = true) (h : OnLine ws s) : OnLine (w :: ws) (w ++ s)

variable {ws : List (List Char)} {s : List Char}

/-- A blank in front adds no word. -/
theorem words_cons {c : Char} (hc : isBlank c = true) (s : List Char) : words (c :: s) = words s :=
  words_append_cons [] s hc

/-- **A line is read as its words.** -/
theorem words_of_onLine (h : OnLine ws s) : words s = ws := by
  induction h with
  | nil => rfl
  | blank hc _ _ ih => rw [words_cons hc, ih]
  | @word ws s w hw hgap _ ih =>
    have hone : words w = [w] := words_of_no_blank hw.ne_nil hw.not_isBlank
    cases s with
    | nil => rw [List.append_nil, hone, ← ih]; rfl
    | cons c s =>
      have hc : isBlank c = true := hgap c rfl
      rw [words_append_cons w s hc, hone, ← words_cons hc, ih, List.singleton_append]

/-- The text is one line. -/
theorem notMem_of_onLine (h : OnLine ws s) : '\n' ∉ s := by
  induction h with
  | nil => exact List.not_mem_nil
  | blank _ hline _ ih => exact List.not_mem_cons_of_ne_of_not_mem hline.symm ih
  | word hw _ _ ih =>
    rw [List.mem_append, not_or]
    refine ⟨fun hmem => ?_, ih⟩
    have hblank : isBlank '\n' = true := by decide
    exact absurd (hblank.symm.trans (hw.not_isBlank _ hmem)) (by decide)

/-- Words joined by single spaces are on a line. -/
theorem onLine_joinWith (parts : List String) (h : ∀ part ∈ parts, IsWord part.toList) :
    OnLine (parts.map String.toList) (joinWith " " parts).toList := by
  unfold joinWith
  rw [String.toList_intercalate]
  induction parts with
  | nil => exact .nil
  | cons part rest ih =>
    have hpart := h part List.mem_cons_self
    have hrest := ih fun part hmem => h part (List.mem_cons_of_mem _ hmem)
    cases rest with
    | nil =>
      have hword := OnLine.word hpart (by simp) .nil
      simpa [List.intercalate] using hword
    | cons next rest =>
      rw [List.map_cons, List.map_cons, List.intercalate_cons_cons, List.append_assoc]
      have hspace : isBlank ' ' = true := by decide
      refine .word hpart ?_ (.blank hspace (by decide) hrest)
      rintro c ⟨rfl⟩
      exact hspace

end Text

namespace LegacyRule

/-! ## Flags among the words -/

/-- The flag as a word. -/
def Flag.word : Flag → List Char
  | protocol => ['-', 'P']
  | ports => ['-', 'p']
  | source => ['-', 's']
  | icmp => ['-', 't']
  | group => ['-', 'o']
  | owner => ['-', 'u']

/-- The words are flags, each with a value behind it, and words that are no flags between them. A
value may be any word. -/
inductive Interleaved : List (Flag × List Char) → List (List Char) → Prop where
  | nil : Interleaved [] []
  | other {ps : List (Flag × List Char)} {ws : List (List Char)} {w : List Char}
    (hw : ∀ flag : Flag, w ≠ flag.word) (h : Interleaved ps ws) : Interleaved ps (w :: ws)
  | pair {ps : List (Flag × List Char)} {ws : List (List Char)} (flag : Flag) (value : List Char)
    (h : Interleaved ps ws) : Interleaved ((flag, value) :: ps) (flag.word :: value :: ws)

theorem Flag.ofWord?_word (flag : Flag) : Flag.ofWord? flag.word = some flag := by
  cases flag <;> rfl

/-- A word that is read as a flag is that flag. -/
theorem Flag.eq_word_of_ofWord? {w : List Char} {flag : Flag} (h : Flag.ofWord? w = some flag) :
    w = flag.word := by
  unfold Flag.ofWord? at h
  split at h
  all_goals cases h
  all_goals rfl

theorem Flag.ofWord?_eq_none {w : List Char} (hw : ∀ flag : Flag, w ≠ flag.word) :
    Flag.ofWord? w = none :=
  Option.eq_none_iff_forall_ne_some.mpr fun flag h => hw flag (Flag.eq_word_of_ofWord? h)

/-- The rule with the values of flags filled in, one after the other. -/
def fill (r : LegacyRule) (ps : List (Flag × List Char)) : Except RuleError LegacyRule :=
  ps.foldlM (fun r p => r.set p.1 p.2) r

variable {ps qs : List (Flag × List Char)} {ws us : List (List Char)}

/-- **A line fills in its flags, one after the other**, and passes over its other words. -/
theorem ofWords_of_interleaved (h : Interleaved ps ws) (r : LegacyRule) :
    ofWords r ws = r.fill ps := by
  induction h generalizing r with
  | nil => rfl
  | other hw _ ih =>
    unfold ofWords
    rw [Flag.ofWord?_eq_none hw]
    exact ih r
  | pair flag value _ ih =>
    unfold ofWords fill
    rw [Flag.ofWord?_word, List.foldlM_cons]
    exact congrArg (r.set flag value >>= ·) (funext ih)

/-- A line is read as what its flags fill in. -/
theorem ofText_of_onLine {s : String} (hwords : Interleaved ps ws) (hs : Text.OnLine ws s.toList) :
    ofText s = fill {} ps := by
  have hline : firstLine s.toList = s.toList := by
    unfold firstLine
    rw [List.takeWhile_eq_self_iff]
    intro c hc
    rw [bne_iff_ne]
    exact ne_of_mem_of_not_mem hc (Text.notMem_of_onLine hs)
  unfold ofText
  rw [hline, Text.words_of_onLine hs, ofWords_of_interleaved hwords]

/-! ## Filling in in another order -/

/-- **Two flags can be filled in in either order.** -/
theorem set_comm (r : LegacyRule) {f g : Flag} (hne : f ≠ g) (v w : List Char) :
    (r.set f v >>= fun r => r.set g w) = r.set g w >>= fun r => r.set f v := by
  cases f <;> cases g
  case protocol.protocol | ports.ports | source.source | icmp.icmp | group.group | owner.owner =>
    exact absurd rfl hne
  case protocol.ports | protocol.source | protocol.icmp | protocol.group | protocol.owner =>
    unfold set
    cases Text.int32? v <;> rfl
  case ports.protocol | source.protocol | icmp.protocol | group.protocol | owner.protocol =>
    unfold set
    cases Text.int32? w <;> rfl
  all_goals rfl

/-- **Flags that are given once can be filled in in any order.** -/
theorem fill_perm (hperm : ps.Perm qs) (hdistinct : (ps.map Prod.fst).Nodup) (r : LegacyRule) :
    r.fill ps = r.fill qs := by
  unfold fill
  induction hperm generalizing r with
  | nil => rfl
  | cons p _ ih =>
    rw [List.foldlM_cons, List.foldlM_cons]
    exact congrArg (r.set p.1 p.2 >>= ·) (funext (ih (List.nodup_cons.mp hdistinct).2))
  | swap p q ps =>
    have hne : q.1 ≠ p.1 := fun h =>
      (List.nodup_cons.mp hdistinct).1 (by rw [h]; exact List.mem_cons_self)
    have hswap := set_comm r hne q.2 p.2
    simp only [List.foldlM_cons, ← bind_assoc, hswap]
  | trans hfirst _ ihfirst ihsecond =>
    exact (ihfirst hdistinct r).trans
      (ihsecond ((hfirst.map Prod.fst).nodup_iff.mp hdistinct) r)

/-- **The order of the flags does not matter.** Two lines that give the same flags the same values,
each flag once, are read as the same rule or refused for the same reason, whatever stands between
the flags, and so they have the same match expression. -/
theorem flag_order_irrelevant (hperm : ps.Perm qs) (hdistinct : (ps.map Prod.fst).Nodup)
    (hws : Interleaved ps ws) (hus : Interleaved qs us) {s t : String}
    (hs : Text.OnLine ws s.toList) (ht : Text.OnLine us t.toList) :
    ofText s = fill {} ps ∧ ofText t = ofText s ∧ convert t = convert s := by
  have hread : ofText s = fill {} ps := ofText_of_onLine hws hs
  have hsame : ofText t = ofText s := by
    rw [hread, ofText_of_onLine hus ht, fill_perm hperm hdistinct]
  refine ⟨hread, hsame, ?_⟩
  unfold convert
  rw [hsame]

end LegacyRule

/-! ## A rule in two orders -/

namespace Sample

/-- A port from a source that looks like a flag. -/
def flags : List (LegacyRule.Flag × List Char) :=
  [(.protocol, ['6']), (.ports, "22-22".toList), (.source, "-u".toList)]

/-- The same flags in another order. -/
def turnedFlags : List (LegacyRule.Flag × List Char) :=
  [(.source, "-u".toList), (.protocol, ['6']), (.ports, "22-22".toList)]

end Sample

/-- The flags in their two orders, with a word between them that is no flag and blanks of several
kinds, have one match expression. -/
theorem LegacyRule.flags_turned :
    Sample.flags.Perm Sample.turnedFlags ∧ (Sample.flags.map Prod.fst).Nodup ∧
    convert "-P 6 -p 22-22 -s -u" = .ok "-p tcp -m tcp -s -u --dport 22" ∧
    ofText "\t-s  -u any -P 6 -p 22-22" = ofText "-P 6 -p 22-22 -s -u" ∧
    convert "\t-s  -u any -P 6 -p 22-22" = convert "-P 6 -p 22-22 -s -u" := by
  have hperm : Sample.flags.Perm Sample.turnedFlags := by decide
  have hdistinct : (Sample.flags.map Prod.fst).Nodup := by decide
  have hother : ∀ flag : Flag, "any".toList ≠ flag.word := by
    intro flag
    cases flag <;> decide
  have hs := Text.onLine_joinWith ["-P", "6", "-p", "22-22", "-s", "-u"] (by decide +kernel)
  have hrest := Text.onLine_joinWith ["-u", "any", "-P", "6", "-p", "22-22"] (by decide +kernel)
  have hgap := Text.OnLine.blank (c := ' ') (by decide) (by decide)
    (Text.OnLine.blank (c := ' ') (by decide) (by decide) hrest)
  have ht := Text.OnLine.blank (c := '\t') (by decide) (by decide)
    (Text.OnLine.word (w := "-s".toList) (by decide) (fun c hc => by cases hc; decide) hgap)
  have hread := flag_order_irrelevant (s := "-P 6 -p 22-22 -s -u")
    (t := "\t-s  -u any -P 6 -p 22-22") hperm hdistinct
    (.pair _ _ (.pair _ _ (.pair _ _ .nil)))
    (.pair _ _ (.other hother (.pair _ _ (.pair _ _ .nil)))) hs ht
  exact ⟨hperm, hdistinct, by decide +kernel, hread.2⟩

end CloudNet
