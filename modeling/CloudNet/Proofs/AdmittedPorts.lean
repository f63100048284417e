import CloudNet.Proofs.MatchAgreement

/-!
# The ports that an expression admits

Behind `--dport` stands a port, or two ports with a colon between them for all from one to the
other; words without `--dport` admit every port. A rule declares its ports by a first and a last
one, and its expression admits exactly those. Zero is not a port there: a rule whose first port is
zero declares none, and then every port is admitted, whatever the last one is.

* `PortCondition.admits_append`, `PortCondition.admits_condition`: what words admit, part by part.
* `PortCondition.names_single`, `PortCondition.names_range`: the ports that a word names.
* `PortMatch.admits_words`: what the words for a rule's ports admit.
* `Rule.declared_ports_admitted`: what the expression of a rule admits.
* `Rule.ports_from_zero_unbounded`: ports from zero on are not bounded from above.
-/

namespace CloudNet

namespace PortCondition

/-! ## Conditions on ports -/

/-- The word in front of the ports of a condition. -/
def flag : List Char := "--dport".toList

/-- The port is the one that the word names, or one of the range that it names. -/
def names (word : List Char) (port : Nat) : Bool :=
  match Text.cutAt ':' word with
  | none => Text.natural? 10 word == some port
  | some (least, greatest) =>
    (Text.natural? 10 least).any (· ≤ port) && (Text.natural? 10 greatest).any (port ≤ ·)

/-- The words admit the port: it is named behind each `--dport` among them. -/
def admits (port : Nat) : List (List Char) → Bool
  | [] => true
  | word :: rest => (word != flag || rest.head?.any (names · port)) && admits port rest

variable {front rest : List (List Char)}

/-- Words in front of a condition say nothing of ports. -/
theorem admits_append (h : flag ∉ front) (port : Nat) (rest : List (List Char)) :
    admits port (front ++ rest) = admits port rest := by
  induction front with
  | nil => rfl
  | cons word front ih =>
    obtain ⟨hword, hfront⟩ := not_or.mp (mt List.mem_cons.mpr h)
    have hother : (word != flag) = true := bne_iff_ne.mpr (Ne.symm hword)
    rw [List.cons_append, admits, hother, ih hfront, Bool.true_or, Bool.true_and]

/-- **Words without a condition admit every port.** -/
theorem admits_of_notMem (h : flag ∉ rest) (port : Nat) : admits port rest = true := by
  rw [← List.append_nil rest, admits_append h]
  rfl

/-- **A condition admits the ports that it names.** -/
theorem admits_condition {word : List Char} (hword : word ≠ flag) (hrest : flag ∉ rest)
    (port : Nat) : admits port (flag :: word :: rest) = names word port := by
  have hafter : flag ∉ word :: rest := by
    rw [List.mem_cons, not_or]
    exact ⟨hword.symm, hrest⟩
  rw [admits, admits_of_notMem hafter, bne_self_eq_false, Bool.false_or, Bool.and_true,
    List.head?_cons, Option.any_some]

/-! ## Ports as words -/

/-- A port is written in digits and read back. -/
theorem natural?_numberWord {p : Int32} (h : 0 ≤ p) :
    Text.natural? 10 (numberWord p) = some p.toInt.toNat := by
  have hnonneg : 0 ≤ p.toInt := Int32.le_iff_toInt_le.mp h
  unfold numberWord
  rw [Text.toList_signedDecimal, if_neg (Int.not_lt.mpr hnonneg), List.nil_append,
    Text.natural?_decimal]
  congr 1
  omega

/-- The port that a word names alone. -/
theorem names_single {p : Int32} (hp : 0 ≤ p) (port : Nat) :
    names (numberWord p) port = true ↔ p.toInt = port := by
  have hcut : Text.cutAt ':' (numberWord p) = none :=
    Text.cutAt_eq_none_iff.mpr (Text.notMem_signedDecimal (by decide) (by decide))
  have hnonneg : 0 ≤ p.toInt := Int32.le_iff_toInt_le.mp hp
  unfold names
  rw [hcut, natural?_numberWord hp]
  simp only [beq_iff_eq, Option.some.injEq]
  omega

/-- The ports that a word names as a range. -/
theorem names_range {p q : Int32} (hp : 0 ≤ p) (hq : 0 ≤ q) (port : Nat) :
    names (numberWord p ++ ':' :: numberWord q) port = true ↔
      p.toInt ≤ port ∧ port ≤ q.toInt := by
  have hcut : Text.cutAt ':' (numberWord p ++ ':' :: numberWord q) =
      some (numberWord p, numberWord q) :=
    Text.cutAt_append (Text.notMem_signedDecimal (by decide) (by decide)) _
  have hp' : 0 ≤ p.toInt := Int32.le_iff_toInt_le.mp hp
  have hq' : 0 ≤ q.toInt := Int32.le_iff_toInt_le.mp hq
  unfold names
  rw [hcut]
  simp only [natural?_numberWord hp, natural?_numberWord hq, Option.any_some, Bool.and_eq_true,
    decide_eq_true_eq]
  omega

end PortCondition

open PortCondition (admits)

/-! ## What rules admit -/

namespace PortMatch

/-- A word for ports is not taken for the word in front of them, which has letters. -/
theorem word_ne_flag {m : PortMatch} {word : List Char} (h : m.word? = some word) :
    word ≠ PortCondition.flag := by
  have hletter : ∀ n, 'd' ∉ numberWord n :=
    fun _ => Text.notMem_signedDecimal (by decide) (by decide)
  have hflag : 'd' ∈ PortCondition.flag := by decide
  rintro rfl
  cases m with
  | any => exact absurd h (by simp [word?])
  | single p =>
    rw [← Option.some.inj h] at hflag
    exact hletter p hflag
  | range p q =>
    rw [← Option.some.inj h, List.mem_append, List.mem_cons] at hflag
    rcases hflag with hp | hcolon | hq
    · exact hletter p hp
    · exact absurd hcolon (by decide)
    · exact hletter q hq

variable {first last : Int32} {rest : List (List Char)}

/-- Ports are declared unless the first one is zero. -/
theorem flag_mem_words_ofPorts (hrest : PortCondition.flag ∉ rest) :
    PortCondition.flag ∈ (ofPorts first last).words ++ rest ↔ first ≠ 0 := by
  unfold ofPorts words
  split_ifs with hzero hrange
  · simpa [word?, hzero] using hrest
  · exact iff_of_true List.mem_cons_self hzero
  · exact iff_of_true List.mem_cons_self hzero

/-- **The words for two ports admit those between them**, unless the first one is zero. -/
theorem admits_words (hfirst : 0 ≤ first) (hlast : first ≤ last)
    (hrest : PortCondition.flag ∉ rest) (port : Nat) :
    admits port ((ofPorts first last).words ++ rest) = true ↔
      first = 0 ∨ first.toInt ≤ port ∧ port ≤ last.toInt := by
  by_cases hzero : first = 0
  · have hnone : PortCondition.flag ∉ (ofPorts first last).words ++ rest := fun hmem =>
      (flag_mem_words_ofPorts hrest).mp hmem hzero
    rw [PortCondition.admits_of_notMem hnone]
    simp [hzero]
  · have hcondition : ∀ word, (ofPorts first last).word? = some word →
        admits port ((ofPorts first last).words ++ rest) = PortCondition.names word port := by
      intro word hword
      unfold words
      rw [hword]
      exact PortCondition.admits_condition (word_ne_flag hword) hrest port
    by_cases hrange : last ≠ 0 ∧ last > first
    · have hports : ofPorts first last = .range first last := by
        rw [ofPorts, if_neg hzero, if_pos hrange]
      rw [hcondition _ (by rw [hports]; rfl), PortCondition.names_range hfirst
        (Int32.le_trans hfirst hlast)]
      simp [hzero]
    · have hports : ofPorts first last = .single first := by
        rw [ofPorts, if_neg hzero, if_neg hrange]
      have hle : last ≤ first := by
        rcases not_and_or.mp hrange with hnone | hnot
        · rw [not_not.mp hnone]
          exact hfirst
        · exact Int32.not_lt.mp hnot
      have hsame : first = last := Int32.le_antisymm hlast hle
      rw [hcondition _ (by rw [hports]; rfl), PortCondition.names_single hfirst, ← hsame]
      simp only [hzero, false_or]
      omega

end PortMatch

namespace ProtocolMatch

/-- The words of a protocol that has ports: its own, and those for the ports of the rule. -/
theorem exists_ofRule_of_ports {r : Rule}
    (hprotocol : r.protocol = protocolTcp ∨ r.protocol = protocolUdp) :
    ∃ p front, ofRule r = .ok p ∧ PortCondition.flag ∉ front ∧
      p.words = front ++ (PortMatch.ofPorts r.fromPort r.toPort).words := by
  rcases hprotocol with htcp | hudp
  · exact ⟨_, ["-p", "tcp", "-m", "tcp"].map String.toList, ofRule_tcp htcp, by decide, rfl⟩
  · exact ⟨_, ["-p", "udp", "-m", "udp"].map String.toList, ofRule_udp hudp, by decide, rfl⟩

end ProtocolMatch

namespace Rule

/-- **The expression of a rule admits the ports that the rule declares**, and all of them if it
declares none, that is if its first port is zero. The condition on ports is what follows the source;
it is that of the whole expression, unless the text for the source has such a condition in it. -/
theorem declared_ports_admitted {r : Rule}
    (hprotocol : r.protocol = protocolTcp ∨ r.protocol = protocolUdp) (hfirst : 0 ≤ r.fromPort)
    (hlast : r.fromPort ≤ r.toPort) (given : Option String) (flag : RuleFlag) :
    ∃ text rest, r.compile given flag = .ok text ∧
      Text.words text.toList = sourceWords (r.source given) ++ rest ∧
      (PortCondition.flag ∈ rest ↔ r.fromPort ≠ 0) ∧
      (∀ port, admits port rest = true ↔
        r.fromPort = 0 ∨ r.fromPort.toInt ≤ port ∧ port ≤ r.toPort.toInt) ∧
      (PortCondition.flag ∉ sourceWords (r.source given) →
        ∀ port, admits port (Text.words text.toList) = admits port rest) := by
  obtain ⟨p, front, hp, hfront, hwords⟩ := ProtocolMatch.exists_ofRule_of_ports hprotocol
  obtain ⟨text, htext⟩ := exists_compile hp given flag
  obtain ⟨q, hq, hall⟩ := words_of_compile htext
  have hmark : PortCondition.flag ∉ flag.words := by
    cases flag with
    | none | unknown _ => exact List.not_mem_nil
    | excludeEdgeMark | requireManagedMark | excludeManagedMark => decide
  rw [Except.ok.inj (hq.symm.trans hp), hwords, List.append_assoc] at hall
  refine ⟨text, _, htext, hall, ?_, fun port => ?_, fun hsource port => ?_⟩
  · rw [List.mem_append, or_iff_right hfront]
    exact PortMatch.flag_mem_words_ofPorts hmark
  · rw [PortCondition.admits_append hfront]
    exact PortMatch.admits_words hfirst hlast hmark port
  · rw [hall, PortCondition.admits_append hsource]

end Rule

/-! ## Rules with a range of ports -/

namespace Sample

/-- A range of ports for media streams. -/
def media : Rule where
  protocol := 17
  fromPort := 1000
  toPort := 2000

/-- The ports from zero on. -/
def lowPorts : Rule where
  protocol := 6
  fromPort := 0
  toPort := 100

end Sample

namespace Rule

/-- The expression for the media streams, given a source and a condition on the mark, admits the two
ends of the range and neither of the ports around it. -/
theorem media_ports_admitted :
    Sample.media.compile (some "10.0.0.0/24") .excludeEdgeMark =
      .ok "-s 10.0.0.0/24 -p udp -m udp --dport 1000:2000 -m mark ! --mark 0x2a" ∧
    ∀ port, admits port (Text.words
      "-s 10.0.0.0/24 -p udp -m udp --dport 1000:2000 -m mark ! --mark 0x2a".toList) = true ↔
        1000 ≤ port ∧ port ≤ 2000 := by
  have htext : Sample.media.compile (some "10.0.0.0/24") .excludeEdgeMark =
      .ok "-s 10.0.0.0/24 -p udp -m udp --dport 1000:2000 -m mark ! --mark 0x2a" := by
    decide +kernel
  obtain ⟨text, rest, hcompile, -, -, hadmits, hwhole⟩ := declared_ports_admitted
    (r := Sample.media) (.inr rfl) (by decide) (by decide) (some "10.0.0.0/24") .excludeEdgeMark
  have hsource : PortCondition.flag ∉ sourceWords (Sample.media.source (some "10.0.0.0/24")) := by
    decide +kernel
  have hfirst : Sample.media.fromPort.toInt = 1000 := by decide
  have hlast : Sample.media.toPort.toInt = 2000 := by decide
  refine ⟨htext, fun port => ?_⟩
  rw [Except.ok.inj (htext.symm.trans hcompile), hwhole hsource, hadmits, hfirst, hlast]
  have hdeclared : Sample.media.fromPort ≠ 0 := by decide
  simp only [hdeclared, false_or]
  omega

/-- **Ports from zero on are not bounded from above**: the expression for the ports up to 100 has no
condition on ports, and admits port 443. -/
theorem ports_from_zero_unbounded :
    0 ≤ Sample.lowPorts.fromPort ∧ Sample.lowPorts.fromPort ≤ Sample.lowPorts.toPort ∧
    Sample.lowPorts.toPort = 100 ∧
    Sample.lowPorts.compile none .none = .ok "-p tcp -m tcp" ∧
    admits 443 (Text.words "-p tcp -m tcp".toList) = true := by
  decide +kernel

end Rule

end CloudNet
