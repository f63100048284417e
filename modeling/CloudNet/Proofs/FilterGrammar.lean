import CloudNet.Proofs.Addresses
import CloudNet.Proofs.MatchAgreement
import CloudNet.Proofs.Records

/-!
# The grammar of match expressions

A match expression is a sentence: a source, a protocol and a mark, each of which may be missing. The
grammar leaves two things open, the words for a source and the numbers, and a `Vocabulary` says what
may stand there. The checks of a model bound the length of the text for a source and nothing else of
a rule, so what stands in the open places is up to the document.

* `protocolPart_iff`, `markPart_iff`: the parts of sentences are the words of matches and flags.
* `Rule.sentence_of_compile`: an expression is a sentence in each vocabulary that the rule keeps to.
* `Rule.keepsTo_of_sentence`: it is a well-formed one only if the rule keeps to well-formed words.
* `NetworkModel.Valid.utf8ByteSize_cidr_le`: what the checks of a model say about a rule.
* `NetworkModel.expressions_are_sentences`: the expressions for the rules of a built model.
* `NetworkModel.expression_with_target`: words behind an address get into an expression, and so do
  numbers that are out of range.
-/

namespace CloudNet

/-! ## The grammar -/

/-- What may stand in the open places of a match expression. -/
structure Vocabulary where
  /-- The words for a source. -/
  source : List (List Char) → Prop
  /-- The type or code of an ICMP message. -/
  icmp : Int32 → Prop
  port : Int32 → Prop

section Grammar

variable (v : Vocabulary)

/-- The part for a source. -/
inductive SourcePart : List (List Char) → Prop where
  | any : SourcePart []
  | block {ws : List (List Char)} (h : v.source ws) : SourcePart ("-s".toList :: ws)

/-- The word for ICMP messages. -/
inductive IcmpWord : List Char → Prop where
  | any : IcmpWord "any".toList
  | ofType {t : Int32} (ht : v.icmp t) : IcmpWord (numberWord t)
  | ofCode {t c : Int32} (ht : v.icmp t) (hc : v.icmp c) :
    IcmpWord (numberWord t ++ '/' :: numberWord c)

/-- The part for ports. -/
inductive PortPart : List (List Char) → Prop where
  | any : PortPart []
  | single {p : Int32} (hp : v.port p) : PortPart ["--dport".toList, numberWord p]
  | range {p q : Int32} (hp : v.port p) (hq : v.port q) (h : p < q) :
    PortPart ["--dport".toList, numberWord p ++ ':' :: numberWord q]

/-- The part for a protocol, with what is specific to it. -/
inductive ProtocolPart : List (List Char) → Prop where
  | all : ProtocolPart []
  | icmp {w : List Char} (h : IcmpWord v w) : ProtocolPart
    ["-p".toList, "icmp".toList, "-m".toList, "icmp".toList, "--icmp-type".toList, w]
  | tcp {ws : List (List Char)} (h : PortPart v ws) :
    ProtocolPart ("-p".toList :: "tcp".toList :: "-m".toList :: "tcp".toList :: ws)
  | udp {ws : List (List Char)} (h : PortPart v ws) :
    ProtocolPart ("-p".toList :: "udp".toList :: "-m".toList :: "udp".toList :: ws)
  | other {n : Int32} (h : 0 ≤ n ∧ n ≤ 255) : ProtocolPart ["-p".toList, numberWord n]

/-- The part for the mark of a packet. -/
inductive MarkPart : List (List Char) → Prop where
  | none : MarkPart []
  | edge : MarkPart (["-m", "mark", "!", "--mark", "0x2a"].map String.toList)
  | managed : MarkPart (["-m", "mark", "--mark", "0x15"].map String.toList)
  | unmanaged : MarkPart (["-m", "mark", "!", "--mark", "0x15"].map String.toList)

/-- A sentence: a source, a protocol and a mark. -/
def Sentence (ws : List (List Char)) : Prop :=
  ∃ s p m, SourcePart v s ∧ ProtocolPart v p ∧ MarkPart m ∧ ws = s ++ (p ++ m)

variable {v}

/-- What follows the source begins with a protocol or a mark. -/
theorem ProtocolPart.head?_append {p m : List (List Char)} (hp : ProtocolPart v p)
    (hm : MarkPart m) {w : List Char} (h : (p ++ m).head? = some w) :
    w = "-p".toList ∨ w = "-m".toList := by
  cases hp with
  | all =>
    cases hm with
    | none => simp at h
    | edge | managed | unmanaged => exact .inr (Option.some.inj h).symm
  | icmp | tcp | udp | other => exact .inl (Option.some.inj h).symm

end Grammar

/-! ## Sentences and what they say -/

section Matches

variable {v : Vocabulary}

/-- The numbers of an ICMP match are in the vocabulary. -/
def IcmpMatch.KeepsTo (v : Vocabulary) : IcmpMatch → Prop
  | any => True
  | ofType t => v.icmp t
  | ofCode t c => v.icmp t ∧ v.icmp c

/-- The numbers of a port match are in the vocabulary, and a range has its ends in order. -/
def PortMatch.KeepsTo (v : Vocabulary) : PortMatch → Prop
  | any => True
  | single p => v.port p
  | range p q => v.port p ∧ v.port q ∧ p < q

/-- The numbers of a protocol match are in the vocabulary, and its protocol is a number of eight
bits. -/
def ProtocolMatch.KeepsTo (v : Vocabulary) : ProtocolMatch → Prop
  | all => True
  | icmp messages => messages.KeepsTo v
  | tcp ports | udp ports => ports.KeepsTo v
  | other n => 0 ≤ n ∧ n ≤ 255

theorem icmpWord_iff {w : List Char} :
    IcmpWord v w ↔ ∃ m : IcmpMatch, m.KeepsTo v ∧ w = m.word := by
  constructor
  · intro h
    cases h with
    | any => exact ⟨.any, trivial, rfl⟩
    | ofType ht => exact ⟨.ofType _, ht, rfl⟩
    | ofCode ht hc => exact ⟨.ofCode _ _, ⟨ht, hc⟩, rfl⟩
  · rintro ⟨m, hm, rfl⟩
    cases m with
    | any => exact .any
    | ofType t => exact .ofType hm
    | ofCode t c => exact .ofCode hm.1 hm.2

theorem portPart_iff {ws : List (List Char)} :
    PortPart v ws ↔ ∃ m : PortMatch, m.KeepsTo v ∧ ws = m.words := by
  constructor
  · intro h
    cases h with
    | any => exact ⟨.any, trivial, rfl⟩
    | single hp => exact ⟨.single _, hp, rfl⟩
    | range hp hq hlt => exact ⟨.range _ _, ⟨hp, hq, hlt⟩, rfl⟩
  · rintro ⟨m, hm, rfl⟩
    cases m with
    | any => exact .any
    | single p => exact .single hm
    | range p q => exact .range hm.1 hm.2.1 hm.2.2

/-- **The parts for a protocol are the words of the matches** that keep to the vocabulary. -/
theorem protocolPart_iff {ws : List (List Char)} :
    ProtocolPart v ws ↔ ∃ p : ProtocolMatch, p.KeepsTo v ∧ ws = p.words := by
  constructor
  · intro h
    cases h with
    | all => exact ⟨.all, trivial, rfl⟩
    | icmp hw =>
      obtain ⟨m, hm, rfl⟩ := icmpWord_iff.1 hw
      exact ⟨.icmp m, hm, rfl⟩
    | tcp hports =>
      obtain ⟨m, hm, rfl⟩ := portPart_iff.1 hports
      exact ⟨.tcp m, hm, rfl⟩
    | udp hports =>
      obtain ⟨m, hm, rfl⟩ := portPart_iff.1 hports
      exact ⟨.udp m, hm, rfl⟩
    | other hn => exact ⟨.other _, hn, rfl⟩
  · rintro ⟨p, hp, rfl⟩
    cases p with
    | all => exact .all
    | icmp m => exact .icmp (icmpWord_iff.2 ⟨m, hp, rfl⟩)
    | tcp m => exact .tcp (portPart_iff.2 ⟨m, hp, rfl⟩)
    | udp m => exact .udp (portPart_iff.2 ⟨m, hp, rfl⟩)
    | other n => exact .other hp

/-- **The parts for a mark are the words of the flags.** -/
theorem markPart_iff {ws : List (List Char)} :
    MarkPart ws ↔ ∃ flag : RuleFlag, ws = flag.words := by
  constructor
  · intro h
    cases h with
    | none => exact ⟨.none, rfl⟩
    | edge => exact ⟨.excludeEdgeMark, rfl⟩
    | managed => exact ⟨.requireManagedMark, rfl⟩
    | unmanaged => exact ⟨.excludeManagedMark, rfl⟩
  · rintro ⟨flag, rfl⟩
    cases flag with
    | none | unknown _ => exact .none
    | excludeEdgeMark => exact .edge
    | requireManagedMark => exact .managed
    | excludeManagedMark => exact .unmanaged

theorem IcmpMatch.keepsTo_ofFields {t c : Int32} :
    (ofFields t c).KeepsTo v ↔ (t ≠ -1 → v.icmp t) ∧ (t ≠ -1 → c ≠ -1 → v.icmp c) := by
  unfold ofFields
  split_ifs with ht hc
  · simp [KeepsTo, ht]
  · simp [KeepsTo, ht, hc]
  · simp [KeepsTo, ht, hc]

theorem PortMatch.keepsTo_ofPorts {p q : Int32} : (ofPorts p q).KeepsTo v ↔
    (p ≠ 0 → v.port p) ∧ (p ≠ 0 → q ≠ 0 → p < q → v.port q) := by
  unfold ofPorts
  split_ifs with hp hq
  · simp [KeepsTo, hp]
  · simp [KeepsTo, hp, hq.1, show p < q from hq.2]
  · simp only [KeepsTo, ne_eq, hp, not_false_eq_true, forall_const]
    exact ⟨fun h => ⟨h, fun h0 hlt => absurd ⟨h0, hlt⟩ hq⟩, fun h => h.1⟩

end Matches

/-! ## Expressions are sentences -/

namespace Rule

/-- What the rule puts in the open places of its expression is in the vocabulary. -/
structure KeepsTo (r : Rule) (v : Vocabulary) : Prop where
  source : r.source none ≠ "" → v.source (Text.words (r.source none).toList)
  icmp : r.protocol = protocolIcmp → (IcmpMatch.ofFields r.icmpType r.icmpCode).KeepsTo v
  ports : r.protocol = protocolTcp ∨ r.protocol = protocolUdp →
    (PortMatch.ofPorts r.fromPort r.toPort).KeepsTo v

variable {r : Rule} {v : Vocabulary} {p : ProtocolMatch}

/-- The match of a rule keeps to the vocabulary if the rule does. -/
theorem KeepsTo.ofRule (h : r.KeepsTo v) (hp : ProtocolMatch.ofRule r = .ok p) : p.KeepsTo v := by
  unfold ProtocolMatch.ofRule at hp
  split_ifs at hp with hall hicmp htcp hudp hvalid
  all_goals
    simp only [Except.ok.injEq] at hp
    subst hp
  · trivial
  · exact h.icmp hicmp
  · exact h.ports (.inl htcp)
  · exact h.ports (.inr hudp)
  · simpa [ProtocolMatch.KeepsTo, Protocol.isValid] using hvalid

/-- A rule keeps to the vocabulary if its source and its match do. -/
theorem keepsTo_of_ofRule
    (hsource : r.source none ≠ "" → v.source (Text.words (r.source none).toList))
    (hp : ProtocolMatch.ofRule r = .ok p) (h : p.KeepsTo v) : r.KeepsTo v where
  source := hsource
  icmp hicmp := by
    rw [ProtocolMatch.ofRule_icmp hicmp] at hp
    obtain rfl := Except.ok.inj hp
    exact h
  ports hports := by
    rcases hports with htcp | hudp
    · rw [ProtocolMatch.ofRule_tcp htcp] at hp
      obtain rfl := Except.ok.inj hp
      exact h
    · rw [ProtocolMatch.ofRule_udp hudp] at hp
      obtain rfl := Except.ok.inj hp
      exact h

theorem KeepsTo.sourcePart (h : r.KeepsTo v) : SourcePart v (sourceWords (r.source none)) := by
  unfold sourceWords
  split
  · exact .any
  · next hne => exact .block (h.source hne)

/-- **An expression is a sentence** in each vocabulary that the rule keeps to. -/
theorem sentence_of_compile (h : r.KeepsTo v) {flag : RuleFlag} {text : String}
    (htext : r.compile none flag = .ok text) : Sentence v (Text.words text.toList) := by
  obtain ⟨p, hp, hwords⟩ := words_of_compile htext
  exact ⟨_, _, _, h.sourcePart, protocolPart_iff.2 ⟨p, h.ofRule hp, rfl⟩,
    markPart_iff.2 ⟨flag, rfl⟩, hwords⟩

end Rule

/-! ## Two vocabularies -/

/-- Sources are blocks or addresses, and numbers are in the range of what they stand for. -/
def Vocabulary.wellFormed : Vocabulary where
  source ws := ∃ block, Cidr.Written block ∧ ws = [block]
  icmp n := 0 ≤ n ∧ n ≤ 255
  port p := 1 ≤ p ∧ p ≤ 65535

/-- Sources are the words that the rule has for its source, one or more of them, and numbers are any
that do not stand for the absence of one. -/
def Rule.vocabulary (r : Rule) : Vocabulary where
  source ws := ws ≠ [] ∧ ws = Text.words (Text.trimChars r.cidr.toList)
  icmp n := n ≠ -1
  port p := p ≠ 0

/-- A well-formed source is that of a text without blanks. -/
theorem SourcePart.exists_source {ws : List (List Char)} (h : SourcePart .wellFormed ws) :
    ∃ source : String, (source ≠ "" → Cidr.Written source.toList) ∧
      (∀ c ∈ source.toList, Text.isBlank c = false) ∧ ws = Rule.sourceWords source := by
  cases h with
  | any => exact ⟨"", fun h => absurd rfl h, fun c hc => absurd hc List.not_mem_nil, rfl⟩
  | block hblock =>
    obtain ⟨block, hwritten, rfl⟩ := hblock
    have hchars : (String.ofList block).toList = block := String.toList_ofList
    have hne : String.ofList block ≠ "" := by simpa using hwritten.ne_nil
    refine ⟨String.ofList block, ?_, ?_, ?_⟩
    · rw [hchars]
      exact fun _ => hwritten
    · rw [hchars]
      exact fun c hc => hwritten.not_isBlank_of_mem hc
    · unfold Rule.sourceWords
      rw [if_neg hne, hchars, hwritten.words_eq]

namespace Rule

/-- The source of the rule is a block or an address unless it is missing, and its numbers are in the
range of what they stand for unless they stand for the absence of one. -/
structure InRange (r : Rule) : Prop where
  source : r.source none ≠ "" → ∃ block, Cidr.ofBlockOrAddress? r.cidr = some block
  icmpType : r.protocol = protocolIcmp → r.icmpType ≠ -1 → 0 ≤ r.icmpType ∧ r.icmpType ≤ 255
  icmpCode : r.protocol = protocolIcmp → r.icmpType ≠ -1 → r.icmpCode ≠ -1 →
    0 ≤ r.icmpCode ∧ r.icmpCode ≤ 255
  fromPort : r.protocol = protocolTcp ∨ r.protocol = protocolUdp → r.fromPort ≠ 0 →
    1 ≤ r.fromPort ∧ r.fromPort ≤ 65535
  /-- A last port that is not above the first does not count. -/
  toPort : r.protocol = protocolTcp ∨ r.protocol = protocolUdp → r.fromPort ≠ 0 →
    r.fromPort < r.toPort → r.toPort ≤ 65535

variable {r : Rule}

/-- A source that is not missing is the text of the rule without the blanks around it. -/
theorem toList_source (h : r.source none ≠ "") :
    (r.source none).toList = Text.trimChars r.cidr.toList := by
  unfold source at h ⊢
  dsimp only [Option.getD_none] at h ⊢
  split
  · next hany => exact absurd (if_pos hany) h
  · exact String.toList_ofList

/-- Every rule keeps to its own vocabulary. -/
theorem keepsTo_vocabulary (r : Rule) : r.KeepsTo r.vocabulary where
  source h := by
    have hne : Text.trimChars r.cidr.toList ≠ [] := by
      rw [← toList_source h]
      simpa using h
    rw [toList_source h]
    exact ⟨Text.words_trimChars_ne_nil hne, rfl⟩
  icmp _ := IcmpMatch.keepsTo_ofFields.2 ⟨fun h => h, fun _ h => h⟩
  ports _ := PortMatch.keepsTo_ofPorts.2 ⟨fun h => h, fun _ h _ => h⟩

/-- **A rule that is in range keeps to well-formed words.** -/
theorem InRange.keepsTo (h : r.InRange) : r.KeepsTo .wellFormed where
  source hne := by
    have hwritten := Cidr.exists_ofBlockOrAddress?_iff.1 (h.source hne)
    rw [toList_source hne]
    exact ⟨_, hwritten, hwritten.words_eq⟩
  icmp hp := IcmpMatch.keepsTo_ofFields.2 ⟨h.icmpType hp, h.icmpCode hp⟩
  ports hp := PortMatch.keepsTo_ofPorts.2 ⟨h.fromPort hp, fun hfrom _ hlt => by
    obtain ⟨hlo, -⟩ := h.fromPort hp hfrom
    exact ⟨by grind, h.toPort hp hfrom hlt⟩⟩

/-- So it is the other way round, if the source has no blank. -/
theorem KeepsTo.inRange (h : r.KeepsTo .wellFormed)
    (hblank : ∀ c ∈ (r.source none).toList, Text.isBlank c = false) : r.InRange where
  source hne := by
    obtain ⟨block, hwritten, hwords⟩ := h.source hne
    rw [Text.words_of_no_blank (by simpa using hne) hblank] at hwords
    obtain rfl := (List.cons.inj hwords).1
    rw [toList_source hne] at hwritten
    exact Cidr.exists_ofBlockOrAddress?_iff.2 hwritten
  icmpType hp := (IcmpMatch.keepsTo_ofFields.1 (h.icmp hp)).1
  icmpCode hp := (IcmpMatch.keepsTo_ofFields.1 (h.icmp hp)).2
  fromPort hp := (PortMatch.keepsTo_ofPorts.1 (h.ports hp)).1
  toPort hp hfrom hlt := by
    obtain ⟨hfirst, hlast⟩ := PortMatch.keepsTo_ofPorts.1 (h.ports hp)
    obtain ⟨hlo, -⟩ := hfirst hfrom
    exact (hlast hfrom (by grind) hlt).2

/-- **An expression is well-formed only if the rule keeps to well-formed words**, if its source has
no blank: the parts of the expression can be told apart, so they are those of the sentence. -/
theorem keepsTo_of_sentence {flag : RuleFlag} {text : String}
    (hblank : ∀ c ∈ (r.source none).toList, Text.isBlank c = false)
    (htext : r.compile none flag = .ok text)
    (h : Sentence .wellFormed (Text.words text.toList)) : r.KeepsTo .wellFormed := by
  obtain ⟨p, hp, hwords⟩ := words_of_compile htext
  obtain ⟨s, q, m, hs, hq, hm, heq⟩ := h
  obtain ⟨source, hwritten, hsource, rfl⟩ := hs.exists_source
  obtain ⟨p', hkeeps, rfl⟩ := protocolPart_iff.1 hq
  obtain ⟨flag', rfl⟩ := markPart_iff.1 hm
  obtain ⟨rfl, rfl, -⟩ := parts_inj hblank hsource (hwords.symm.trans heq)
  exact keepsTo_of_ofRule (fun hne => ⟨_, hwritten hne, (hwritten hne).words_eq⟩) hp hkeeps

end Rule

/-! ## Rules of a built model -/

namespace NetworkModel

/-- **What the checks of a model say about a rule**: the text for its source is not too long. -/
theorem Valid.utf8ByteSize_cidr_le {m : NetworkModel} (h : m.Valid) {g : SecurityGroup}
    (hg : g ∈ m.secgroups) {r : Rule} (hr : r ∈ g.ingressRules) :
    r.cidr.utf8ByteSize ≤ cidrLimit := by
  have hcheck : Check.lengthAtMost "secgroup rule cidr" r.cidr cidrLimit ∈ g.checks m :=
    List.mem_append_left _ (List.mem_append_right _
      (List.mem_map.2 ⟨r, List.mem_append_left _ hr, rfl⟩))
  simpa using h.passes_of_mem_secgroups hg hcheck

/-- **The expressions for the rules of a built model.** The text for the source of a rule has at
most 18 bytes, and an expression has the words of that text in the place of a source and numbers in
the place of numbers. If the rule is in range, the expression is well-formed, and only then, unless
there are blanks in its source. -/
theorem expressions_are_sentences {d : Document} {hostnames : HostnameCache} {m : NetworkModel}
    (h : (ofDocument d .all hostnames).value = .ok m) {g : SecurityGroup} (hg : g ∈ m.secgroups)
    {r : Rule} (hr : r ∈ g.ingressRules) {flag : RuleFlag} {text : String}
    (htext : r.compile none flag = .ok text) :
    r.cidr.utf8ByteSize ≤ 18 ∧ Sentence r.vocabulary (Text.words text.toList) ∧
      (r.InRange → Sentence .wellFormed (Text.words text.toList)) ∧
      ((∀ c ∈ (r.source none).toList, Text.isBlank c = false) →
        Sentence .wellFormed (Text.words text.toList) → r.InRange) := by
  obtain ⟨-, -, hvalid⟩ := (value_ofDocument_eq_ok_iff (by decide)).1 h
  exact ⟨hvalid.utf8ByteSize_cidr_le hg hr, Rule.sentence_of_compile r.keepsTo_vocabulary htext,
    fun hrange => Rule.sentence_of_compile hrange.keepsTo htext,
    fun hblank hsentence => (Rule.keepsTo_of_sentence hblank htext hsentence).inRange hblank⟩

/-- The expression for remote logins from one address is well-formed. -/
theorem expression_of_login :
    (ofDocument (Sample.loginNetwork "10.0.0.4/32") .all {}).value =
      .ok (Sample.guardedModel (Sample.loginFrom "10.0.0.4/32" 167772164 32)) ∧
    (Sample.loginFrom "10.0.0.4/32" 167772164 32).compile none .none =
      .ok "-s 10.0.0.4/32 -p tcp -m tcp --dport 22" ∧
    Sentence .wellFormed (Text.words "-s 10.0.0.4/32 -p tcp -m tcp --dport 22".toList) := by
  have hbuild : (ofDocument (Sample.loginNetwork "10.0.0.4/32") .all {}).value =
      .ok (Sample.guardedModel (Sample.loginFrom "10.0.0.4/32" 167772164 32)) :=
    Sample.ofDocument_guarded (by decide +kernel) (by decide +kernel)
  have htext : (Sample.loginFrom "10.0.0.4/32" 167772164 32).compile none .none =
      .ok "-s 10.0.0.4/32 -p tcp -m tcp --dport 22" := by decide +kernel
  have hrange : (Sample.loginFrom "10.0.0.4/32" 167772164 32).InRange := {
    source := fun _ => ⟨⟨167772164, 32, by decide⟩, by decide +kernel⟩
    icmpType := fun h => absurd h (by decide)
    icmpCode := fun h => absurd h (by decide)
    fromPort := fun _ _ => by decide
    toPort := fun _ _ _ => by decide }
  exact ⟨hbuild, htext, (expressions_are_sentences hbuild List.mem_cons_self List.mem_cons_self
    htext).2.2.1 hrange⟩

end NetworkModel

namespace Sample

/-- A rule for TCP connections to ports that are out of range, from anywhere. -/
def strayPorts : Rule where
  protocol := 6
  fromPort := -5
  toPort := 70000

/-- A rule for ICMP messages with a type and a code that are out of range, from anywhere. -/
def strayMessages : Rule where
  protocol := 1
  icmpType := 300
  icmpCode := -2

end Sample

namespace NetworkModel

/-- A source block with words behind an address passes the checks, and its words become words of the
expression, in a place where nothing may stand. So do ports and ICMP messages that are out of
range. -/
theorem expression_with_target :
    ((ofDocument (Sample.loginNetwork "1.2.3.4 -j ACCEPT") .all {}).value =
        .ok (Sample.guardedModel (Sample.loginFrom "1.2.3.4 -j ACCEPT" 0 0)) ∧
      (Sample.loginFrom "1.2.3.4 -j ACCEPT" 0 0).compile none .none =
        .ok "-s 1.2.3.4 -j ACCEPT -p tcp -m tcp --dport 22" ∧
      ¬ Sentence .wellFormed
        (Text.words "-s 1.2.3.4 -j ACCEPT -p tcp -m tcp --dport 22".toList)) ∧
    ((ofDocument (Sample.guarded [Sample.field "protocol" "6", Sample.field "fromPort" "-5",
          Sample.field "toPort" "70000"]) .all {}).value =
        .ok (Sample.guardedModel Sample.strayPorts) ∧
      Sample.strayPorts.compile none .none = .ok "-p tcp -m tcp --dport -5:70000" ∧
      ¬ Sentence .wellFormed (Text.words "-p tcp -m tcp --dport -5:70000".toList)) ∧
    ((ofDocument (Sample.guarded [Sample.field "protocol" "1", Sample.field "icmpType" "300",
          Sample.field "icmpCode" "-2"]) .all {}).value =
        .ok (Sample.guardedModel Sample.strayMessages) ∧
      Sample.strayMessages.compile none .none = .ok "-p icmp -m icmp --icmp-type 300/-2" ∧
      ¬ Sentence .wellFormed (Text.words "-p icmp -m icmp --icmp-type 300/-2".toList)) := by
  refine ⟨⟨Sample.ofDocument_guarded (by decide +kernel) (by decide +kernel),
    by decide +kernel, ?_⟩, ?_, ?_⟩
  · have hwords : Text.words "-s 1.2.3.4 -j ACCEPT -p tcp -m tcp --dport 22".toList =
        ["-s", "1.2.3.4", "-j", "ACCEPT", "-p", "tcp", "-m", "tcp", "--dport", "22"].map
          String.toList := by decide +kernel
    rw [hwords]
    rintro ⟨s, p, m, hs, hp, hm, heq⟩
    cases hs with
    | any =>
      rcases hp.head?_append hm (congrArg List.head? heq).symm with h | h
      · exact absurd h (by decide)
      · exact absurd h (by decide)
    | block hsource =>
      obtain ⟨block, -, rfl⟩ := hsource
      have hrest : (p ++ m).head? = some "-j".toList :=
        (congrArg List.head? (List.cons.inj (List.cons.inj heq).2).2).symm
      rcases hp.head?_append hm hrest with h | h
      · exact absurd h (by decide)
      · exact absurd h (by decide)
  · have htext : Sample.strayPorts.compile none .none =
        .ok "-p tcp -m tcp --dport -5:70000" := by decide +kernel
    have hblank : ∀ c ∈ (Sample.strayPorts.source none).toList, Text.isBlank c = false :=
      Text.not_isBlank_of_all (by decide +kernel)
    refine ⟨Sample.ofDocument_guarded (by decide +kernel) (by decide +kernel), htext, fun h => ?_⟩
    have hrange := (Rule.keepsTo_of_sentence hblank htext h).inRange hblank
    exact absurd (hrange.fromPort (.inl rfl) (by decide)).1 (by decide)
  · have htext : Sample.strayMessages.compile none .none =
        .ok "-p icmp -m icmp --icmp-type 300/-2" := by decide +kernel
    have hblank : ∀ c ∈ (Sample.strayMessages.source none).toList, Text.isBlank c = false :=
      Text.not_isBlank_of_all (by decide +kernel)
    refine ⟨Sample.ofDocument_guarded (by decide +kernel) (by decide +kernel), htext, fun h => ?_⟩
    have hrange := (Rule.keepsTo_of_sentence hblank htext h).inRange hblank
    exact absurd (hrange.icmpType rfl (by decide)).2 (by decide)

end NetworkModel

end CloudNet
