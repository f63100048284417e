import CloudNet.Proofs.MatchWords
import Mathlib.Data.List.Basic

/-!
# What a match expression says

No two parts of a match expression can be taken for each other, whatever numbers and sources are in
them, so an expression says only one thing. Its parts are told apart from the front: after the words
of one part it is clear what that part says and where the next one begins.

* `IcmpMatch.word_injective`, `PortMatch.words_append_inj`, `ProtocolMatch.words_append_inj`,
  `Rule.sourceWords_append_inj`: what a part says can be told from its words.
* `Rule.parts_inj`: and the parts from those of the expression.
* `Rule.SameSource`, `Rule.Agree`: what it takes for rules to match the same traffic, in terms of
  their fields.
* `Rule.Agree.compile_eq`: rules that match the same traffic have one expression.
* `Rule.same_expression_iff`: and only those do.
-/

namespace CloudNet

/-! ## From words to what they say -/

theorem numberWord_injective : Function.Injective numberWord := fun _ _ h =>
  Int32.toInt_inj.1 (Text.signedDecimal_injective h)

/-- A word with a character that numbers are not written with is no number. -/
theorem numberWord_ne {word : List Char} {c : Char} (hc : c ∈ word) (hminus : c ≠ '-')
    (hdigit : Text.isDigit c = false) (n : Int32) : numberWord n ≠ word := by
  rintro rfl
  exact Text.notMem_signedDecimal hminus hdigit hc

/-- Two numbers can be told from the word that they make with a mark between them. -/
theorem numberWord_pair_inj {a b c d : Int32} {sep : Char} (hminus : sep ≠ '-')
    (hdigit : Text.isDigit sep = false)
    (h : numberWord a ++ sep :: numberWord b = numberWord c ++ sep :: numberWord d) :
    a = c ∧ b = d := by
  have hsep : ∀ n, sep ∉ numberWord n := fun _ => Text.notMem_signedDecimal hminus hdigit
  obtain ⟨hfirst, -, hsecond⟩ := (List.append_cons_inj_of_notMem (hsep _) (hsep _)).1 h
  exact ⟨numberWord_injective hfirst, numberWord_injective hsecond⟩

/-- **The ICMP messages that are admitted can be told from their word.** -/
theorem IcmpMatch.word_injective : Function.Injective word := by
  intro a b h
  have hslash : ∀ n, '/' ∉ numberWord n :=
    fun _ => Text.notMem_signedDecimal (by decide) (by decide)
  have hletter : ∀ n, 'a' ∉ numberWord n :=
    fun _ => Text.notMem_signedDecimal (by decide) (by decide)
  -- the slash and the letter tell the three forms apart
  have hslashes : '/' ∈ a.word ↔ '/' ∈ b.word := by rw [h]
  have hletters : 'a' ∈ a.word ↔ 'a' ∈ b.word := by rw [h]
  cases a <;> cases b <;> simp [word, hslash, hletter] at hslashes hletters ⊢
  case ofType.ofType t u => exact numberWord_injective h
  case ofCode.ofCode t c u d => exact numberWord_pair_inj (by decide) (by decide) h

/-- The ports that are admitted can be told from their word. -/
theorem PortMatch.word?_injective : Function.Injective word? := by
  intro a b h
  have hpair : ∀ n a b, numberWord n ≠ numberWord a ++ ':' :: numberWord b := fun n a b =>
    numberWord_ne (c := ':') (by simp) (by decide) (by decide) n
  cases a <;> cases b <;> simp only [word?, Option.some.injEq, reduceCtorEq] at h
  case any.any => rfl
  case single.single p q => rw [numberWord_injective h]
  case single.range p a b => exact absurd h (hpair p a b)
  case range.single a b p => exact absurd h.symm (hpair p a b)
  case range.range a b c d =>
    obtain ⟨rfl, rfl⟩ := numberWord_pair_inj (by decide) (by decide) h
    rfl

/-- **The ports that are admitted can be told from their words**, if what follows names none. -/
theorem PortMatch.words_append_inj {a b : PortMatch} {t u : List (List Char)}
    (ht : t.head? ≠ some "--dport".toList) (hu : u.head? ≠ some "--dport".toList)
    (h : a.words ++ t = b.words ++ u) : a = b ∧ t = u := by
  unfold words at h
  cases ha : a.word? <;> cases hb : b.word? <;> rw [ha, hb] at h
  case none.none => exact ⟨word?_injective (ha.trans hb.symm), h⟩
  case none.some w =>
    rw [List.nil_append] at h
    rw [h] at ht
    exact absurd rfl ht
  case some.none w =>
    rw [List.nil_append] at h
    rw [← h] at hu
    exact absurd rfl hu
  case some.some v w =>
    simp only [List.cons_append, List.nil_append, List.cons.injEq, true_and] at h
    obtain ⟨rfl, rfl⟩ := h
    exact ⟨word?_injective (ha.trans hb.symm), rfl⟩

namespace ProtocolMatch

/-- What is specific to a protocol can be told from its words, if no port follows. -/
theorem details_append_inj {p q : ProtocolMatch} {t u : List (List Char)}
    (ht : t.head? ≠ some "--dport".toList) (hu : u.head? ≠ some "--dport".toList)
    (hname : p.name? = q.name?) (h : p.details ++ t = q.details ++ u) : p = q ∧ t = u := by
  -- all names of protocols have a `p`, which no number has
  have hnumber : ∀ n word, 'p' ∈ word → numberWord n ≠ word := fun n _ hword =>
    numberWord_ne hword (by decide) (by decide) n
  have hnumber' : ∀ n word, 'p' ∈ word → word ≠ numberWord n := fun n _ hword =>
    (hnumber n _ hword).symm
  cases p <;> cases q <;> simp [name?, hnumber, hnumber'] at hname
  case all.all => exact ⟨rfl, h⟩
  case icmp.icmp m m' =>
    simp only [details, List.cons_append, List.nil_append, List.cons.injEq, true_and] at h
    obtain ⟨hword, rfl⟩ := h
    rw [IcmpMatch.word_injective hword]
    exact ⟨rfl, rfl⟩
  case tcp.tcp ports ports' =>
    simp only [details, List.cons_append, List.cons.injEq, true_and] at h
    obtain ⟨rfl, rfl⟩ := PortMatch.words_append_inj ht hu h
    exact ⟨rfl, rfl⟩
  case udp.udp ports ports' =>
    simp only [details, List.cons_append, List.cons.injEq, true_and] at h
    obtain ⟨rfl, rfl⟩ := PortMatch.words_append_inj ht hu h
    exact ⟨rfl, rfl⟩
  case other.other n n' =>
    rw [numberWord_injective hname]
    exact ⟨rfl, h⟩

/-- **The protocol that is admitted can be told from its words**, if what follows names neither a
protocol nor ports. -/
theorem words_append_inj {p q : ProtocolMatch} {t u : List (List Char)}
    (ht : t.head? ≠ some "-p".toList ∧ t.head? ≠ some "--dport".toList)
    (hu : u.head? ≠ some "-p".toList ∧ u.head? ≠ some "--dport".toList)
    (h : p.words ++ t = q.words ++ u) : p = q ∧ t = u := by
  have hall : ∀ r : ProtocolMatch, r.name? = none → r = all := fun r hr => by
    cases r <;> simp [name?] at hr ⊢
  unfold words at h
  cases hp : p.name? <;> cases hq : q.name? <;> rw [hp, hq] at h
  case none.none => exact ⟨(hall p hp).trans (hall q hq).symm, h⟩
  case none.some name =>
    rw [List.nil_append] at h
    rw [h] at ht
    exact absurd rfl ht.1
  case some.none name =>
    rw [List.nil_append] at h
    rw [← h] at hu
    exact absurd rfl hu.1
  case some.some name name' =>
    simp only [List.cons_append, List.cons.injEq, true_and] at h
    obtain ⟨rfl, hdetails⟩ := h
    exact details_append_inj ht.2 hu.2 (hp.trans hq.symm) hdetails

/-- The words for a protocol name no source, if those that follow do not either. -/
theorem head?_words_append (p : ProtocolMatch) {t : List (List Char)}
    (ht : t.head? ≠ some "-s".toList) : (p.words ++ t).head? ≠ some "-s".toList := by
  unfold words
  split
  · exact ht
  · simp

end ProtocolMatch

namespace RuleFlag

/-- The words for a condition name neither a protocol nor ports nor a source. -/
theorem head?_words (flag : RuleFlag) {word : List Char} (hword : word ≠ "-m".toList) :
    flag.words.head? ≠ some word := by
  have hmark : some "-m".toList ≠ some word := fun h => hword (Option.some.inj h).symm
  cases flag with
  | none | unknown _ => simp [words]
  | excludeEdgeMark | requireManagedMark | excludeManagedMark => exact hmark

/-- **The condition of a flag can be told from its words.** -/
theorem condition_eq_of_words {f g : RuleFlag} (h : f.words = g.words) :
    f.condition = g.condition := by
  cases f <;> cases g <;> first | rfl | simp [words] at h

end RuleFlag

namespace Rule

/-- The words for a source without blanks can be told from the words of the expression. -/
theorem sourceWords_append_inj {s s' : String} {t u : List (List Char)}
    (hs : ∀ c ∈ s.toList, Text.isBlank c = false) (hs' : ∀ c ∈ s'.toList, Text.isBlank c = false)
    (ht : t.head? ≠ some "-s".toList) (hu : u.head? ≠ some "-s".toList)
    (h : sourceWords s ++ t = sourceWords s' ++ u) : s = s' ∧ t = u := by
  have hword : ∀ {s : String}, s ≠ "" → (∀ c ∈ s.toList, Text.isBlank c = false) →
      sourceWords s = ["-s".toList, s.toList] := fun {s} hne hs => by
    unfold sourceWords
    rw [if_neg hne, Text.words_of_no_blank (by simpa using hne) hs]
  by_cases he : s = "" <;> by_cases he' : s' = ""
  · rw [he, he'] at h ⊢
    exact ⟨rfl, h⟩
  · rw [he, hword he' hs'] at h
    rw [show t = _ from h] at ht
    exact absurd rfl ht
  · rw [he', hword he hs] at h
    rw [show u = _ from h.symm] at hu
    exact absurd rfl hu
  · rw [hword he hs, hword he' hs'] at h
    simp only [List.cons_append, List.nil_append, List.cons.injEq, true_and] at h
    exact ⟨String.toList_inj.1 h.1, h.2⟩

/-- **The parts of an expression can be told from its words**, if its source has no blanks. They are
told apart one after the other, from the front. -/
theorem parts_inj {s s' : String} {p p' : ProtocolMatch} {f f' : RuleFlag}
    (hs : ∀ c ∈ s.toList, Text.isBlank c = false) (hs' : ∀ c ∈ s'.toList, Text.isBlank c = false)
    (h : sourceWords s ++ (p.words ++ f.words) = sourceWords s' ++ (p'.words ++ f'.words)) :
    s = s' ∧ p = p' ∧ f.words = f'.words := by
  have hno : ∀ (g : RuleFlag) (word : List Char), word ≠ "-m".toList →
      g.words.head? ≠ some word := fun g _ hword => g.head?_words hword
  obtain ⟨hsource, hrest⟩ := sourceWords_append_inj hs hs'
    (p.head?_words_append (hno f _ (by decide))) (p'.head?_words_append (hno f' _ (by decide))) h
  obtain ⟨hprotocol, hflags⟩ := ProtocolMatch.words_append_inj
    ⟨hno f _ (by decide), hno f _ (by decide)⟩ ⟨hno f' _ (by decide), hno f' _ (by decide)⟩ hrest
  exact ⟨hsource, hprotocol, hflags⟩

end Rule

/-! ## What the fields say -/

/-- ICMP fields admit the same messages exactly if the types agree and, unless any type is admitted,
the codes do. -/
theorem IcmpMatch.ofFields_eq_iff {type code type' code' : Int32} :
    ofFields type code = ofFields type' code' ↔ type = type' ∧ (type = -1 ∨ code = code') := by
  unfold ofFields
  constructor
  · intro h
    split_ifs at h <;> simp_all
  · rintro ⟨rfl, hany | rfl⟩
    · simp only [hany, if_true]
    · rfl

/-- The ports are a range: there is a last one, and it is above the first one. -/
def PortMatch.Spans (first last : Int32) : Prop := last ≠ 0 ∧ first < last

/-- Port fields admit the same ports exactly if the first ones agree and, unless any port is
admitted, the last ones do or neither of the two is a range. -/
theorem PortMatch.ofPorts_eq_iff {first last first' last' : Int32} :
    ofPorts first last = ofPorts first' last' ↔
      first = first' ∧
        (first = 0 ∨ last = last' ∨ ¬ Spans first last ∧ ¬ Spans first' last') := by
  unfold ofPorts
  constructor
  · intro h
    split_ifs at h <;> simp_all [Spans]
  · rintro ⟨rfl, hzero | rfl | ⟨hspan, hspan'⟩⟩
    · simp only [hzero, if_true]
    · rfl
    · rw [if_neg (c := last ≠ 0 ∧ last > first) hspan,
        if_neg (c := last' ≠ 0 ∧ last' > first) hspan']

namespace ProtocolMatch

/-- The protocol number that is admitted. -/
def number : ProtocolMatch → Int32
  | all => protocolAll
  | icmp _ => protocolIcmp
  | tcp _ => protocolTcp
  | udp _ => protocolUdp
  | other n => n

theorem number_of_ofRule {r : Rule} {p : ProtocolMatch} (h : ofRule r = .ok p) :
    p.number = r.protocol := by
  unfold ofRule at h
  split_ifs at h with h1 h2 h3 h4 h5
  all_goals
    simp only [Except.ok.injEq] at h
    subst h
  · exact h1.symm
  · exact h2.symm
  · exact h3.symm
  · exact h4.symm
  · rfl

theorem ofRule_icmp {r : Rule} (h : r.protocol = protocolIcmp) :
    ofRule r = .ok (icmp (.ofFields r.icmpType r.icmpCode)) := by
  unfold ofRule
  rw [h]
  rfl

theorem ofRule_tcp {r : Rule} (h : r.protocol = protocolTcp) :
    ofRule r = .ok (tcp (.ofPorts r.fromPort r.toPort)) := by
  unfold ofRule
  rw [h]
  rfl

theorem ofRule_udp {r : Rule} (h : r.protocol = protocolUdp) :
    ofRule r = .ok (udp (.ofPorts r.fromPort r.toPort)) := by
  unfold ofRule
  rw [h]
  rfl

end ProtocolMatch

namespace Rule

/-- The protocol of the rule can be expressed: it is any, or a number of eight bits. -/
def Expressible (r : Rule) : Prop :=
  r.protocol = protocolAll ∨ (0 ≤ r.protocol ∧ r.protocol ≤ 255)

theorem expressible_iff (r : Rule) :
    r.Expressible ↔ ∃ p, ProtocolMatch.ofRule r = .ok p := by
  unfold Expressible ProtocolMatch.ofRule
  split_ifs with h1 h2 h3 h4 h5
  · simp [h1]
  · simp [h2, protocolIcmp]
  · simp [h3, protocolTcp]
  · simp [h4, protocolUdp]
  · simpa [Protocol.isValid, h1] using h5
  · simpa [Protocol.isValid, h1] using h5

/-- The text stands for any address. -/
def IsAnyAddress (s : String) : Prop := s = "" ∨ s = "0.0.0.0/0"

/-- The rules have one source, up to blanks around it, or are both about any address. A source that
is given takes the place of the rule's own. -/
def SameSource (given : Option String) (r : Rule) (given' : Option String) (r' : Rule) : Prop :=
  Text.trim (given.getD r.cidr) = Text.trim (given'.getD r'.cidr) ∨
    IsAnyAddress (Text.trim (given.getD r.cidr)) ∧ IsAnyAddress (Text.trim (given'.getD r'.cidr))

/-- The rules match the same traffic, each from its source and under its flag. What their protocol
does not use may differ: the ICMP fields unless it is 1, the ports unless it is 6 or 17. -/
structure Agree (given : Option String) (r : Rule) (flag : RuleFlag) (given' : Option String)
    (r' : Rule) (flag' : RuleFlag) : Prop where
  source : SameSource given r given' r'
  protocol : r.protocol = r'.protocol
  /-- The types are equal, and so are the codes, unless the type is any (`-1`). -/
  icmp : r.protocol = 1 →
    r.icmpType = r'.icmpType ∧ (r.icmpType = -1 ∨ r.icmpCode = r'.icmpCode)
  /-- The first ports are equal, and so are the last ones, unless any port is admitted (`0`) or
  neither rule is about a range. -/
  ports : r.protocol = 6 ∨ r.protocol = 17 →
    r.fromPort = r'.fromPort ∧
      (r.fromPort = 0 ∨ r.toPort = r'.toPort ∨
        ¬ PortMatch.Spans r.fromPort r.toPort ∧ ¬ PortMatch.Spans r'.fromPort r'.toPort)
  condition : flag.condition = flag'.condition

variable {given given' : Option String} {r r' : Rule} {flag flag' : RuleFlag}

theorem source_eq_empty_iff :
    r.source given = "" ↔ IsAnyAddress (Text.trim (given.getD r.cidr)) := by
  unfold source IsAnyAddress anyCidr
  dsimp only
  split
  · next hany => simp only [hany, or_true]
  · next hany => simp only [hany, or_false]

theorem source_eq_trim (h : r.source given ≠ "") :
    r.source given = Text.trim (given.getD r.cidr) := by
  unfold source at h ⊢
  dsimp only at h ⊢
  split at h
  · exact absurd rfl h
  · next hany => rw [if_neg hany]

/-- Rules have one source exactly if their expressions are about one. -/
theorem sameSource_iff : SameSource given r given' r' ↔ r.source given = r'.source given' := by
  constructor
  · rintro (htrim | ⟨hany, hany'⟩)
    · unfold source
      rw [htrim]
    · rw [source_eq_empty_iff.2 hany, source_eq_empty_iff.2 hany']
  · intro h
    by_cases hempty : r.source given = ""
    · exact .inr ⟨source_eq_empty_iff.1 hempty, source_eq_empty_iff.1 (h ▸ hempty)⟩
    · exact .inl ((source_eq_trim hempty).symm.trans (h.trans (source_eq_trim (h ▸ hempty))))

/-- Rules that match the same traffic match the same protocol, with the same specifics. -/
theorem Agree.ofRule_eq (h : Agree given r flag given' r' flag') :
    ProtocolMatch.ofRule r = ProtocolMatch.ofRule r' := by
  by_cases hicmp : r.protocol = protocolIcmp
  · rw [ProtocolMatch.ofRule_icmp hicmp, ProtocolMatch.ofRule_icmp (h.protocol ▸ hicmp),
      IcmpMatch.ofFields_eq_iff.2 (h.icmp hicmp)]
  · by_cases htcp : r.protocol = protocolTcp
    · rw [ProtocolMatch.ofRule_tcp htcp, ProtocolMatch.ofRule_tcp (h.protocol ▸ htcp),
        PortMatch.ofPorts_eq_iff.2 (h.ports (.inl htcp))]
    · by_cases hudp : r.protocol = protocolUdp
      · rw [ProtocolMatch.ofRule_udp hudp, ProtocolMatch.ofRule_udp (h.protocol ▸ hudp),
          PortMatch.ofPorts_eq_iff.2 (h.ports (.inr hudp))]
      · unfold ProtocolMatch.ofRule
        simp only [← h.protocol, hicmp, htcp, hudp, if_false]

/-- Rules that are about one match of protocols agree in the fields that it is made of. -/
theorem agree_of_ofRule {p : ProtocolMatch} (hr : ProtocolMatch.ofRule r = .ok p)
    (hr' : ProtocolMatch.ofRule r' = .ok p) (hsource : r.source given = r'.source given')
    (hcondition : flag.condition = flag'.condition) : Agree given r flag given' r' flag' := by
  have hprotocol : r.protocol = r'.protocol :=
    (ProtocolMatch.number_of_ofRule hr).symm.trans (ProtocolMatch.number_of_ofRule hr')
  refine ⟨sameSource_iff.2 hsource, hprotocol, fun hicmp => ?_, fun hports => ?_, hcondition⟩
  · have hp := (ProtocolMatch.ofRule_icmp hicmp).symm.trans hr
    have hp' := (ProtocolMatch.ofRule_icmp (hprotocol ▸ hicmp)).symm.trans hr'
    exact IcmpMatch.ofFields_eq_iff.1
      (ProtocolMatch.icmp.inj (Except.ok.inj (hp.trans hp'.symm)))
  · refine PortMatch.ofPorts_eq_iff.1 ?_
    rcases hports with htcp | hudp
    · have hp := (ProtocolMatch.ofRule_tcp htcp).symm.trans hr
      have hp' := (ProtocolMatch.ofRule_tcp (hprotocol ▸ htcp)).symm.trans hr'
      exact ProtocolMatch.tcp.inj (Except.ok.inj (hp.trans hp'.symm))
    · have hp := (ProtocolMatch.ofRule_udp hudp).symm.trans hr
      have hp' := (ProtocolMatch.ofRule_udp (hprotocol ▸ hudp)).symm.trans hr'
      exact ProtocolMatch.udp.inj (Except.ok.inj (hp.trans hp'.symm))

/-- Rules that match the same traffic have one expression, or none for one reason. -/
theorem Agree.compile_eq (h : Agree given r flag given' r' flag') :
    r.compile given flag = r'.compile given' flag' := by
  have hclause : ∀ f : RuleFlag, f.clause? = f.condition.clause? := fun f => by cases f <;> rfl
  rw [Rule.compile_eq, Rule.compile_eq, h.ofRule_eq, sameSource_iff.1 h.source, hclause flag,
    hclause flag', h.condition]

/-- A source without blanks is one word, or any address. -/
theorem not_isBlank_of_mem_source
    (h : ∀ c ∈ (Text.trim (given.getD r.cidr)).toList, Text.isBlank c = false) :
    ∀ c ∈ (r.source given).toList, Text.isBlank c = false := by
  unfold source
  dsimp only
  split
  · simp
  · exact h

/-- **An expression says which traffic is matched.** Rules whose sources have no blanks have one
expression exactly if they can be expressed at all and match the same traffic: they agree in the
source, the protocol, the ICMP or port fields that the protocol uses, and the condition. -/
theorem same_expression_iff
    (h : ∀ c ∈ (Text.trim (given.getD r.cidr)).toList, Text.isBlank c = false)
    (h' : ∀ c ∈ (Text.trim (given'.getD r'.cidr)).toList, Text.isBlank c = false) :
    (∃ text, r.compile given flag = .ok text ∧ r'.compile given' flag' = .ok text) ↔
      r.Expressible ∧ Agree given r flag given' r' flag' := by
  constructor
  · rintro ⟨text, hr, hr'⟩
    obtain ⟨p, hp, hwords⟩ := words_of_compile hr
    obtain ⟨p', hp', hwords'⟩ := words_of_compile hr'
    obtain ⟨hsource, rfl, hflags⟩ := parts_inj (not_isBlank_of_mem_source h)
      (not_isBlank_of_mem_source h') (hwords.symm.trans hwords')
    exact ⟨(expressible_iff r).2 ⟨p, hp⟩,
      agree_of_ofRule hp hp' hsource (RuleFlag.condition_eq_of_words hflags)⟩
  · rintro ⟨hexpr, hagree⟩
    obtain ⟨p, hp⟩ := (expressible_iff r).1 hexpr
    obtain ⟨text, hr⟩ := exists_compile hp given flag
    exact ⟨text, hr, hagree.compile_eq ▸ hr⟩

end Rule

/-! ## A rule for remote logins -/

namespace Sample

/-- Remote logins from one block of addresses. -/
def login : Rule where
  protocol := 6
  cidr := "10.0.0.0/24"
  fromPort := 22
  toPort := 22

/-- Remote logins from anywhere, with the second port left out. -/
def openLogin : Rule where
  protocol := 6
  cidr := "0.0.0.0/0"
  fromPort := 22

end Sample

/-- The two rules match the same traffic once the second one is given the source of the first. -/
theorem Rule.agree_of_login :
    Sample.login.compile none .none = .ok "-s 10.0.0.0/24 -p tcp -m tcp --dport 22" ∧
    Sample.openLogin.compile (some " 10.0.0.0/24 ") (.unknown 3) =
      .ok "-s 10.0.0.0/24 -p tcp -m tcp --dport 22" ∧
    Agree none Sample.login .none (some " 10.0.0.0/24 ") Sample.openLogin (.unknown 3) := by
  have hlogin : Sample.login.compile none .none =
      .ok "-s 10.0.0.0/24 -p tcp -m tcp --dport 22" := by decide +kernel
  have hopen : Sample.openLogin.compile (some " 10.0.0.0/24 ") (.unknown 3) =
      .ok "-s 10.0.0.0/24 -p tcp -m tcp --dport 22" := by decide +kernel
  have hagree := (same_expression_iff (Text.not_isBlank_of_all (by decide +kernel))
    (Text.not_isBlank_of_all (by decide +kernel))).1 ⟨_, hlogin, hopen⟩
  exact ⟨hlogin, hopen, hagree.2⟩

end CloudNet
