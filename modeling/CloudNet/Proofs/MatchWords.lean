import CloudNet.Proofs.Numerals
import CloudNet.Proofs.Words
import CloudNet.Rule.Ingress

/-!
# The words of a match expression

A match expression is made of clauses with spaces between them. Word by word it names a source, then
a protocol with what is specific to it, then a condition on the mark, and each of the three may be
missing.

* `IcmpMatch.words_clause`, `PortMatch.words_clause?`, `ProtocolMatch.words_clauses`,
  `RuleFlag.words_clause?`: the words of each clause.
* `Rule.words_of_compile`: the words of an expression, part by part.
-/

namespace CloudNet

open Text (signedDecimal)

/-! ## Words of the parts -/

/-- A number as a word. -/
def numberWord (n : Int32) : List Char := (signedDecimal n.toInt).toList

/-- The word for the ICMP messages that are admitted. -/
def IcmpMatch.word : IcmpMatch → List Char
  | any => "any".toList
  | ofType t => numberWord t
  | ofCode t c => numberWord t ++ '/' :: numberWord c

/-- The word for the ports that are admitted, unless any are. -/
def PortMatch.word? : PortMatch → Option (List Char)
  | any => none
  | single p => some (numberWord p)
  | range a b => some (numberWord a ++ ':' :: numberWord b)

/-- The words for the ports that are admitted. -/
def PortMatch.words (ports : PortMatch) : List (List Char) :=
  match ports.word? with
  | none => []
  | some word => ["--dport".toList, word]

namespace ProtocolMatch

/-- The word for the protocol itself, unless any is admitted. -/
def name? : ProtocolMatch → Option (List Char)
  | all => none
  | icmp _ => some "icmp".toList
  | tcp _ => some "tcp".toList
  | udp _ => some "udp".toList
  | other n => some (numberWord n)

/-- The words for what is specific to the protocol. -/
def details : ProtocolMatch → List (List Char)
  | all | other _ => []
  | icmp messages => ["-m".toList, "icmp".toList, "--icmp-type".toList, messages.word]
  | tcp ports => "-m".toList :: "tcp".toList :: ports.words
  | udp ports => "-m".toList :: "udp".toList :: ports.words

/-- The words for the protocol that is admitted. -/
def words (p : ProtocolMatch) : List (List Char) :=
  match p.name? with
  | none => []
  | some name => "-p".toList :: name :: p.details

end ProtocolMatch

namespace RuleFlag

/-- The condition that a flag stands for; one without meaning stands for none. -/
def condition : RuleFlag → RuleFlag
  | unknown _ => none
  | flag => flag

/-- The words for the condition of a flag. -/
def words : RuleFlag → List (List Char)
  | none | unknown _ => []
  | excludeEdgeMark => ["-m", "mark", "!", "--mark", "0x2a"].map String.toList
  | requireManagedMark => ["-m", "mark", "--mark", "0x15"].map String.toList
  | excludeManagedMark => ["-m", "mark", "!", "--mark", "0x15"].map String.toList

end RuleFlag

/-- The words for a source; none for any address. -/
def Rule.sourceWords (source : String) : List (List Char) :=
  if source = "" then [] else "-s".toList :: Text.words source.toList

/-! ## From clauses to words -/

theorem toList_append_append_append (a b c d : String) :
    (a ++ b ++ c ++ d).toList = a.toList ++ (b.toList ++ (c.toList ++ d.toList)) := by
  simp only [String.toList_append, List.append_assoc]

theorem numberWord_ne_nil (n : Int32) : numberWord n ≠ [] := Text.signedDecimal_ne_nil _

theorem not_isBlank_of_mem_numberWord {n : Int32} {c : Char} (h : c ∈ numberWord n) :
    Text.isBlank c = false :=
  Text.not_isBlank_of_mem_signedDecimal h

/-- A number is a word. -/
theorem words_numberWord (n : Int32) : Text.words (numberWord n) = [numberWord n] :=
  Text.words_of_no_blank (numberWord_ne_nil n) fun _ => not_isBlank_of_mem_numberWord

/-- Two numbers with a mark between them are a word. -/
theorem words_numberWord_pair (a b : Int32) {sep : Char} (hsep : Text.isBlank sep = false) :
    Text.words (numberWord a ++ sep :: numberWord b) = [numberWord a ++ sep :: numberWord b] := by
  refine Text.words_of_no_blank (List.append_ne_nil_of_right_ne_nil _ (List.cons_ne_nil _ _)) ?_
  intro c hc
  rcases List.mem_append.1 hc with hc | hc
  · exact not_isBlank_of_mem_numberWord hc
  · rcases List.mem_cons.1 hc with rfl | hc
    · exact hsep
    · exact not_isBlank_of_mem_numberWord hc

theorem IcmpMatch.words_clause (m : IcmpMatch) :
    Text.words m.clause.toList = ["--icmp-type".toList, m.word] := by
  have hclause : m.clause.toList = "--icmp-type".toList ++ ' ' :: m.word := by
    cases m with
    | any => rfl
    | ofType t => exact String.toList_append
    | ofCode t c => exact toList_append_append_append _ _ _ _
  rw [hclause]
  refine Text.words_two (by decide) ?_
  cases m with
  | any => decide
  | ofType t => exact words_numberWord t
  | ofCode t c => exact words_numberWord_pair t c (by decide)

theorem PortMatch.words_clause? (m : PortMatch) :
    (m.clause?.toList.flatMap fun clause => Text.words clause.toList) = m.words := by
  cases m with
  | any => rfl
  | single p =>
    have hclause : (s!"--dport {signedDecimal p.toInt}").toList =
        "--dport".toList ++ ' ' :: numberWord p := String.toList_append
    simp only [clause?, Option.toList_some, List.flatMap_singleton, hclause]
    exact Text.words_two (by decide) (words_numberWord p)
  | range a b =>
    have hclause : (s!"--dport {signedDecimal a.toInt}:{signedDecimal b.toInt}").toList =
        "--dport".toList ++ ' ' :: (numberWord a ++ ':' :: numberWord b) :=
      toList_append_append_append _ _ _ _
    simp only [clause?, Option.toList_some, List.flatMap_singleton, hclause]
    exact Text.words_two (by decide) (words_numberWord_pair a b (by decide))

theorem ProtocolMatch.words_clauses (p : ProtocolMatch) :
    (p.clauses.flatMap fun clause => Text.words clause.toList) = p.words := by
  cases p with
  | all => rfl
  | icmp messages =>
    simp only [clauses, List.flatMap_cons, List.flatMap_nil, IcmpMatch.words_clause]
    rfl
  | tcp ports =>
    simp only [clauses, List.flatMap_cons, PortMatch.words_clause?]
    rfl
  | udp ports =>
    simp only [clauses, List.flatMap_cons, PortMatch.words_clause?]
    rfl
  | other n =>
    have hclause : (s!"-p {signedDecimal n.toInt}").toList = "-p".toList ++ ' ' :: numberWord n :=
      String.toList_append
    simp only [clauses, List.flatMap_singleton, hclause]
    exact Text.words_two (by decide) (words_numberWord n)

theorem RuleFlag.words_clause? (flag : RuleFlag) :
    (flag.clause?.toList.flatMap fun clause => Text.words clause.toList) = flag.words := by
  cases flag <;> rfl

namespace Rule

/-- An expression exists exactly if the protocol of the rule does, and its clauses follow each
other. -/
theorem compile_eq (given : Option String) (r : Rule) (flag : RuleFlag) :
    r.compile given flag = (ProtocolMatch.ofRule r).map fun p => Text.joinWith " "
      ((if r.source given = "" then [] else ["-s " ++ r.source given]) ++ p.clauses ++
        flag.clause?.toList) := by
  unfold compile clauses
  cases ProtocolMatch.ofRule r <;> rfl

/-- A rule whose protocol can be expressed has an expression. -/
theorem exists_compile {r : Rule} {p : ProtocolMatch} (hp : ProtocolMatch.ofRule r = .ok p)
    (given : Option String) (flag : RuleFlag) : ∃ text, r.compile given flag = .ok text := by
  rw [compile_eq, hp]
  exact ⟨_, rfl⟩

/-- A rule whose protocol cannot be expressed has none, for that reason. -/
theorem compile_eq_error {r : Rule} {e : RuleError} (he : ProtocolMatch.ofRule r = .error e)
    (given : Option String) (flag : RuleFlag) : r.compile given flag = .error e := by
  rw [compile_eq, he]
  rfl

/-- **The words of a match expression.** -/
theorem words_of_compile {given : Option String} {r : Rule} {flag : RuleFlag} {text : String}
    (h : r.compile given flag = .ok text) :
    ∃ p, ProtocolMatch.ofRule r = .ok p ∧
      Text.words text.toList = sourceWords (r.source given) ++ (p.words ++ flag.words) := by
  rw [compile_eq] at h
  obtain ⟨p, hp, htext⟩ := map_eq_ok_iff.1 h
  refine ⟨p, hp, ?_⟩
  have hsource : ((if r.source given = "" then [] else ["-s " ++ r.source given]).flatMap
      fun clause => Text.words clause.toList) = sourceWords (r.source given) := by
    unfold sourceWords
    split
    · rfl
    · have hclause : ("-s " ++ r.source given).toList =
          "-s".toList ++ ' ' :: (r.source given).toList := String.toList_append
      have hflag : Text.words "-s".toList = ["-s".toList] := by decide
      rw [List.flatMap_singleton, hclause, Text.words_append_cons _ _ (by decide), hflag,
        List.singleton_append]
  rw [← htext, Text.words_joinWith, List.flatMap_append, List.flatMap_append, hsource,
    ProtocolMatch.words_clauses, RuleFlag.words_clause?, List.append_assoc]

end Rule

end CloudNet
