import CloudNet.Proofs.LegacyFlags
import CloudNet.Proofs.MatchAgreement

/-!
# Rules written in two ways

A rule about ports can be written as a legacy line, and its expression is made of the same clauses
then: one for the protocol, one for the ports, and one for the source unless that is any address. A
legacy rule puts its source behind the protocol, and a structured rule in front of it.

* `LegacyRule.portRangeOf_legacyPorts`: a legacy line names the same ports,
* `PortMatch.clause?_ofPorts`: which are those of the clause for a structured rule.
* `Rule.ofText_legacyLine`: what a legacy line is read as.
* `Rule.convert_legacyLine`, `Rule.compile_of_ports`: the clauses of the two expressions.
* `Rule.translations_agree`: they are the same.
-/

namespace CloudNet

open Text (signedDecimal)

namespace Rule

/-- The ports of a rule in a legacy line: two with a hyphen between them, or one if the rule has no
second one. -/
def legacyPorts (r : Rule) : String :=
  if r.toPort = 0 then signedDecimal r.fromPort.toInt
  else signedDecimal r.fromPort.toInt ++ "-" ++ signedDecimal r.toPort.toInt

/-- The legacy line for the protocol, the ports and the source of a rule. -/
def legacyLine (r : Rule) : String :=
  Text.joinWith " " ["-P", signedDecimal r.protocol.toInt, "-p", r.legacyPorts, "-s", r.cidr]

/-- The clause for a protocol that has ports. -/
def protocolClause (r : Rule) : String :=
  if r.protocol = protocolTcp then "-p tcp -m tcp" else "-p udp -m udp"

/-- The clause for a source, unless it is any address. -/
def sourceClauses (r : Rule) : List String := if r.cidr = anyCidr then [] else ["-s " ++ r.cidr]

/-- The ports of a rule in a match expression: two with a colon between them, or one if the second
one is missing or the same. -/
def portRange (r : Rule) : String :=
  if r.toPort = 0 ∨ r.toPort = r.fromPort then signedDecimal r.fromPort.toInt
  else signedDecimal r.fromPort.toInt ++ ":" ++ signedDecimal r.toPort.toInt

/-- What the legacy line says. -/
def toLegacy (r : Rule) : LegacyRule where
  protocol := some r.protocol
  portRange := r.portRange
  sourceCidr := if r.cidr = anyCidr then "" else r.cidr

/-- The clause for the ports of a rule. -/
def portClause (r : Rule) : String := "--dport " ++ r.portRange

/-- The rule is about ports from a source: its protocol is one with ports, its ports are in order
unless the second one is missing, and its source is one word. -/
structure IsPlain (r : Rule) : Prop where
  protocol : r.protocol = protocolTcp ∨ r.protocol = protocolUdp
  fromPort : 0 < r.fromPort
  toPort : r.toPort = 0 ∨ r.fromPort ≤ r.toPort
  cidr : Text.IsWord r.cidr.toList

end Rule

/-! ## Ports -/

/-- A port above zero is written without a sign, so the hyphen behind it is the first one. -/
theorem notMem_hyphen_of_pos {n : Int32} (h : 0 < n) : '-' ∉ (signedDecimal n.toInt).toList := by
  have hpos : ¬ n.toInt < 0 := Int.not_lt.mpr (Int.le_of_lt (Int32.lt_iff_toInt_lt.mp h))
  rw [Text.toList_signedDecimal, if_neg hpos, List.nil_append]
  exact fun hmem => absurd (Text.isDigit_of_mem_decimal hmem) (by decide)

/-- **A legacy line names the ports of the rule.** -/
theorem LegacyRule.portRangeOf_legacyPorts {r : Rule} (h : 0 < r.fromPort) :
    portRangeOf r.legacyPorts.toList = r.portRange := by
  unfold portRangeOf Rule.legacyPorts Rule.portRange
  by_cases hone : r.toPort = 0
  · rw [if_pos hone, if_pos (.inl hone), Text.cutAt_eq_none_iff.mpr (notMem_hyphen_of_pos h)]
    exact String.ofList_toList
  · have htwo : (signedDecimal r.fromPort.toInt ++ "-" ++ signedDecimal r.toPort.toInt).toList =
        (signedDecimal r.fromPort.toInt).toList ++ '-' ::
          (signedDecimal r.toPort.toInt).toList := by
      simp only [String.toList_append, List.append_assoc]
      rfl
    rw [if_neg hone, htwo, Text.cutAt_append (notMem_hyphen_of_pos h)]
    dsimp only
    by_cases hsame : r.toPort = r.fromPort
    · rw [if_pos (by rw [hsame]), if_pos (.inr hsame), String.ofList_toList]
    · have hdiffer : (signedDecimal r.fromPort.toInt).toList ≠
          (signedDecimal r.toPort.toInt).toList := fun heq =>
        hsame (Int32.toInt_inj.mp (Text.signedDecimal_injective heq)).symm
      rw [if_neg hdiffer, if_neg (not_or.mpr ⟨hone, hsame⟩), ← String.toList_inj]
      simp only [String.toList_append, String.toList_ofList, List.append_assoc]
      rfl

/-- **The clause for the ports of a structured rule** names them as well. -/
theorem PortMatch.clause?_ofPorts {r : Rule} (hfirst : 0 < r.fromPort)
    (hlast : r.toPort = 0 ∨ r.fromPort ≤ r.toPort) :
    (ofPorts r.fromPort r.toPort).clause? = some r.portClause := by
  have hne : r.fromPort ≠ 0 := (Int32.ne_of_lt hfirst).symm
  unfold ofPorts Rule.portClause Rule.portRange
  rw [if_neg hne]
  by_cases hone : r.toPort = 0 ∨ r.toPort = r.fromPort
  · have hnot : ¬ (r.toPort ≠ 0 ∧ r.toPort > r.fromPort) := by
      rintro ⟨hzero, hgt⟩
      rcases hone with h | h
      · exact hzero h
      · exact Int32.lt_irrefl (h ▸ hgt)
    rw [if_neg hnot, if_pos hone]
    rfl
  · obtain ⟨hzero, hother⟩ := not_or.mp hone
    have hgt : r.toPort > r.fromPort :=
      Int32.lt_of_le_of_ne (hlast.resolve_left hzero) (Ne.symm hother)
    rw [if_pos ⟨hzero, hgt⟩, if_neg hone]
    simp only [clause?, String.append_assoc]
    rfl

/-! ## The two expressions -/

/-- **The expression of a legacy rule about ports**, clause by clause. -/
theorem LegacyRule.toMatch_of_ports {l : LegacyRule} {number : Int32} {name : String}
    (hprotocol : l.protocol = some number) (hname : protocolName? number = some name)
    (hnumber : number = protocolTcp ∨ number = protocolUdp) (hports : l.portRange ≠ "") :
    l.toMatch = .ok (Text.joinWith " " (s!"-p {name} -m {name}" ::
      ((if l.sourceCidr = "" then [] else ["-s " ++ l.sourceCidr]) ++
        ["--dport " ++ l.portRange]))) := by
  have hhas : (number == protocolTcp || number == protocolUdp) = true := by
    simpa only [Bool.or_eq_true, beq_iff_eq] using hnumber
  have hicmp : (number == protocolIcmp) = false := by
    rcases hnumber with rfl | rfl <;> decide
  have hsource : (if (l.sourceCidr != "") = true then [s!"-s {l.sourceCidr}"] else []) =
      if l.sourceCidr = "" then [] else ["-s " ++ l.sourceCidr] := by
    simp only [bne_iff_ne, ite_not]
    rfl
  have hrange : (l.portRange != "") = true := bne_iff_ne.mpr hports
  unfold toMatch
  simp only [hprotocol, hname, hhas, hicmp, hsource, hrange, Bool.and_true, Bool.false_and, if_true,
    Bool.false_eq_true, if_false, List.append_nil, List.cons_append]
  rfl

namespace Rule

variable {r : Rule}

theorem isWord_signedDecimal (z : Int) : Text.IsWord (signedDecimal z).toList :=
  ⟨Text.signedDecimal_ne_nil z, fun _ => Text.not_isBlank_of_mem_signedDecimal⟩

/-- The ports of a legacy line are one word. -/
theorem isWord_legacyPorts (r : Rule) : Text.IsWord r.legacyPorts.toList := by
  unfold legacyPorts
  split
  · exact isWord_signedDecimal _
  · obtain ⟨hne, hfirst⟩ := isWord_signedDecimal r.fromPort.toInt
    have hhyphen : Text.IsWord "-".toList := by decide
    rw [String.toList_append, String.toList_append]
    refine ⟨List.append_ne_nil_of_left_ne_nil (List.append_ne_nil_of_left_ne_nil hne _) _, ?_⟩
    rw [List.forall_mem_append, List.forall_mem_append]
    exact ⟨⟨hfirst, hhyphen.not_isBlank⟩, (isWord_signedDecimal _).not_isBlank⟩

/-- The ports of a rule are written in some way. -/
theorem portRange_ne_empty (r : Rule) : r.portRange ≠ "" := by
  rw [Ne, ← String.toList_eq_nil_iff]
  unfold portRange
  split
  · exact Text.signedDecimal_ne_nil _
  · rw [String.toList_append]
    exact List.append_ne_nil_of_right_ne_nil _ (Text.signedDecimal_ne_nil _)

/-- Both kinds of rule have the same source, which is empty for any address. -/
theorem source_eq_toLegacy (h : r.IsPlain) : r.source none = r.toLegacy.sourceCidr := by
  have htrim : Text.trim r.cidr = r.cidr := by
    unfold Text.trim
    rw [Text.trimChars_of_no_blank h.cidr.not_isBlank, String.ofList_toList]
  unfold source toLegacy
  rw [Option.getD_none, htrim]

/-- That source as a clause, unless it is any address. -/
theorem clauses_of_source (h : r.IsPlain) :
    (if r.toLegacy.sourceCidr = "" then [] else ["-s " ++ r.toLegacy.sourceCidr]) =
      r.sourceClauses := by
  have hne : r.cidr ≠ "" := mt String.toList_eq_nil_iff.mpr h.cidr.ne_nil
  unfold toLegacy sourceClauses
  dsimp only
  by_cases hany : r.cidr = anyCidr
  · rw [if_pos hany, if_pos hany, if_pos rfl]
  · rw [if_neg hany, if_neg hany, if_neg hne]

/-- **A legacy line is read as what it says.** -/
theorem ofText_legacyLine (h : r.IsPlain) :
    LegacyRule.ofText r.legacyLine = .ok r.toLegacy := by
  have hline : Text.OnLine _ r.legacyLine.toList := Text.onLine_joinWith _ (by
    intro part hpart
    simp only [List.mem_cons, List.not_mem_nil, or_false] at hpart
    rcases hpart with rfl | rfl | rfl | rfl | rfl | rfl
    · decide
    · exact isWord_signedDecimal _
    · decide
    · exact isWord_legacyPorts r
    · decide
    · exact h.cidr)
  have hread := LegacyRule.ofText_of_onLine
    (.pair .protocol _ (.pair .ports _ (.pair .source _ .nil))) hline
  rw [hread]
  simp only [LegacyRule.fill, List.foldlM_cons, List.foldlM_nil, LegacyRule.set,
    Text.int32?_signedDecimal, LegacyRule.portRangeOf_legacyPorts h.fromPort,
    String.ofList_toList]
  rfl

/-- **The expression of a legacy line** has the source behind the protocol. -/
theorem convert_legacyLine (h : r.IsPlain) : LegacyRule.convert r.legacyLine =
    .ok (Text.joinWith " " (r.protocolClause :: (r.sourceClauses ++ [r.portClause]))) := by
  have hname : ∃ name, LegacyRule.protocolName? r.protocol = some name ∧
      s!"-p {name} -m {name}" = r.protocolClause := by
    unfold protocolClause
    rcases h.protocol with hp | hp
    · exact ⟨"tcp", by rw [hp]; decide +kernel, by rw [if_pos hp]; rfl⟩
    · exact ⟨"udp", by rw [hp]; decide +kernel, by rw [hp]; rfl⟩
  obtain ⟨name, hname, hclause⟩ := hname
  have hmatch := LegacyRule.toMatch_of_ports (l := r.toLegacy) rfl hname h.protocol
    r.portRange_ne_empty
  unfold LegacyRule.convert
  rw [ofText_legacyLine h]
  refine hmatch.trans ?_
  rw [hclause, clauses_of_source h]
  rfl

/-- **The expression of a structured rule** has the source in front. -/
theorem compile_of_ports (h : r.IsPlain) : r.compile none .none =
    .ok (Text.joinWith " " (r.sourceClauses ++ [r.protocolClause, r.portClause])) := by
  have hports := PortMatch.clause?_ofPorts h.fromPort h.toPort
  have hprotocol : ∃ p, ProtocolMatch.ofRule r = .ok p ∧
      p.clauses = [r.protocolClause, r.portClause] := by
    unfold protocolClause
    rcases h.protocol with hp | hp
    · refine ⟨_, ProtocolMatch.ofRule_tcp hp, ?_⟩
      rw [ProtocolMatch.clauses, hports, if_pos hp]
      rfl
    · refine ⟨_, ProtocolMatch.ofRule_udp hp, ?_⟩
      rw [ProtocolMatch.clauses, hports, hp]
      rfl
  obtain ⟨p, hp, hclauses⟩ := hprotocol
  have hnone : RuleFlag.none.clause?.toList = [] := rfl
  rw [compile_eq, hp, source_eq_toLegacy h, clauses_of_source h, Except.map, hclauses, hnone,
    List.append_nil]

/-- **Both ways to write a rule say the same.** A rule about ports from a source and its legacy line
have expressions of the same clauses, which differ in where the source stands. -/
theorem translations_agree (h : r.IsPlain) :
    ∃ legacy structured : List String,
      LegacyRule.convert r.legacyLine = .ok (Text.joinWith " " legacy) ∧
      r.compile none .none = .ok (Text.joinWith " " structured) ∧
      legacy = r.protocolClause :: (r.sourceClauses ++ [r.portClause]) ∧
      structured = r.sourceClauses ++ [r.protocolClause, r.portClause] ∧
      legacy.Perm structured :=
  ⟨_, _, convert_legacyLine h, compile_of_ports h, rfl, rfl, List.perm_middle.symm⟩

/-- Logins from one block, and logins from anywhere without a second port: the legacy lines of both
rules, and the two expressions of each. -/
theorem logins_agree :
    Sample.login.legacyLine = "-P 6 -p 22-22 -s 10.0.0.0/24" ∧
    LegacyRule.convert Sample.login.legacyLine = .ok "-p tcp -m tcp -s 10.0.0.0/24 --dport 22" ∧
    Sample.login.compile none .none = .ok "-s 10.0.0.0/24 -p tcp -m tcp --dport 22" ∧
    Sample.openLogin.legacyLine = "-P 6 -p 22 -s 0.0.0.0/0" ∧
    LegacyRule.convert Sample.openLogin.legacyLine = .ok "-p tcp -m tcp --dport 22" ∧
    Sample.openLogin.compile none .none = .ok "-p tcp -m tcp --dport 22" := by
  have hlogin : Sample.login.IsPlain := ⟨.inl rfl, by decide, .inr (by decide), by decide +kernel⟩
  have hopen : Sample.openLogin.IsPlain := ⟨.inl rfl, by decide, .inl rfl, by decide +kernel⟩
  obtain ⟨_, _, hlegacy, hstructured, rfl, rfl, -⟩ := translations_agree hlogin
  obtain ⟨_, _, hlegacy', hstructured', rfl, rfl, -⟩ := translations_agree hopen
  exact ⟨by decide +kernel, hlegacy.trans (by decide +kernel),
    hstructured.trans (by decide +kernel), by decide +kernel, hlegacy'.trans (by decide +kernel),
    hstructured'.trans (by decide +kernel)⟩

end Rule

end CloudNet
