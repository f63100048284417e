import CloudNet.Model.SecurityGroup
import CloudNet.Notice
import CloudNet.Rule.Protocol

/-!
# Legacy rules

A legacy rule is a line of flags with values, such as `-P 6 -p 22-22 -s 10.0.0.0/8`. Of flags that
occur twice the last one counts, unknown words are passed over, and a flag without a value ends the
line. `LegacyRule.toMatch` writes the match expression, the source `0.0.0.0/0` left implicit.
-/

namespace CloudNet

/-- The source block that stands for any address. -/
def anyCidr : String := "0.0.0.0/0"

/-- What a legacy rule says. -/
structure LegacyRule where
  protocol : Option Int32 := none
  /-- A port, or two ports with a colon between them; empty for any. -/
  portRange : String := ""
  /-- The source block; empty for any. -/
  sourceCidr : String := ""
  icmpAny : Bool := false
  sourceGroup : String := ""
  sourceOwner : String := ""
  deriving DecidableEq, Repr, Inhabited

namespace LegacyRule

/-- The flags that take a value. -/
inductive Flag where
  | protocol | ports | source | icmp | group | owner
  deriving DecidableEq, Repr

/-- The flag that a word is. -/
def Flag.ofWord? (word : List Char) : Option Flag :=
  match word with
  | ['-', 'P'] => some .protocol
  | ['-', 'p'] => some .ports
  | ['-', 's'] => some .source
  | ['-', 't'] => some .icmp
  | ['-', 'o'] => some .group
  | ['-', 'u'] => some .owner
  | _ => none

/-- A range `a-b` as `a:b`, or as `a` where both ends are the same. -/
def portRangeOf (s : List Char) : String :=
  match Text.cutAt '-' s with
  | some (least, greatest) =>
    String.ofList (if least = greatest then least else least ++ ':' :: greatest)
  | none => String.ofList s

/-- The rule with the value of one flag filled in. -/
def set (r : LegacyRule) (flag : Flag) (value : List Char) : Except RuleError LegacyRule :=
  let s := String.ofList value
  match flag with
  | .protocol =>
    match Text.int32? value with
    | some n => .ok { r with protocol := some n }
    | none => .error (.protocolNotNumber s)
  | .ports => .ok { r with portRange := portRangeOf value }
  | .source => .ok { r with sourceCidr := if s = anyCidr then "" else s }
  | .icmp => .ok { r with icmpAny := true }
  | .group => .ok { r with sourceGroup := s }
  | .owner => .ok { r with sourceOwner := s }

/-- The rule with the flags of a line filled in, word by word. -/
def ofWords (r : LegacyRule) : List (List Char) → Except RuleError LegacyRule
  | [] => .ok r
  | word :: rest =>
    match Flag.ofWord? word, rest with
    | none, rest => ofWords r rest
    | some _, [] => .ok r
    | some flag, value :: rest => do ofWords (← r.set flag value) rest

/-- The first line of a text. -/
def firstLine (s : List Char) : List Char := s.takeWhile (· != '\n')

/-- Read the first line of a legacy rule. -/
def ofText (s : String) : Except RuleError LegacyRule :=
  ofWords {} (Text.words (firstLine s.toList))

/-- The protocols that legacy rules can be about, with their names in match expressions. -/
def protocolName? (number : Int32) : Option String :=
  if number ∈ [protocolIcmp, protocolTcp, protocolUdp] then Protocol.name? number else none

/-- The match expression of a rule. -/
def toMatch (r : LegacyRule) : Except RuleError String :=
  match r.protocol with
  | none => .error .noProtocol
  | some number =>
    match protocolName? number with
    | none => .error (.unsupportedProtocol number)
    | some name =>
      let hasPorts := number == protocolTcp || number == protocolUdp
      let clauses :=
        (if hasPorts then [s!"-p {name} -m {name}"] else [s!"-p {name}"]) ++
        (if r.sourceCidr != "" then [s!"-s {r.sourceCidr}"] else []) ++
        (if hasPorts && r.portRange != "" then [s!"--dport {r.portRange}"] else []) ++
        (if number == protocolIcmp && r.icmpAny then ["--icmp-type any"] else [])
      .ok (Text.joinWith " " clauses)

/-- The match expression of a legacy rule. -/
def convert (s : String) : Except RuleError String := do (← ofText s).toMatch

/-- The match expression of a legacy rule; a rule without one is noted. -/
def convertNoted (s : String) : Noted (Except RuleError String) :=
  match convert s with
  | .ok expression => pure (.ok expression)
  | .error cause => do
    Noted.tell (.ruleSkipped s cause)
    return .error cause

@[simp] theorem value_convertNoted (s : String) : (convertNoted s).value = convert s := by
  unfold convertNoted
  split <;> simp_all

end LegacyRule

end CloudNet
