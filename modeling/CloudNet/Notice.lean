import CloudNet.Fault

/-!
# Notices

What an operation remarks on without failing. A `Noted` value carries the notices that were made
while it was computed, oldest first; they never influence the value (`value_bind`), so laws about
values can leave them aside.
-/

namespace CloudNet

/-- How much a notice matters. -/
inductive Severity where
  | warning | error
  deriving DecidableEq, Repr

namespace Severity

/-- The severity as the first word of a notice's line. -/
def label : Severity → String
  | warning => "WARN"
  | error => "ERROR"

end Severity

/-- Something remarkable about the input or the model. -/
inductive Notice where
  | badHostnameAddress (address : String)
  | malformedHostname (entry : String)
  | badLocalAddress (address : String)
  | badPath (cause : PathError)
  | attributeInNodeSet (path : String)
  | openRange (entry : String)
  | badRange (first last entry : String)
  | rangesRejected (route : Route)
  | noGateways
  | midoCount (count : Nat)
  | unnamedDeclaration (kind : String)
  | unnamedInstance
  | badMac (name mac : String)
  | badRuleCidr (cidr : String)
  | ruleSkipped (rule : String) (cause : RuleError)
  | noRouteTable (table subnet : String)
  | noDhcpOptionSet (vpc set : String)
  | noNetworkAcl (acl subnet : String)
  | sectionFailed (part : Section) (cause : Fault)
  | invalidSubnet (position : Nat)
  | noNodes (cluster : String)
  | noMac (kind : EntityKind) (name : String)
  | modelKept (version : String) (cause : Fault)
  | noSuchCluster (name : String)
  | noChainName (group : String)
  | notInAnyCluster
  deriving DecidableEq

namespace Notice

/-- How much the notice matters. -/
def severity : Notice → Severity
  | badPath _ | attributeInNodeSet _ | openRange _ | badRange .. | noGateways | unnamedInstance
  | sectionFailed .. | modelKept .. | noChainName _ => .error
  | _ => .warning

/-- The notice in words. -/
def message : Notice → String
  | badHostnameAddress a => s!"skipping hostname entry with bad address '{a}'"
  | malformedHostname e => s!"ignoring malformed hostname entry '{e}'"
  | badLocalAddress a => s!"ignoring invalid local address '{a}'"
  | badPath cause => s!"bad document path: {cause.message}"
  | attributeInNodeSet path => s!"node set expression '{path}' ends in an attribute"
  | openRange e => s!"empty end range from input '{e}': check network config"
  | badRange first last e =>
    s!"end range '{last}' is smaller than start range '{first}' from input '{e}': " ++
      "check network config"
  | rangesRejected route => s!"some entries of '{route.toPath.render}' were rejected"
  | noGateways => "Invalid mido gateway(s) detected. Check network configuration."
  | midoCount n => s!"expected exactly one mido property, found {n}"
  | unnamedDeclaration kind => s!"{kind} declared without a name"
  | unnamedInstance => "instance element without a name"
  | badMac name mac => s!"{name}: cannot parse mac address '{mac}'"
  | badRuleCidr cidr => s!"cannot split rule cidr '{cidr}'"
  | ruleSkipped rule cause =>
    s!"skipping legacy rule '{rule}': {(Fault.conversion cause).message}"
  | noRouteTable table subnet => s!"Failed to find route table {table} for {subnet}"
  | noDhcpOptionSet vpc set => s!"vpc {vpc}: dhcp option set {set} not found"
  | noNetworkAcl acl subnet => s!"could not find network acl {acl} for {subnet}"
  | sectionFailed part cause => s!"failed to populate {part.label}: {cause.message}"
  | invalidSubnet i => s!"invalid subnets set at idx {i}"
  | noNodes cluster => s!"cluster {cluster}: no nodes set"
  | noMac kind name => s!"{kind.label} {name}: no macAddress"
  | modelKept version cause => s!"keeping previous model (version {version}): {cause.message}"
  | noSuchCluster name => s!"nothing to do, no matching cluster named '{name}' found"
  | noChainName group =>
    s!"could not create iptables compatible chain name for sec. group ({group})"
  | notInAnyCluster => "this host is not part of any cluster in the document"

/-- The notice as one line: severity, then words. -/
def line (n : Notice) : String := n.severity.label ++ " " ++ n.message

end Notice

/-- A value together with the notices made on the way to it, oldest first. -/
structure Noted (α : Type) where
  value : α
  notices : List Notice := []

namespace Noted

variable {α β : Type}

/-- A value without notices. -/
protected def pure (a : α) : Noted α := ⟨a, []⟩

/-- Go on with the value; later notices follow the earlier ones. -/
protected def bind (x : Noted α) (f : α → Noted β) : Noted β :=
  let y := f x.value
  ⟨y.value, x.notices ++ y.notices⟩

instance : Monad Noted where
  pure := Noted.pure
  bind := Noted.bind

/-- Make one notice. -/
def tell (n : Notice) : Noted Unit := ⟨(), [n]⟩

/-- Make one notice if the condition holds. -/
def tellIf (condition : Bool) (n : Notice) : Noted Unit := ⟨(), if condition then [n] else []⟩

/-- Apply a function to each element, with the notices in the order of the elements. -/
def mapList (f : α → Noted β) (xs : List α) : Noted (List β) :=
  let ys := xs.map f
  ⟨ys.map value, ys.flatMap notices⟩

/-! ## Laws -/

@[simp] theorem value_pure (a : α) : (pure a : Noted α).value = a := rfl

@[simp] theorem value_bind (x : Noted α) (f : α → Noted β) :
    (x >>= f).value = (f x.value).value := rfl

@[simp] theorem value_map (f : α → β) (x : Noted α) : (f <$> x).value = f x.value := rfl

@[simp] theorem notices_pure (a : α) : (pure a : Noted α).notices = [] := rfl

@[simp] theorem notices_bind (x : Noted α) (f : α → Noted β) :
    (x >>= f).notices = x.notices ++ (f x.value).notices := rfl

@[simp] theorem value_mapList (f : α → Noted β) (xs : List α) :
    (mapList f xs).value = xs.map fun x => (f x).value := by
  simp [mapList, Function.comp_def]

@[simp] theorem notices_mapList (f : α → Noted β) (xs : List α) :
    (mapList f xs).notices = xs.flatMap fun x => (f x).notices := by
  simp [mapList, List.flatMap_map]

@[ext] theorem ext {x y : Noted α} (hv : x.value = y.value) (hn : x.notices = y.notices) :
    x = y := by
  cases x
  cases y
  simp_all

instance : LawfulMonad Noted :=
  LawfulMonad.mk' Noted
    (fun x => Noted.ext rfl (by simp [Functor.map, Noted.bind, Noted.pure]))
    (fun a f => Noted.ext rfl (by simp [bind, pure, Noted.bind, Noted.pure]))
    (fun x f g => Noted.ext rfl (by simp [bind, Noted.bind]))

end Noted

end CloudNet
