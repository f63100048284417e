import CloudNet.Digest.Base64
import CloudNet.Digest.Sha256
import CloudNet.Model.Network

/-!
# Identity of hosts and names of chains

Which cluster and node this host is, by its own addresses: a cluster is recognized by its controller
or by one of its nodes, and of several the first one counts. And the packet filter's name for the
chain of a security group, which is short, so it holds a hash of the group's account and name.
-/

namespace CloudNet

/-- The addresses of this host. -/
structure LocalAddresses where
  addresses : List Ipv4 := []
  deriving DecidableEq, Repr

namespace LocalAddresses

/-- The addresses in a list of texts. Texts that are none are left out with a notice. -/
def ofTexts (texts : List String) : Noted LocalAddresses :=
  { value := ⟨texts.filterMap Ipv4.ofText?⟩
    notices := (texts.filter fun s => (Ipv4.ofText? s).isNone).map .badLocalAddress }

/-- The address is one of this host. -/
def has (l : LocalAddresses) (a : Ipv4) : Bool := l.addresses.contains a

/-- The text is an address of this host. -/
def hasText (l : LocalAddresses) (s : String) : Bool := (Ipv4.ofText? s).any l.has

end LocalAddresses

/-- The node is this host. -/
def Node.isLocal (n : Node) (l : LocalAddresses) : Bool := l.hasText n.name

/-- The cluster is the one of this host: its controller, asked for by its dotted quad, or one of its
nodes is. -/
def Cluster.isLocal (c : Cluster) (l : LocalAddresses) : Bool :=
  (c.controllerIp != 0 && l.hasText c.controllerIp.dotted) || c.nodes.any (·.isLocal l)

/-- The first cluster that is the one of this host. -/
def NetworkModel.selfCluster? (m : NetworkModel) (l : LocalAddresses) : Option Cluster :=
  m.clusters.find? (·.isLocal l)

/-- The first node that is this host. -/
def NetworkModel.selfNode? (m : NetworkModel) (l : LocalAddresses) : Option Node :=
  (m.clusters.flatMap Cluster.nodes).find? (·.isLocal l)

/-! ## Chain names -/

namespace Chain

/-- What every chain name starts with. -/
def leader : String := "EU_"

/-- The longest chain name, in bytes. -/
def nameLimit : Nat := 28

/-- The short hash of a text: as much of its digest as fits a chain name. -/
def shortHash (s : String) : String :=
  String.ofList <| (Base64.encode (Sha256.digest s.toUTF8.data.toList)).take
    (nameLimit - leader.length)

/-- What is hashed for a security group. -/
def hashInput (g : SecurityGroup) : String := g.accountId ++ "-" ++ g.name

/-- The name of a security group's chain, with hashes by `hash`. -/
def name (hash : String → String) (g : SecurityGroup) : Noted (Except Fault String) := do
  let h := hash (hashInput g)
  if h = "" then
    Noted.tell (.noChainName g.name)
    return .error (.conversion (.emptyChainHash g.name))
  let chain := leader ++ h
  if chain.utf8ByteSize > nameLimit then
    return .error (.tooLong s!"chain name of {g.name}" chain.utf8ByteSize nameLimit)
  return .ok chain

end Chain

end CloudNet
