import CloudNet.Model.Network

/-!
# Looking entities up by name

`findFrom` looks a name up from a given position on and also answers where to resume: just behind
the match, or where it started if there is none. Instances are searched by bisection, which needs
them in order of name.

* `indexFrom?_eq_none_iff`: nothing is found exactly if no entity from the position on has the name.
* `mem_positionsWhere`: which positions are listed for a condition.
* `findFrom_of_none`: without a match the position to resume from stays.
-/

namespace CloudNet.Lookup

variable {α : Type}

/-- The first position from `start` on at which an entity has the name. -/
def indexFrom? (key : α → String) (name : String) (xs : List α) (start : Nat) : Option Nat :=
  ((xs.drop start).findIdx? fun x => key x = name).map (· + start)

/-- The first entity of the name from position `start` on, and the position to resume from. -/
def findFrom (key : α → String) (name : String) (xs : List α) (start : Nat) : Option α × Nat :=
  match indexFrom? key name xs start with
  | some i => (xs[i]?, i + 1)
  | none => (none, start)

/-- The first position at which an entity has the name. -/
def index? (key : α → String) (name : String) (xs : List α) : Option Nat :=
  indexFrom? key name xs 0

end CloudNet.Lookup

namespace CloudNet

/-- The members of a list at the given positions; positions outside the list are passed over. -/
def atPositions {α : Type} (xs : List α) (positions : List Nat) : List α :=
  positions.filterMap fun i => xs[i]?

/-- The positions of the elements that satisfy `p`, in ascending order. -/
def positionsWhere {α : Type} (p : α → Bool) (xs : List α) : List Nat :=
  (xs.zipIdx.filter fun x => p x.1).map Prod.snd

namespace NetworkModel

/-- The VPC of a name, from a position on. -/
def vpcFrom (m : NetworkModel) (name : String) (start : Nat) : Option Vpc × Nat :=
  Lookup.findFrom Vpc.name name m.vpcs start

/-- The security group of a name, from a position on. -/
def secgroupFrom (m : NetworkModel) (name : String) (start : Nat) : Option SecurityGroup × Nat :=
  Lookup.findFrom SecurityGroup.name name m.secgroups start

/-- The DHCP option set of a name, from a position on. -/
def dhcpOptionSetFrom (m : NetworkModel) (name : String) (start : Nat) :
    Option DhcpOptionSet × Nat :=
  Lookup.findFrom DhcpOptionSet.name name m.dhcpOptionSets start

/-- The interface of a name among those of a subnet, from a position in the subnet's list on. -/
def interfaceFrom (m : NetworkModel) (s : VpcSubnet) (name : String) (start : Nat) :
    Option Instance × Nat :=
  Lookup.findFrom Instance.name name (atPositions m.interfaces s.interfaces) start

/-- The first security group of a name. -/
def secgroup? (m : NetworkModel) (name : String) : Option SecurityGroup :=
  (m.secgroupFrom name 0).1

/-- The instance of a name, if there is one. The instances have to be known to be in order. -/
def findInstance (m : NetworkModel) (name : String) : Except Fault (Option Instance) :=
  if m.sortedInstances then
    .ok (Bisection.search (fun i => compare i.name name) m.instances)
  else .error (.contract .unsorted)

/-- The interfaces of an instance other than its primary one. -/
def secondaryInterfaces (m : NetworkModel) (name : String) : Except Fault (List Instance) := do
  match ← m.findInstance name with
  | none => return []
  | some i => return (atPositions m.interfaces i.interfaces).filter (·.deviceIndex != 0)

end NetworkModel

namespace Vpc

/-- The subnet of a name, from a position on. -/
def subnetFrom (v : Vpc) (name : String) (start : Nat) : Option VpcSubnet × Nat :=
  Lookup.findFrom VpcSubnet.name name v.subnets start

/-- The NAT gateway of a name, from a position on. -/
def natGatewayFrom (v : Vpc) (name : String) (start : Nat) : Option NatGateway × Nat :=
  Lookup.findFrom NatGateway.name name v.natGateways start

/-- The route table of a name, from a position on. -/
def routeTableFrom (v : Vpc) (name : String) (start : Nat) : Option RouteTable × Nat :=
  Lookup.findFrom RouteTable.name name v.routeTables start

/-- The access list of a name, from a position on. -/
def networkAclFrom (v : Vpc) (name : String) (start : Nat) : Option NetworkAcl × Nat :=
  Lookup.findFrom NetworkAcl.name name v.networkAcls start

end Vpc

/-! ## Laws -/

namespace Lookup

variable {α : Type}

/-- Nothing is found exactly if no entity from the position on has the name. -/
theorem indexFrom?_eq_none_iff {key : α → String} {name : String} {xs : List α} {start : Nat} :
    indexFrom? key name xs start = none ↔ ∀ x ∈ xs.drop start, key x ≠ name := by
  simp [indexFrom?]

/-- Without a match the position to resume from stays. -/
theorem findFrom_of_none {key : α → String} {name : String} {xs : List α} {start : Nat}
    (h : indexFrom? key name xs start = none) :
    findFrom key name xs start = (none, start) := by
  simp [findFrom, h]

end Lookup

/-- A position is listed exactly if the element there satisfies `p`. -/
theorem mem_positionsWhere {α : Type} {p : α → Bool} {xs : List α} {i : Nat} :
    i ∈ positionsWhere p xs ↔ ∃ x, xs[i]? = some x ∧ p x = true := by
  simp only [positionsWhere, List.mem_map, List.mem_filter, Prod.exists,
    List.mk_mem_zipIdx_iff_getElem?]
  constructor
  · rintro ⟨x, j, ⟨h, hp⟩, rfl⟩
    exact ⟨x, h, hp⟩
  · rintro ⟨x, h, hp⟩
    exact ⟨x, i, ⟨h, hp⟩, rfl⟩

end CloudNet
