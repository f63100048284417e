import CloudNet.Bisection
import CloudNet.Notice

/-!
# Hostname cache

Hostnames by address, kept in ascending order of address and searched by bisection.
-/

namespace CloudNet

/-- The hostname of one address. -/
structure Hostname where
  ip : Ipv4 := 0
  hostname : String := ""
  deriving DecidableEq, Repr, Inhabited

/-- Hostnames in ascending order of address. -/
structure HostnameCache where
  entries : List Hostname := []
  deriving DecidableEq, Repr, Inhabited

namespace HostnameCache

/-- The entry of a pair of address and hostname, or the notice that the address is none. -/
def entry (pair : String × String) : Except Notice Hostname :=
  match Ipv4.ofText? pair.1 with
  | some ip => .ok ⟨ip, pair.2⟩
  | none => .error (.badHostnameAddress pair.1)

/-- The cache of pairs of address and hostname. Pairs whose address is none are left out with a
notice; pairs of one address keep their order. -/
def ofPairs (pairs : List (String × String)) : Noted HostnameCache :=
  let outcomes := pairs.map entry
  { value :=
      ⟨(outcomes.filterMap Except.toOption).mergeSort fun a b => a.ip ≤ b.ip⟩
    notices := outcomes.filterMap fun
      | .ok _ => none
      | .error notice => some notice }

/-- The hostname of an address given as text; a text that is no address has none. -/
def lookup (cache : HostnameCache) (address : String) : Option String :=
  (Ipv4.ofText? address).bind fun ip =>
    (Bisection.search (fun h => compare h.ip ip) cache.entries).map Hostname.hostname

/-! ## Laws -/

/-- The entries of a cache are in ascending order of address. -/
theorem pairwise_ofPairs (pairs : List (String × String)) :
    (ofPairs pairs).value.entries.Pairwise fun a b => a.ip ≤ b.ip := by
  have h := @List.pairwise_mergeSort _ (fun a b : Hostname => decide (a.ip ≤ b.ip))
    (fun a b c hab hbc => by
      simp only [decide_eq_true_eq] at *
      exact UInt32.le_trans hab hbc)
    (fun a b => by simpa using UInt32.le_total a.ip b.ip)
    ((pairs.map entry).filterMap Except.toOption)
  exact h.imp fun h => by simpa using h

end HostnameCache

end CloudNet
