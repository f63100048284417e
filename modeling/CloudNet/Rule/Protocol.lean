import CloudNet.Bisection

/-!
# Protocol numbers

The IP protocols that have a name in match expressions, sorted by number.
-/

namespace CloudNet.Protocol

/-- The protocols with a name, in ascending order of number. -/
def registry : List (Int32 × String) :=
  [(0, "ip"), (1, "icmp"), (2, "igmp"), (4, "ipencap"), (6, "tcp"), (8, "egp"), (17, "udp"),
    (41, "ipv6"), (47, "gre"), (50, "esp"), (51, "ah"), (58, "ipv6-icmp"), (89, "ospf"),
    (94, "ipip"), (112, "vrrp"), (132, "sctp")]

/-- The name of a protocol number, if it has one. -/
def name? (number : Int32) : Option String :=
  (Bisection.search (fun entry => compare entry.1 number) registry).map Prod.snd

/-- The number fits the protocol field of a packet. -/
def isValid (number : Int32) : Bool := 0 ≤ number && number ≤ 255

end CloudNet.Protocol
