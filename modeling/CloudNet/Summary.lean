import CloudNet.Model.Network

/-!
# Summaries

A model as a few rows for a terminal: mode and name servers, how many entities there are of each
kind, and a row for each cluster and each VPC. Cells are quoted and set to the right of their
columns; a cell that is too long pushes the rest of its row out.
-/

namespace CloudNet.Summary

/-- The widths of the columns, in characters. -/
def columns : List Nat := [8, 16, 10]

/-- The text with blanks before it, so that it has at least `width` characters. -/
def padLeft (width : Nat) (s : String) : String :=
  String.ofList (List.replicate (width - s.length) ' ') ++ s

/-- A row of at most three cells. -/
def row (cells : List String) : String :=
  Text.joinWith "," ((cells.zip columns).map fun (cell, width) =>
    padLeft width ("\"" ++ cell ++ "\""))

/-- How many entities there are of each kind. -/
def counts (m : NetworkModel) : List (String × Nat) :=
  [ ("clusters", m.clusters.length),
    ("instances", m.instances.length),
    ("ifaces", m.interfaces.length),
    ("secgroups", m.secgroups.length),
    ("vpcs", m.vpcs.length),
    ("igws", m.internetGateways.length),
    ("dhcpopts", m.dhcpOptionSets.length) ]

/-- The row of a cluster: name, controller, and numbers of nodes and placements. -/
def clusterRow (c : Cluster) : String :=
  row [c.name, s!"{c.controllerIp.dotted}_cc", s!"{c.nodes.length}/{c.instanceCount}_vms"]

/-- The row of a VPC: name, address block, and number of subnets. -/
def vpcRow (v : Vpc) : String := row [v.name, v.cidr, s!"{v.subnets.length}_subnets"]

/-- The rows of a model. -/
def lines (m : NetworkModel) : List String :=
  [ row ["mode", m.mode, s!"v{m.version}"],
    row ["dns", Text.joinWith " " (m.dnsServers.map Ipv4.dotted)] ] ++
  (counts m).map (fun (kind, n) => row [kind, Text.decimal n]) ++
  m.clusters.map clusterRow ++ m.vpcs.map vpcRow

end CloudNet.Summary
