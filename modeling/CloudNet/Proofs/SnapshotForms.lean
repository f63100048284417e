import CloudNet.Proofs.JsonForms
import CloudNet.Snapshot.Model

/-!
# Snapshots keep records

The form of each record keeps it, field by field, with one proviso: positions in lists are read with
64 bits.

* `NetworkModel.positions`: all positions that a model refers to.
* `NetworkModel.keeps_form`: the form of a model keeps it if its positions have 64 bits.
-/

namespace CloudNet

open CloudNet.Json CloudNet.Json.Form CloudNet.Json.Fields

/-- The positions have 64 bits. -/
def Fits (positions : List Nat) : Prop := ∀ n ∈ positions, n < 2 ^ 64

theorem fits_append {a b : List Nat} : Fits (a ++ b) ↔ Fits a ∧ Fits b := List.forall_mem_append

theorem Fits.of_mem {α : Type} {f : α → List Nat} {xs : List α} (h : Fits (xs.flatMap f)) {x : α}
    (hx : x ∈ xs) : Fits (f x) :=
  fun n hn => h n (List.mem_flatMap.2 ⟨x, hx, hn⟩)

/-! ## Clusters, hosts and hostnames -/

theorem Subnet.keeps_form (s : Subnet) : form.Keeps s :=
  (keeps_start Subnet.mk network (keeps_ipv4 _)
    |>.also netmask (keeps_ipv4 _)
    |>.also gateway (keeps_ipv4 _)).toForm (by decide)

theorem ManagedSubnet.keeps_form (s : ManagedSubnet) : form.Keeps s :=
  (keeps_start ManagedSubnet.mk network (keeps_ipv4 _)
    |>.also netmask (keeps_ipv4 _)
    |>.also minVlan (keeps_int32 _)
    |>.also maxVlan (keeps_int32 _)
    |>.also segmentSize (keeps_int32 _)).toForm (by decide)

theorem Node.keeps_form (n : Node) : form.Keeps n :=
  (keeps_start Node.mk name (keeps_string _)
    |>.also instanceNames (keeps_strings _)).toForm (by decide)

theorem Cluster.keeps_form (c : Cluster) : form.Keeps c :=
  (keeps_start Cluster.mk name (keeps_string _)
    |>.also controllerIp (keeps_ipv4 _)
    |>.also macPrefix (keeps_string _)
    |>.also privateSubnet (Subnet.keeps_form _)
    |>.also privateIps (keeps_ipv4s _)
    |>.also nodes (keeps_list fun n _ => n.keeps_form)).toForm (by decide)

theorem Hostname.keeps_form (h : Hostname) : form.Keeps h :=
  (keeps_start Hostname.mk ip (keeps_ipv4 _)
    |>.also hostname (keeps_string _)).toForm (by decide)

theorem HostnameCache.keeps_form (c : HostnameCache) : form.Keeps c :=
  (keeps_start HostnameCache.mk entries (keeps_list fun h _ => h.keeps_form)).toForm (by decide)

/-! ## Instances and security groups -/

/-- The positions that an instance or an interface refers to. -/
def Instance.positions (i : Instance) : List Nat := i.secgroups ++ i.interfaces

theorem Instance.keeps_form (i : Instance) (h : Fits i.positions) : form.Keeps i := by
  simp only [positions, fits_append] at h
  obtain ⟨hsecgroups, hinterfaces⟩ := h
  exact (keeps_start Instance.mk name (keeps_string _)
    |>.also ifname (keeps_string _)
    |>.also instanceName (keeps_string _)
    |>.also accountId (keeps_string _)
    |>.also mac (keeps_mac _)
    |>.also publicIp (keeps_ipv4 _)
    |>.also privateIp (keeps_ipv4 _)
    |>.also vpc (keeps_string _)
    |>.also subnet (keeps_string _)
    |>.also node (keeps_string _)
    |>.also secgroupNames (keeps_strings _)
    |>.also secgroups (keeps_positions hsecgroups)
    |>.also attachmentId (keeps_string _)
    |>.also srcDstCheck (keeps_bool _)
    |>.also deviceIndex (keeps_int32 _)
    |>.also interfaces (keeps_positions hinterfaces)).toForm (by decide)

theorem Rule.keeps_form (r : Rule) : form.Keeps r :=
  (keeps_start Rule.mk protocol (keeps_int32 _)
    |>.also groupId (keeps_string _)
    |>.also groupOwnerId (keeps_string _)
    |>.also cidr (keeps_string _)
    |>.also cidrAddress (keeps_ipv4 _)
    |>.also cidrLength (keeps_uint8 _)
    |>.also fromPort (keeps_int32 _)
    |>.also toPort (keeps_int32 _)
    |>.also icmpType (keeps_int32 _)
    |>.also icmpCode (keeps_int32 _)).toForm (by decide)

/-- The positions that a security group refers to. -/
def SecurityGroup.positions (g : SecurityGroup) : List Nat := g.instances ++ g.interfaces

theorem SecurityGroup.keeps_form (g : SecurityGroup) (h : Fits g.positions) : form.Keeps g := by
  simp only [positions, fits_append] at h
  obtain ⟨hinstances, hinterfaces⟩ := h
  exact (keeps_start SecurityGroup.mk name (keeps_string _)
    |>.also accountId (keeps_string _)
    |>.also groupRules (keeps_strings _)
    |>.also ingressRules (keeps_list fun r _ => r.keeps_form)
    |>.also egressRules (keeps_list fun r _ => r.keeps_form)
    |>.also instances (keeps_positions hinstances)
    |>.also interfaces (keeps_positions hinterfaces)).toForm (by decide)

/-! ## Tenant networks -/

theorem RouteEntry.keeps_form (e : RouteEntry) : form.Keeps e :=
  (keeps_start RouteEntry.mk destCidr (keeps_string _)
    |>.also target (keeps_string _)
    |>.also applied (keeps_bool _)).toForm (by decide)

theorem RouteTable.keeps_form (t : RouteTable) : form.Keeps t :=
  (keeps_start RouteTable.mk name (keeps_string _)
    |>.also accountId (keeps_string _)
    |>.also entries (keeps_list fun e _ => e.keeps_form)).toForm (by decide)

/-- The positions that a subnet of a VPC refers to. -/
def VpcSubnet.positions (s : VpcSubnet) : List Nat :=
  s.routeTable.toList ++ s.networkAcl.toList ++ s.interfaces

theorem VpcSubnet.keeps_form (s : VpcSubnet) (h : Fits s.positions) : form.Keeps s := by
  simp only [positions, fits_append] at h
  obtain ⟨⟨hrouteTable, hnetworkAcl⟩, hinterfaces⟩ := h
  exact (keeps_start VpcSubnet.mk name (keeps_string _)
    |>.also accountId (keeps_string _)
    |>.also cidr (keeps_string _)
    |>.also clusterName (keeps_string _)
    |>.also networkAclName (keeps_string _)
    |>.also routeTableName (keeps_string _)
    |>.also routeTable (keeps_position? hrouteTable)
    |>.also networkAcl (keeps_position? hnetworkAcl)
    |>.also interfaces (keeps_positions hinterfaces)).toForm (by decide)

theorem NatGateway.keeps_form (g : NatGateway) : form.Keeps g :=
  (keeps_start NatGateway.mk name (keeps_string _)
    |>.also accountId (keeps_string _)
    |>.also mac (keeps_mac _)
    |>.also publicIp (keeps_ipv4 _)
    |>.also privateIp (keeps_ipv4 _)
    |>.also vpc (keeps_string _)
    |>.also subnet (keeps_string _)).toForm (by decide)

theorem AclEntry.keeps_form (e : AclEntry) : form.Keeps e :=
  (keeps_start AclEntry.mk number (keeps_int32 _)
    |>.also allow (keeps_bool _)
    |>.also protocol (keeps_int32 _)
    |>.also cidr (keeps_string _)
    |>.also fromPort (keeps_int32 _)
    |>.also toPort (keeps_int32 _)
    |>.also icmpType (keeps_int32 _)
    |>.also icmpCode (keeps_int32 _)).toForm (by decide)

theorem NetworkAcl.keeps_form (a : NetworkAcl) : form.Keeps a :=
  (keeps_start NetworkAcl.mk name (keeps_string _)
    |>.also accountId (keeps_string _)
    |>.also ingress (keeps_list fun e _ => e.keeps_form)
    |>.also egress (keeps_list fun e _ => e.keeps_form)).toForm (by decide)

theorem InternetGateway.keeps_form (g : InternetGateway) : form.Keeps g :=
  (keeps_start InternetGateway.mk name (keeps_string _)
    |>.also accountId (keeps_string _)).toForm (by decide)

theorem DhcpOptionSet.keeps_form (d : DhcpOptionSet) : form.Keeps d :=
  (keeps_start DhcpOptionSet.mk name (keeps_string _)
    |>.also accountId (keeps_string _)
    |>.also domainNames (keeps_strings _)
    |>.also dnsServers (keeps_ipv4s _)
    |>.also ntpServers (keeps_ipv4s _)
    |>.also netbiosServers (keeps_ipv4s _)
    |>.also netbiosType (keeps_int32 _)).toForm (by decide)

/-- The positions that a VPC and its subnets refer to. -/
def Vpc.positions (v : Vpc) : List Nat :=
  v.dhcpOptionSet.toList ++ v.subnets.flatMap VpcSubnet.positions ++ v.interfaces

theorem Vpc.keeps_form (v : Vpc) (h : Fits v.positions) : form.Keeps v := by
  simp only [positions, fits_append] at h
  obtain ⟨⟨hdhcpOptionSet, hsubnets⟩, hinterfaces⟩ := h
  exact (keeps_start Vpc.mk name (keeps_string _)
    |>.also accountId (keeps_string _)
    |>.also cidr (keeps_string _)
    |>.also dhcpOptionSetName (keeps_string _)
    |>.also dhcpOptionSet (keeps_position? hdhcpOptionSet)
    |>.also routeTables (keeps_list fun t _ => t.keeps_form)
    |>.also subnets (keeps_list fun s hs => s.keeps_form (hsubnets.of_mem hs))
    |>.also natGateways (keeps_list fun g _ => g.keeps_form)
    |>.also networkAcls (keeps_list fun a _ => a.keeps_form)
    |>.also internetGatewayNames (keeps_strings _)
    |>.also interfaces (keeps_positions hinterfaces)).toForm (by decide)

/-! ## Models -/

/-- The positions that the records of a model refer to. -/
def NetworkModel.positions (m : NetworkModel) : List Nat :=
  m.instances.flatMap Instance.positions ++ m.interfaces.flatMap Instance.positions ++
    m.secgroups.flatMap SecurityGroup.positions ++ m.vpcs.flatMap Vpc.positions

/-- **The form of a model keeps it**, if its positions have 64 bits. -/
theorem NetworkModel.keeps_form (m : NetworkModel) (h : Fits m.positions) : form.Keeps m := by
  simp only [positions, fits_append] at h
  obtain ⟨⟨⟨hinstances, hinterfaces⟩, hsecgroups⟩, hvpcs⟩ := h
  exact (keeps_start NetworkModel.mk initialized (keeps_bool _)
    |>.also mode (keeps_string _)
    |>.also version (keeps_string _)
    |>.also appliedVersion (keeps_string _)
    |>.also controllerIp (keeps_ipv4 _)
    |>.also dnsDomain (keeps_string _)
    |>.also dnsServers (keeps_ipv4s _)
    |>.also publicIps (keeps_ipv4s _)
    |>.also eucanetdHost (keeps_string _)
    |>.also publicNetworkCidr (keeps_string _)
    |>.also publicGatewayIp (keeps_string _)
    |>.also gatewayHosts (keeps_string _)
    |>.also managedSubnets (keeps_list fun s _ => s.keeps_form)
    |>.also subnets (keeps_list fun s _ => s.keeps_form)
    |>.also clusters (keeps_list fun c _ => c.keeps_form)
    |>.also instances (keeps_list fun i hi => i.keeps_form (hinstances.of_mem hi))
    |>.also interfaces (keeps_list fun i hi => i.keeps_form (hinterfaces.of_mem hi))
    |>.also sortedInstances (keeps_bool _)
    |>.also secgroups (keeps_list fun g hg => g.keeps_form (hsecgroups.of_mem hg))
    |>.also vpcs (keeps_list fun v hv => v.keeps_form (hvpcs.of_mem hv))
    |>.also internetGateways (keeps_list fun g _ => g.keeps_form)
    |>.also dhcpOptionSets (keeps_list fun d _ => d.keeps_form)
    |>.also hostnames (HostnameCache.keeps_form _)).toForm (by decide)

end CloudNet
