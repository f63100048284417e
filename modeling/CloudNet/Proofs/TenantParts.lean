import CloudNet.Proofs.InterfaceNames

/-!
# Parts for tenant networks

A document of any network may list interfaces below its instances and hold settings of gateways in
its configuration. Only a network of tenant networks reads them. A model of another network does not
depend on them, even if an interface has the name of an instance or names one of the groups.

* `Element.follow_keeping`: a route depends on the children that its first step goes to.
* `Document.withoutTenantParts`: what there is of a document beside these parts.
* `NetworkModel.ofDocument_withoutTenantParts`: a build that does not find them is the same build.
* `NetworkModel.withoutTenants_of_ofDocument`: nothing of them is in a model.
* `NetworkModel.tenant_parts_inert`: documents that differ in these parts only.
-/

namespace CloudNet

/-! ## Elements without some of their children -/

namespace Element

/-- The element with other children, and without text between them. -/
def withChildren (e : Element) (children : List Element) : Element :=
  { e with content := children.map toContent }

/-- The element with only those of its children that are to be kept. -/
def keeping (e : Element) (keep : Element → Bool) : Element :=
  e.withChildren (e.children.filter keep)

@[simp] theorem children_withChildren (e : Element) (children : List Element) :
    (e.withChildren children).children = children :=
  children_map_toContent e.name e.attributes children

end Element

/-- A route starts with a step to children that are all kept. -/
def Route.Keeps (route : Route) (keep : Element → Bool) : Prop :=
  ∃ s rest, route = s :: rest ∧ ∀ c : Element, c.satisfies s = true → keep c = true

theorem Route.Keeps.append {route : Route} {keep : Element → Bool} (h : route.Keeps keep)
    (later : Route) : Route.Keeps (route ++ later) keep := by
  obtain ⟨s, rest, rfl, hkeep⟩ := h
  exact ⟨s, rest ++ later, rfl, hkeep⟩

namespace Element

variable {keep : Element → Bool} {route : Route}

/-- **A route does not notice children that its first step does not go to.** -/
theorem follow_keeping (h : route.Keeps keep) (e : Element) :
    (e.keeping keep).follow route = e.follow route := by
  obtain ⟨s, rest, rfl, hkeep⟩ := h
  have hstep : (e.keeping keep).step s = e.step s := by
    unfold step keeping
    rw [children_withChildren, List.filter_filter]
    refine List.filter_congr fun c _ => ?_
    cases hc : c.satisfies s with
    | false => rfl
    | true => rw [hkeep c hc, Bool.and_self]
  rw [follow_cons, follow_cons, hstep]

theorem texts_keeping (h : route.Keeps keep) (e : Element) :
    (e.keeping keep).texts route = e.texts route := by
  unfold texts
  rw [follow_keeping h]

theorem lastText?_keeping (h : route.Keeps keep) (e : Element) :
    (e.keeping keep).lastText? route = e.lastText? route := by
  unfold lastText?
  rw [texts_keeping h]

/-! ## Instances without interfaces -/

/-- The element does not list interfaces. -/
def isNoInterfaceList (e : Element) : Bool := e.name ≠ "networkInterfaces"

/-- An instance without its interfaces; any other element as it is. -/
def withoutInterfaces (e : Element) : Element :=
  if e.name = "instance" then e.keeping isNoInterfaceList else e

theorem name_withoutInterfaces (e : Element) : e.withoutInterfaces.name = e.name := by
  unfold withoutInterfaces
  split <;> rfl

theorem keeps_child {name : String} (h : name ≠ "networkInterfaces") :
    (Route.child name).Keeps isNoInterfaceList := by
  refine ⟨⟨.named name, none⟩, [], rfl, fun c hc => ?_⟩
  have hname : c.name = name := by simpa [satisfies] using hc
  simpa [isNoInterfaceList, hname] using h

/-! ## Configurations without gateways -/

/-- The element does not hold the settings of gateways. -/
def isNoGatewayProperty (e : Element) : Bool :=
  !e.satisfies ⟨.named "property", some ⟨"name", "mido"⟩⟩

theorem keeps_property {name : String} (h : name ≠ "mido") :
    (Route.property name).Keeps isNoGatewayProperty := by
  refine ⟨_, [], rfl, fun c hc => ?_⟩
  have hattr : c.attr? "name" = some name := by
    simpa [satisfies] using (Bool.and_eq_true_iff.mp hc).2
  simp [isNoGatewayProperty, satisfies, hattr, h]

/-! ## Sections and documents -/

/-- A section without the parts for tenant networks. -/
def withoutTenantParts (e : Element) : Element :=
  if e.name = "instances" then e.withChildren (e.children.map withoutInterfaces)
  else if e.name = "configuration" then e.keeping isNoGatewayProperty
  else e

theorem name_withoutTenantParts (e : Element) : e.withoutTenantParts.name = e.name := by
  unfold withoutTenantParts
  split
  · rfl
  · split <;> rfl

/-- Other sections are left as they are. -/
theorem withoutTenantParts_of_ne {e : Element} (hinstances : e.name ≠ "instances")
    (hconfiguration : e.name ≠ "configuration") : e.withoutTenantParts = e := by
  unfold withoutTenantParts
  rw [if_neg hinstances, if_neg hconfiguration]

/-- The instances of a section without interfaces are those of the section, each without its
interfaces. -/
theorem follow_instance_withoutTenantParts {e : Element} (h : e.name = "instances") :
    e.withoutTenantParts.follow (Route.child "instance") =
      (e.follow (Route.child "instance")).map withoutInterfaces := by
  unfold withoutTenantParts Route.child
  rw [if_pos h, follow_singleton, follow_singleton]
  unfold step
  rw [children_withChildren, List.filter_map]
  simp only [Function.comp_def, satisfies, name_withoutInterfaces, Bool.and_true]

/-- A configuration is left with its other settings. -/
theorem withoutTenantParts_configuration {e : Element} (h : e.name = "configuration") :
    e.withoutTenantParts = e.keeping isNoGatewayProperty := by
  unfold withoutTenantParts
  rw [if_neg (by rw [h]; decide), if_pos h]

end Element

namespace Document

/-- The document without the interfaces of its instances and without the settings of gateways in
its configuration. Text directly in the sections and instances is left out with them, since it is
cut in another way around each element that is there; none of it is ever read. -/
def withoutTenantParts (d : Document) : Document :=
  { d with root := d.root.withChildren (d.root.children.map Element.withoutTenantParts) }

theorem declared?_withoutTenantParts (d : Document) (name : String) :
    d.withoutTenantParts.declared? name = d.declared? name :=
  d.declared?_withContent _ name

/-- The first element of a name has that name. -/
theorem name_of_find? {es : List Element} {name : String} {e : Element}
    (h : es.find? (fun e => e.name = name) = some e) : e.name = name := by
  simpa using List.find?_some h

/-- The first section of a name is what is left of the first section of that name. -/
theorem find?_withoutTenantParts (d : Document) (name : String) :
    d.withoutTenantParts.root.children.find? (fun e => e.name = name) =
      (d.root.children.find? fun e => e.name = name).map Element.withoutTenantParts := by
  unfold withoutTenantParts
  rw [Element.children_withChildren, List.find?_map]
  simp only [Function.comp_def, Element.name_withoutTenantParts]

theorem find?_withoutTenantParts_of_ne (d : Document) {name : String} (hi : name ≠ "instances")
    (hc : name ≠ "configuration") :
    d.withoutTenantParts.root.children.find? (fun e => e.name = name) =
      d.root.children.find? fun e => e.name = name := by
  rw [find?_withoutTenantParts]
  cases hfind : d.root.children.find? fun e => e.name = name with
  | none => rfl
  | some e =>
    have hname := name_of_find? hfind
    rw [Option.map_some, Element.withoutTenantParts_of_ne (by rwa [hname]) (by rwa [hname])]

/-- **What is left of the sections** without the parts for tenant networks. -/
theorem sections_withoutTenantParts (d : Document) :
    d.withoutTenantParts.sections = { d.sections with
      configuration := d.sections.configuration.map Element.withoutTenantParts
      instances := d.sections.instances.map Element.withoutTenantParts } := by
  unfold sections
  simp (disch := decide) only [find?_withoutTenantParts_of_ne, find?_withoutTenantParts]

end Document

/-! ## Reading -/

/-- An instance is read without a look at its interfaces. -/
theorem Instance.ofElement_withoutInterfaces (e : Element) (owner : String) :
    ofElement e.withoutInterfaces owner = ofElement e owner := by
  unfold Element.withoutInterfaces
  split
  · have hfield : ∀ name, name ≠ "networkInterfaces" →
        (e.keeping Element.isNoInterfaceList).lastText? (Route.child name) =
          e.lastText? (Route.child name) :=
      fun _ h => Element.lastText?_keeping (Element.keeps_child h) e
    have hgroups : (e.keeping Element.isNoInterfaceList).texts
        (Route.grandchild "securityGroups" "value") =
          e.texts (Route.grandchild "securityGroups" "value") :=
      Element.texts_keeping ((Element.keeps_child (by decide)).append _) e
    have hname : ∀ notice, (e.keeping Element.isNoInterfaceList).notedName notice =
        e.notedName notice := fun _ => rfl
    unfold ofElement withInterfaceFields Element.macAt Element.stringAt Element.addressAt
      Element.intAt
    simp (disch := decide) only [hfield, hgroups, hname]
  · rfl

theorem Instance.ofElementWithInterfaces_withoutInterfaces (e : Element) :
    ofElementWithInterfaces false e.withoutInterfaces = ofElementWithInterfaces false e := by
  unfold ofElementWithInterfaces
  rw [ofElement_withoutInterfaces]
  rfl

/-- What follows a step depends on the value that it gives. -/
theorem Noted.bind_congr_value {α β : Type} {x : Noted α} {f g : α → Noted β}
    (h : f x.value = g x.value) : x >>= f = x >>= g := by
  refine Noted.ext ?_ ?_
  · rw [value_bind, value_bind, h]
  · rw [notices_bind, notices_bind, h]

namespace NetworkModel

variable {d : Document} {m : NetworkModel}

/-- **The pass over the instances** of another network does not look at interfaces. -/
theorem withInstances_withoutTenantParts (hm : m.isVpcMido = false) {e : Element}
    (he : e.name = "instances") :
    m.withInstances (some e.withoutTenantParts) = m.withInstances (some e) := by
  have hread : Noted.mapList (Instance.ofElementWithInterfaces m.isVpcMido)
      (e.withoutTenantParts.follow (Route.child "instance")) =
        Noted.mapList (Instance.ofElementWithInterfaces m.isVpcMido)
          (e.follow (Route.child "instance")) := by
    rw [Element.follow_instance_withoutTenantParts he, hm]
    unfold Noted.mapList
    simp only [List.map_map, Function.comp_def,
      Instance.ofElementWithInterfaces_withoutInterfaces]
  unfold withInstances
  cases m.fillable .instances m.instances.isEmpty with
  | error fault => rfl
  | ok _ => simp only [hread]

/-- All passes over entities in another network. -/
theorem withEntities_withoutTenantParts (hm : m.isVpcMido = false) (d : Document) :
    m.withEntities d.withoutTenantParts.sections = m.withEntities d.sections := by
  have hinstances : m.withInstances (d.sections.instances.map Element.withoutTenantParts) =
      m.withInstances d.sections.instances := by
    cases he : d.sections.instances with
    | none => rfl
    | some e => exact withInstances_withoutTenantParts hm (Document.name_of_find? he)
  rw [Document.sections_withoutTenantParts]
  unfold withEntities
  simp only [hinstances]

/-- The settings that every network has are beside those of gateways. -/
theorem withSettings_keeping (m : NetworkModel) (e : Element) :
    m.withSettings (e.keeping Element.isNoGatewayProperty) = m.withSettings e := by
  have hitems : ∀ name item, name ≠ "mido" →
      (e.keeping Element.isNoGatewayProperty).follow (Route.propertyItem name item) =
        e.follow (Route.propertyItem name item) :=
    fun _ _ h => Element.follow_keeping ((Element.keeps_property h).append _) e
  have htexts : ∀ name, name ≠ "mido" →
      (e.keeping Element.isNoGatewayProperty).texts (Route.propertyValue name) =
        e.texts (Route.propertyValue name) :=
    fun _ h => Element.texts_keeping ((Element.keeps_property h).append _) e
  unfold withSettings Element.rangesAt Element.addressAt Element.addressesAt Element.stringAt
    Element.lastText?
  simp (disch := decide) only [hitems, htexts]

/-- **The pass over the settings** of another network does not look at those of gateways. -/
theorem withConfiguration_withoutTenantParts (hm : m.isVpcMido = false) (d : Document) :
    m.withConfiguration d.withoutTenantParts.sections.configuration =
      m.withConfiguration d.sections.configuration := by
  rw [Document.sections_withoutTenantParts]
  cases he : d.sections.configuration with
  | none => rfl
  | some e =>
    rw [Option.map_some,
      Element.withoutTenantParts_configuration (Document.name_of_find? he)]
    unfold withConfiguration
    cases m.initialized with
    | false => rfl
    | true => simp only [hm, Bool.false_eq_true, if_false, withSettings_keeping]

/-- Whatever the network, its mode is not read from the parts for tenant networks. -/
theorem lastText?_mode_withoutTenantParts (d : Document) :
    d.withoutTenantParts.sections.configuration.bind
        (·.lastText? (Route.propertyValue "mode")) =
      d.sections.configuration.bind (·.lastText? (Route.propertyValue "mode")) := by
  rw [Document.sections_withoutTenantParts]
  cases he : d.sections.configuration with
  | none => rfl
  | some e =>
    rw [Option.map_some,
      Element.withoutTenantParts_configuration (Document.name_of_find? he)]
    exact Element.lastText?_keeping ((Element.keeps_property (by decide)).append _) e

theorem mode_withoutTenantParts (d : Document) : d.withoutTenantParts.mode = d.mode := by
  unfold Document.mode
  rw [lastText?_mode_withoutTenantParts]

theorem withHeader_withoutTenantParts (m : NetworkModel) (d : Document) :
    m.withHeader d.withoutTenantParts d.withoutTenantParts.sections.configuration =
      m.withHeader d d.sections.configuration := by
  rw [withHeader_congr (d.declared?_withoutTenantParts _) (d.declared?_withoutTenantParts _)]
  unfold withHeader
  rw [lastText?_mode_withoutTenantParts]

theorem isVpcMido_header (hmode : d.mode ≠ NetMode.vpcMido.name) :
    (header d).isVpcMido = false :=
  isVpcMido_eq_false (by rwa [mode_header])

/-- **All passes together** in another network. The mode is known after the first of them. -/
theorem assemble_withoutTenantParts (hmode : d.mode ≠ NetMode.vpcMido.name) (withAll : Bool)
    (hostnames : HostnameCache) :
    assemble d.withoutTenantParts withAll hostnames = assemble d withAll hostnames := by
  have hm : (header d).isVpcMido = false := isVpcMido_header hmode
  have hblank : (header d).Blank := blank_header d _
  have hfilled : ((header d).withEntities d.sections).value.isVpcMido = false := by
    rw [value_withEntities hblank]
    exact hm
  unfold assemble
  simp only [withHeader_withoutTenantParts]
  refine Noted.bind_congr_value ?_
  cases withAll with
  | false =>
    refine Noted.bind_congr_value ?_
    show (header d).withConfiguration _ >>= _ = (header d).withConfiguration _ >>= _
    rw [withConfiguration_withoutTenantParts hm]
  | true =>
    show (header d).withEntities _ >>= _ = (header d).withEntities _ >>= _
    rw [withEntities_withoutTenantParts hm]
    refine Noted.bind_congr_value ?_
    show ((header d).withEntities d.sections).value.withConfiguration _ >>= _ =
      ((header d).withEntities d.sections).value.withConfiguration _ >>= _
    rw [withConfiguration_withoutTenantParts hfilled]

/-- **A build of another network that does not find the parts for tenant networks** is the same
build, with the same notices. -/
theorem ofDocument_withoutTenantParts (hmode : d.mode ≠ NetMode.vpcMido.name) (extent : Extent)
    (hostnames : HostnameCache) :
    ofDocument d.withoutTenantParts extent hostnames = ofDocument d extent hostnames := by
  have hroot : d.withoutTenantParts.root.name = d.root.name := rfl
  rw [ofDocument_eq, ofDocument_eq]
  simp only [hroot, assemble_withoutTenantParts hmode]

/-! ## What is left empty -/

/-- Nothing of the parts for tenant networks is in the model: it has no interfaces, no entity refers
to any, and the settings of gateways are empty. -/
structure WithoutTenants (m : NetworkModel) : Prop where
  interfaces : m.interfaces = []
  instances : ∀ i ∈ m.instances, i.interfaces = []
  secgroups : ∀ g ∈ m.secgroups, g.interfaces = []
  vpcs : ∀ v ∈ m.vpcs, v.interfaces = [] ∧ ∀ s ∈ v.subnets, s.interfaces = []
  eucanetdHost : m.eucanetdHost = ""
  publicNetworkCidr : m.publicNetworkCidr = ""
  publicGatewayIp : m.publicGatewayIp = ""
  gatewayHosts : m.gatewayHosts = ""

theorem withoutTenants_empty : empty.WithoutTenants where
  interfaces := rfl
  instances := nofun
  secgroups := nofun
  vpcs := nofun
  eucanetdHost := rfl
  publicNetworkCidr := rfl
  publicGatewayIp := rfl
  gatewayHosts := rfl

/-- The settings of such a model alone hold nothing of them either. -/
theorem WithoutTenants.settingsOnly (h : m.WithoutTenants) : m.settingsOnly.WithoutTenants where
  interfaces := rfl
  instances := nofun
  secgroups := nofun
  vpcs := nofun
  eucanetdHost := h.eucanetdHost
  publicNetworkCidr := h.publicNetworkCidr
  publicGatewayIp := h.publicGatewayIp
  gatewayHosts := h.gatewayHosts

/-- Where there are no interfaces, a linked VPC and its subnets refer to none. -/
theorem interfaces_linkVpc (h : m.interfaces = []) (v : Vpc) :
    (m.linkVpc v).value.interfaces = [] ∧
      ∀ s ∈ (m.linkVpc v).value.subnets, s.interfaces = [] := by
  have hnone : m.interfacesInVpc v.name = [] := by
    unfold interfacesInVpc
    rw [h, positionsWhere_nil]
  have hsubnets : (m.linkVpc v).value.subnets =
      v.subnets.map fun s => (m.linkSubnet v (m.interfacesInVpc v.name) s).value :=
    Noted.value_mapList _ _
  refine ⟨hnone, fun s hs => ?_⟩
  rw [hsubnets, hnone] at hs
  obtain ⟨r, -, rfl⟩ := List.mem_map.mp hs
  rfl

/-- The settings of another network are those that every network has. -/
theorem configured_of_not_isVpcMido (hm : m.isVpcMido = false) (part : Option Element) :
    m.configured part = m ∨ ∃ e, m.configured part = (m.withSettings e).value := by
  unfold configured withConfiguration
  cases m.initialized with
  | false => exact .inl rfl
  | true =>
    cases part with
    | none => exact .inl rfl
    | some e =>
      refine .inr ⟨e, ?_⟩
      simp only [hm, Bool.false_eq_true, if_false, Noted.value_bind, Noted.value_pure,
        value_orKeep_ok]

/-- The pass over the settings of another network leaves those of gateways as they are. -/
theorem gateways_configured (hm : m.isVpcMido = false) (part : Option Element) :
    (m.configured part).eucanetdHost = m.eucanetdHost ∧
    (m.configured part).publicNetworkCidr = m.publicNetworkCidr ∧
    (m.configured part).publicGatewayIp = m.publicGatewayIp ∧
    (m.configured part).gatewayHosts = m.gatewayHosts := by
  rcases configured_of_not_isVpcMido hm part with h | ⟨e, h⟩
  · rw [h]
    exact ⟨rfl, rfl, rfl, rfl⟩
  · rw [h]
    exact ⟨rfl, rfl, rfl, rfl⟩

/-- **A whole model of another network** has nothing of the parts for tenant networks. -/
theorem withoutTenants_assemble (hmode : d.mode ≠ NetMode.vpcMido.name)
    (hostnames : HostnameCache) : (assemble d true hostnames).value.WithoutTenants := by
  have hm : (assemble d true hostnames).value.isVpcMido = false :=
    isVpcMido_eq_false (by rwa [mode_assemble])
  have ha : Assembled d.sections (assemble d true hostnames).value := assembled_assemble d hostnames
  obtain ⟨hinterfaces, hinstances, hgroups⟩ := ha.interfaces_eq_nil hm
  obtain ⟨hhost, hcidr, hip, hgateways⟩ :=
    gateways_configured (isVpcMido_header hmode) d.sections.configuration
  have hsettings : (assemble d true hostnames).value.settingsOnly =
      { (header d).configured d.sections.configuration with hostnames } :=
    settingsOnly_assemble d hostnames
  refine ⟨hinterfaces, hinstances, hgroups, ?_, ?_, ?_, ?_, ?_⟩
  · rw [ha.vpcs]
    intro v hv
    obtain ⟨r, -, rfl⟩ := List.mem_map.mp hv
    exact interfaces_linkVpc hinterfaces r
  · exact (congrArg eucanetdHost hsettings).trans hhost
  · exact (congrArg publicNetworkCidr hsettings).trans hcidr
  · exact (congrArg publicGatewayIp hsettings).trans hip
  · exact (congrArg gatewayHosts hsettings).trans hgateways

/-- **Nothing of the parts for tenant networks is in a model** of another network, however much of
the document is read. -/
theorem withoutTenants_of_ofDocument (hmode : d.mode ≠ NetMode.vpcMido.name) {extent : Extent}
    {hostnames : HostnameCache} (h : (ofDocument d extent hostnames).value = .ok m) :
    m.WithoutTenants := by
  have hall := withoutTenants_assemble hmode hostnames
  cases extent with
  | nothing =>
    have hempty : m = empty := (Except.ok.inj h).symm
    rw [hempty]
    exact withoutTenants_empty
  | configOnly =>
    obtain ⟨-, rfl, -⟩ := (value_ofDocument_eq_ok_iff (by decide)).mp h
    exact settingsOnly_assemble d hostnames ▸ hall.settingsOnly
  | all =>
    obtain ⟨-, rfl, -⟩ := (value_ofDocument_eq_ok_iff (by decide)).mp h
    exact hall

/-- **The parts for tenant networks are inert in any other network.** Documents that are the same
beside their interfaces and the settings of their gateways name the same mode. If that is another
one, they give the same model or the same fault, with the same notices, however much of them is
read, and no model has anything of these parts. -/
theorem tenant_parts_inert {d d' : Document} (h : d.withoutTenantParts = d'.withoutTenantParts)
    (hmode : d.mode ≠ NetMode.vpcMido.name) (extent : Extent) (hostnames : HostnameCache) :
    d'.mode = d.mode ∧
    ofDocument d extent hostnames = ofDocument d' extent hostnames ∧
    ∀ m, (ofDocument d extent hostnames).value = .ok m → m.WithoutTenants := by
  have hsame : d'.mode = d.mode := by
    rw [← mode_withoutTenantParts d', ← h, mode_withoutTenantParts]
  refine ⟨hsame, ?_, fun m hbuild => withoutTenants_of_ofDocument hmode hbuild⟩
  rw [← ofDocument_withoutTenantParts hmode, h,
    ofDocument_withoutTenantParts (by rwa [hsame])]

end NetworkModel

/-! ## Interfaces in a network that has none -/

namespace Sample

/-- The network of two instances, with an interface that has the name of the other instance and one
that names the group, and with the settings of a gateway. -/
def equipped : Document where
  root := ⟨"network-data", [{ name := "version", value := "7" }], [
    part "configuration" [
      setting "mode" "EDGE", setting "enabledCLCIp" "10.0.0.1",
      entity "property" "mido" [setting "eucanetdHost" "10.0.0.9"],
      setting "instanceDNSDomain" "cloud.internal", setting "instanceDNSServers" "10.0.0.2"],
    part "instances" [
      machine "i-b" "10.1.0.4" [nic "i-a" "10.1.0.6" "1" "subnet-1" ["web"]],
      machine "i-a" "10.1.0.6" [nic "eni-1" "10.1.0.6" "0" "subnet-1" ["web"]]],
    part "securityGroups" [entity "securityGroup" "web" [field "ownerId" "account"]]]⟩

end Sample

namespace NetworkModel

/-- The equipped network has the model of the one that is the same beside these parts. -/
theorem tenant_parts_of_equipped :
    Sample.equipped.withoutTenantParts = (Sample.staffed Sample.lastFirst).withoutTenantParts ∧
    Sample.equipped.mode = "EDGE" ∧
    (ofDocument Sample.equipped .all {}).value = .ok Sample.staffedModel ∧
    Sample.staffedModel.WithoutTenants := by
  have hsame : Sample.equipped.withoutTenantParts =
      (Sample.staffed Sample.lastFirst).withoutTenantParts := by rfl
  have hmode : Sample.equipped.mode = "EDGE" := by decide +kernel
  obtain ⟨-, hbuilds, hnone⟩ := tenant_parts_inert hsame (by rw [hmode]; decide) .all {}
  have hmodel : (ofDocument Sample.equipped .all {}).value = .ok Sample.staffedModel := by
    rw [hbuilds]
    exact Sample.ofDocument_staffed
  exact ⟨hsame, hmode, hmodel, hnone _ hmodel⟩

end NetworkModel

end CloudNet
