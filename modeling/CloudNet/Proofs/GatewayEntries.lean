import CloudNet.Proofs.Building
import CloudNet.Proofs.SettingsAlone
import CloudNet.Proofs.Words

/-!
# Gateways read back

The gateways of a network of tenant networks are one text of the model: an entry for each, with the
fields host, address and interface. Where none of the fields has a comma or a blank in it, the text
can be taken apart again, and each entry has the fields that its gateway declares. An entry does not
say which these are. A field that is missing leaves no gap, so those behind it are taken for others,
and only complete gateways are read back as they are.

* `Text.splitAt_joinWith`: joined texts are split back.
* `readEntries_gatewayEntries`: the entries of gateways are, and their fields as far as declared.
* `GatewayEntry.fields_eq_values_iff`: an entry is that of host, address and interface exactly if
  the gateway is complete.
* `NetworkModel.gatewayHosts_of_ofDocument`: where the text of a model comes from.
* `NetworkModel.complete_gateways_read_back`: all of this of every model of such a network.
* `NetworkModel.address_lost`: an interface that is read as an address.
-/

namespace CloudNet

/-! ## Splitting -/

namespace Text

/-- The parts of a text between separators. A text without one is its own only part. -/
def splitAt (sep : Char) (s : String) : List String := (s.toList.splitOn sep).map String.ofList

/-- **Joined texts are split back** at a separator that is in none of them. -/
theorem splitAt_joinWith {sep : Char} {parts : List String} (hne : parts ≠ [])
    (h : ∀ part ∈ parts, sep ∉ part.toList) :
    splitAt sep (joinWith (String.singleton sep) parts) = parts := by
  unfold splitAt
  rw [splitOn_joinWith hne h, List.map_map]
  simp [Function.comp_def]

end Text

/-! ## Entries -/

/-- The gateways that the settings of a network list. -/
def Element.gateways (mido : Element) : List Element :=
  mido.follow (Route.propertyItem "gateways" "gateway")

namespace GatewayEntry

variable (g : Element)

/-- The value of a field of a gateway, if it is declared. -/
def value? (field : String) : Option String := g.lastText? (Route.propertyValue field)

/-- The values of the fields that a gateway declares. -/
def declared : List String := gatewayFields.filterMap (value? g)

/-- Host, address and interface of a gateway, without text where it declares none. -/
def values : List String := gatewayFields.map fun field => (value? g field).getD ""

/-- What the entry of a gateway is split into. An entry without text has one field without text. -/
def fields : List String := if declared g = [] then [""] else declared g

/-- The gateway declares host, address and interface. -/
def Complete : Prop := ∀ field ∈ gatewayFields, (value? g field).isSome

/-- A text without a comma and without a blank. -/
def PlainText (s : String) : Prop := ∀ c ∈ s.toList, c ≠ ',' ∧ Text.isBlank c = false

/-- No field of the gateway has a comma or a blank in it. -/
def Plain : Prop := ∀ v ∈ declared g, PlainText v

instance : Decidable (Complete g) := inferInstanceAs (Decidable (∀ field ∈ gatewayFields, _))

instance (s : String) : Decidable (PlainText s) := List.decidableBAll _ s.toList

instance : Decidable (Plain g) := inferInstanceAs (Decidable (∀ v ∈ declared g, PlainText v))

variable {g}

/-- All fields are declared exactly if the declared ones are host, address and interface. -/
theorem declared_eq_values_iff : declared g = values g ↔ Complete g := by
  unfold declared values
  rw [List.filterMap_eq_map_iff_forall_eq_some]
  refine forall₂_congr fun field _ => ?_
  cases value? g field with
  | none => simp
  | some v => simp

/-- **An entry has host, address and interface** exactly if the gateway is complete. -/
theorem fields_eq_values_iff : fields g = values g ↔ Complete g := by
  rw [← declared_eq_values_iff]
  unfold fields
  split
  · next hnone =>
    -- neither one field without text nor none at all is three of them
    have hvalues : (values g).length = 3 := List.length_map _
    have hother : ∀ vs : List String, vs.length ≠ 3 → vs ≠ values g := by
      rintro vs hvs rfl
      exact hvs hvalues
    rw [hnone]
    exact iff_of_false (hother _ (by decide)) (hother _ (by decide))
  · rfl

/-- The declared fields of a plain gateway are read back from its entry. -/
theorem splitAt_gatewayEntry (h : Plain g) : Text.splitAt ',' (gatewayEntry g) = fields g := by
  have hentry : gatewayEntry g = Text.joinWith (String.singleton ',') (declared g) := rfl
  unfold fields
  rw [hentry]
  split
  · next hnone =>
    rw [hnone]
    decide
  · next hsome =>
    refine Text.splitAt_joinWith hsome fun v hv hcomma => ?_
    exact (h v hv ',' hcomma).1 rfl

/-- The entry of a plain gateway has no space in it. -/
theorem space_notMem_gatewayEntry (h : Plain g) : ' ' ∉ (gatewayEntry g).toList := by
  intro hspace
  rcases Text.mem_joinWith hspace with hcomma | ⟨v, hv, hc⟩
  · exact absurd hcomma (by decide)
  · exact absurd (h v hv ' ' hc).2 (by decide)

end GatewayEntry

/-- The entries of a text and their fields. -/
def readEntries (s : String) : List (List String) :=
  (Text.splitAt ' ' s).map (Text.splitAt ',')

/-- **The entries are read back**, one for each gateway in order, with the fields that it
declares. -/
theorem readEntries_gatewayEntries {mido : Element} (hne : mido.gateways ≠ [])
    (h : ∀ g ∈ mido.gateways, GatewayEntry.Plain g) :
    readEntries (gatewayEntries mido).value = mido.gateways.map GatewayEntry.fields := by
  have hvalue : (gatewayEntries mido).value =
      Text.joinWith (String.singleton ' ') (mido.gateways.map gatewayEntry) := rfl
  have hspace : ∀ entry ∈ mido.gateways.map gatewayEntry, ' ' ∉ entry.toList := by
    intro entry hentry
    obtain ⟨g, hg, rfl⟩ := List.mem_map.mp hentry
    exact GatewayEntry.space_notMem_gatewayEntry (h g hg)
  unfold readEntries
  rw [hvalue, Text.splitAt_joinWith (mt List.map_eq_nil_iff.mp hne) hspace, List.map_map]
  exact List.map_congr_left fun g hg => GatewayEntry.splitAt_gatewayEntry (h g hg)

/-! ## Models -/

namespace NetworkModel

/-- The pass over the settings writes the gateways of the only element that lists them. -/
theorem gatewayHosts_configured {m : NetworkModel} (hinit : m.initialized = true)
    (hm : m.isVpcMido = true) {e mido : Element}
    (honly : e.follow (Route.property "mido") = [mido]) :
    (m.configured (some e)).gatewayHosts = (gatewayEntries mido).value := by
  have hmido : (m.withMido e).value.gatewayHosts = (gatewayEntries mido).value := by
    unfold withMido
    rw [honly]
    rfl
  unfold configured withConfiguration
  rw [hinit, hm]
  refine Eq.trans ?_ hmido
  show (if _ then _ else _ : NetworkModel).gatewayHosts = _
  rw [placed_eq]
  split <;> rfl

/-- The gateways of an assembled model, whether its entities are read or not. -/
theorem gatewayHosts_assemble {d : Document} {withAll : Bool} {hostnames : HostnameCache}
    {e mido : Element} (hm : (assemble d withAll hostnames).value.isVpcMido = true)
    (he : d.sections.configuration = some e) (honly : e.follow (Route.property "mido") = [mido]) :
    (assemble d withAll hostnames).value.gatewayHosts = (gatewayEntries mido).value := by
  -- reading the entities makes no difference to the settings
  have hsame : (assemble d withAll hostnames).value.settingsOnly =
      (assemble d false hostnames).value := by
    cases withAll with
    | true => exact settingsOnly_assemble d hostnames
    | false =>
      rw [← settingsOnly_assemble]
      rfl
  have hsettings : (assemble d false hostnames).value =
      { (header d).configured (some e) with hostnames } := by
    rw [← he]
    rfl
  have hmode : ((header d).configured (some e)).mode = (header d).mode :=
    (configured_orKeep (blank_header d _).clusters _).mode
  have hheader : (header d).isVpcMido = true := by
    unfold isVpcMido netMode? at hm ⊢
    rw [← hmode]
    rw [← mode_settingsOnly, hsame, hsettings] at hm
    exact hm
  calc (assemble d withAll hostnames).value.gatewayHosts
      = (assemble d withAll hostnames).value.settingsOnly.gatewayHosts := rfl
    _ = ((header d).configured (some e)).gatewayHosts := by rw [hsame, hsettings]
    _ = (gatewayEntries mido).value :=
      gatewayHosts_configured (blank_header d _).initialized hheader honly

/-- **Where the gateways of a model come from**: the only element that lists them. -/
theorem gatewayHosts_of_ofDocument {d : Document} {extent : Extent} {hostnames : HostnameCache}
    {m : NetworkModel} {e mido : Element} (h : (ofDocument d extent hostnames).value = .ok m)
    (hm : m.isVpcMido = true) (he : d.sections.configuration = some e)
    (honly : e.follow (Route.property "mido") = [mido]) :
    m.gatewayHosts = (gatewayEntries mido).value := by
  have hextent : extent ≠ .nothing := by
    rintro rfl
    have hempty : m = empty := (Except.ok.inj h).symm
    rw [hempty] at hm
    exact absurd hm (by decide)
  obtain ⟨-, rfl, -⟩ := (value_ofDocument_eq_ok_iff hextent).mp h
  exact gatewayHosts_assemble hm he honly

/-- **The gateways of a network of tenant networks are read back** with the fields that they
declare, an entry for each in the order of the document. These are host, address and interface of
all gateways exactly if all of them are complete. -/
theorem complete_gateways_read_back {d : Document} {extent : Extent} {hostnames : HostnameCache}
    {m : NetworkModel} {e mido : Element} (h : (ofDocument d extent hostnames).value = .ok m)
    (hm : m.isVpcMido = true) (he : d.sections.configuration = some e)
    (honly : e.follow (Route.property "mido") = [mido]) (hne : mido.gateways ≠ [])
    (hplain : ∀ g ∈ mido.gateways, GatewayEntry.Plain g) :
    readEntries m.gatewayHosts = mido.gateways.map GatewayEntry.fields ∧
    (readEntries m.gatewayHosts = mido.gateways.map GatewayEntry.values ↔
      ∀ g ∈ mido.gateways, GatewayEntry.Complete g) := by
  have hread : readEntries m.gatewayHosts = mido.gateways.map GatewayEntry.fields := by
    rw [gatewayHosts_of_ofDocument h hm he honly]
    exact readEntries_gatewayEntries hne hplain
  refine ⟨hread, ?_⟩
  rw [hread, List.map_inj_left]
  exact forall₂_congr fun g _ => GatewayEntry.fields_eq_values_iff

end NetworkModel

/-! ## A gateway without an address -/

namespace Sample

/-- The settings of a gateway that declares no address, and of one that is complete. -/
def mido : Element :=
  ⟨"property", [{ name := "name", value := "mido" }], [
    entity "property" "gateways" [
      part "gateway" [setting "gatewayHost" "gw-a", setting "gatewayInterface" "eth1"],
      part "gateway" [
        setting "gatewayHost" "gw-b", setting "gatewayIP" "10.0.0.7",
        setting "gatewayInterface" "eth2"]]]⟩

/-- The settings of a network with these gateways. -/
def addresslessSettings : Element :=
  ⟨"configuration", [], [
    setting "mode" "VPCMIDO", setting "enabledCLCIp" "10.0.0.1",
    setting "instanceDNSDomain" "cloud.internal", setting "instanceDNSServers" "10.0.0.2",
    mido.toContent]⟩

/-- A network with these gateways. -/
def addressless : Document where
  root := ⟨"network-data", [], [addresslessSettings.toContent]⟩

/-- The model of the network. -/
def addresslessModel : NetworkModel where
  initialized := true
  mode := "VPCMIDO"
  controllerIp := 167772161
  dnsDomain := "cloud.internal"
  dnsServers := [167772162]
  gatewayHosts := "gw-a,eth1 gw-b,10.0.0.7,eth2"
  sortedInstances := true

theorem ofDocument_addressless :
    (NetworkModel.ofDocument addressless .all {}).value = .ok addresslessModel := by
  have hsorted : Instance.byName (NetworkModel.unsorted addressless) = [] := List.mergeSort_nil
  exact NetworkModel.ofDocument_of_sorted rfl hsorted (by decide +kernel) (by decide +kernel)

end Sample

namespace NetworkModel

/-- The entry of the first gateway has two fields, and not all gateways are complete. -/
theorem gateways_of_addressless :
    (ofDocument Sample.addressless .all {}).value = .ok Sample.addresslessModel ∧
    readEntries Sample.addresslessModel.gatewayHosts =
      [["gw-a", "eth1"], ["gw-b", "10.0.0.7", "eth2"]] ∧
    ¬ ∀ g ∈ Sample.mido.gateways, GatewayEntry.Complete g := by
  have hread := (complete_gateways_read_back Sample.ofDocument_addressless (by decide) rfl
    (show Sample.addresslessSettings.follow (Route.property "mido") = [Sample.mido] from rfl)
    (by decide) (by decide)).1
  exact ⟨Sample.ofDocument_addressless, hread.trans (by decide), by decide⟩

/-- **An address is lost**: of the gateway without one the interface stands where the address is
looked for. -/
theorem address_lost :
    (ofDocument Sample.addressless .all {}).value = .ok Sample.addresslessModel ∧
    Sample.addresslessModel.isVpcMido = true ∧
    Sample.addressless.sections.configuration = some Sample.addresslessSettings ∧
    Sample.addresslessSettings.follow (Route.property "mido") = [Sample.mido] ∧
    Sample.mido.gateways ≠ [] ∧ (∀ g ∈ Sample.mido.gateways, GatewayEntry.Plain g) ∧
    Sample.mido.gateways.map GatewayEntry.values =
      [["gw-a", "", "eth1"], ["gw-b", "10.0.0.7", "eth2"]] ∧
    readEntries Sample.addresslessModel.gatewayHosts ≠
      Sample.mido.gateways.map GatewayEntry.values :=
  ⟨Sample.ofDocument_addressless, by decide, rfl, rfl, by decide, by decide, by decide, by decide⟩

end NetworkModel

end CloudNet
