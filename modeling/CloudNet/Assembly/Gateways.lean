import CloudNet.Assembly.Field

/-!
# Internet gateways and DHCP option sets from a document
-/

namespace CloudNet

/-- Read an internet gateway. -/
def InternetGateway.ofElement (e : Element) : InternetGateway :=
  { name := e.entityName, accountId := e.stringAt (Route.child "ownerId") }

/-- Read a set of DHCP options. -/
def DhcpOptionSet.ofElement (e : Element) : DhcpOptionSet :=
  { name := e.entityName
    accountId := e.stringAt (Route.child "ownerId")
    domainNames := e.texts (Route.propertyValue "domain-name")
    dnsServers := e.addressesAt (Route.propertyValue "domain-name-servers")
    ntpServers := e.addressesAt (Route.propertyValue "ntp-servers")
    netbiosServers := e.addressesAt (Route.propertyValue "netbios-name-servers")
    netbiosType := e.intAt (Route.propertyValue "netbios-node-type") }

namespace NetworkModel

/-- Fill in the internet gateways. -/
def withInternetGateways (m : NetworkModel) (part : Option Element) :
    Except Fault NetworkModel := do
  m.fillable .internetGateways m.internetGateways.isEmpty
  match part with
  | none => return m
  | some e =>
    let found := (e.follow (Route.child "internetGateway")).map InternetGateway.ofElement
    return { m with internetGateways := found }

/-- Fill in the sets of DHCP options. -/
def withDhcpOptionSets (m : NetworkModel) (part : Option Element) :
    Except Fault NetworkModel := do
  m.fillable .dhcpOptionSets m.dhcpOptionSets.isEmpty
  match part with
  | none => return m
  | some e =>
    let found := (e.follow (Route.child "dhcpOptionSet")).map DhcpOptionSet.ofElement
    return { m with dhcpOptionSets := found }

end NetworkModel

end CloudNet
