import CloudNet.Address.Ipv4
import CloudNet.Address.Mac

/-!
# Instances and interfaces

An instance and a network interface of one have the same record. An interface has an interface
name; the primary one (device index zero) goes by the name of its instance, the others by their own.
-/

namespace CloudNet

/-- An instance, or a network interface of one. -/
structure Instance where
  name : String := ""
  /-- The identifier of an interface; empty for an instance. -/
  ifname : String := ""
  /-- The instance that an interface belongs to. -/
  instanceName : String := ""
  accountId : String := ""
  mac : Mac := {}
  publicIp : Ipv4 := 0
  privateIp : Ipv4 := 0
  vpc : String := ""
  subnet : String := ""
  /-- The node that the instance is placed on. -/
  node : String := ""
  secgroupNames : List String := []
  /-- The positions of its security groups among those of the model. -/
  secgroups : List Nat := []
  attachmentId : String := ""
  srcDstCheck : Bool := false
  deviceIndex : Int32 := 0
  /-- The positions of its interfaces among those of the model. -/
  interfaces : List Nat := []
  deriving DecidableEq, Repr, Inhabited

namespace Instance

/-- The record is that of an interface. -/
def isInterface (i : Instance) : Bool := i.ifname != ""

/-- The record is that of an interface other than the primary one. -/
def isSecondary (i : Instance) : Bool := i.isInterface && i.deviceIndex != 0

/-- The record names the security group. -/
def hasSecgroup (i : Instance) (group : String) : Bool := i.secgroupNames.contains group

end Instance

/-- `word` occurs in `s`. -/
def occursIn (word : List Char) : List Char → Bool
  | [] => word.isEmpty
  | c :: s => word.isPrefixOf (c :: s) || occursIn word s

/-- The name is the identifier of an interface: it holds `eni-`. -/
def isInterfaceName (name : String) : Bool := occursIn "eni-".toList name.toList

end CloudNet
