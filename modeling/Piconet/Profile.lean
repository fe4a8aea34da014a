import Piconet.Address
import Piconet.Role

/-!
# Connection profiles

A profile tells the network service how to bring up a connection. A Bluetooth profile is bound to
the hardware address of one device and names the role it is for.
-/

namespace Piconet

/-- The part of a profile that binds it to a device. -/
structure BluetoothSettings where
  bdaddr : List UInt8
  deviceType : String
  deriving DecidableEq, Repr, Inhabited

/-- How one version of the internet protocol is set up. -/
structure IpSettings where
  method : String := "auto"
  mayFail : Bool := true
  deriving DecidableEq, Repr, Inhabited

/-- A connection profile. -/
structure Profile where
  uuid : String
  id : String
  connectionType : String
  autoconnect : Bool
  bluetooth : Option BluetoothSettings
  ipv4 : IpSettings
  ipv6 : IpSettings
  deriving DecidableEq, Repr, Inhabited

namespace Profile

/-- The connection type of Bluetooth profiles. -/
def bluetoothType : String := "bluetooth"

/-- The role the profile is for, if it is bound to a device and names a known one. -/
def role? (p : Profile) : Option Role := p.bluetooth.bind fun b => Role.ofSettingType? b.deviceType

/-- The profile for the access point of a device: client of a personal area network, IPv4 required,
IPv6 if there is any, started on demand only. -/
def forAccessPoint (uuid name : String) (address : HwAddress) : Profile where
  uuid := uuid
  id := name ++ " Network"
  connectionType := bluetoothType
  autoconnect := false
  bluetooth := some { bdaddr := address.toList, deviceType := Role.panu.settingType }
  ipv4 := { method := "auto", mayFail := false }
  ipv6 := { method := "auto", mayFail := true }

theorem role?_forAccessPoint (uuid name : String) (address : HwAddress) :
    (forAccessPoint uuid name address).role? = some .panu := rfl

end Profile

end Piconet
