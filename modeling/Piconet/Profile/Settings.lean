import Piconet.Bus.Value
import Piconet.Profile

/-!
# The settings of a profile

What the network service is given: sections of named values.
-/

namespace Piconet

/-- Sections of named values. -/
abbrev Settings := List (String × List (String × Bus.Value))

namespace IpSettings

def settings (ip : IpSettings) : List (String × Bus.Value) :=
  [("method", .string ip.method), ("may-fail", .bool ip.mayFail)]

end IpSettings

namespace BluetoothSettings

def settings (b : BluetoothSettings) : List (String × Bus.Value) :=
  [("bdaddr", .bytes b.bdaddr), ("type", .string b.deviceType)]

end BluetoothSettings

namespace Profile

/-- The sections of the profile; one that is not bound to a device has no `bluetooth` section. -/
def settings (p : Profile) : Settings :=
  [("connection",
    [("type", .string p.connectionType), ("id", .string p.id), ("uuid", .string p.uuid),
      ("autoconnect", .bool p.autoconnect)])]
  ++ (p.bluetooth.toList.map fun b => ("bluetooth", b.settings))
  ++ [("ipv4", p.ipv4.settings), ("ipv6", p.ipv6.settings)]

end Profile

end Piconet
