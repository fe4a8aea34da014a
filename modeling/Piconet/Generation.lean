import Piconet.Role

/-!
# Generations of the BlueZ interface

BlueZ 4 and BlueZ 5 publish devices under different interface names. Generation 5 adds adapters
whose power decides whether a device is usable and an object manager; it dropped dial-up
networking.
-/

namespace Piconet

/-- A generation of the BlueZ interface. -/
inductive Generation where
  | bluez4
  | bluez5
  deriving DecidableEq, Repr

namespace Generation

/-- The generation assumed when nothing else is said. -/
instance : Inhabited Generation := ⟨.bluez5⟩

def describe : Generation → String
  | bluez4 => "BlueZ 4"
  | bluez5 => "BlueZ 5"

/-- Whether a device is usable only while its adapter is powered. -/
def requiresAdapter : Generation → Bool
  | bluez4 => false
  | bluez5 => true

/-- Whether the daemon announces its objects. -/
def exportsObjectManager : Generation → Bool
  | bluez4 => false
  | bluez5 => true

/-- The interface that device objects carry. -/
def deviceInterface : Generation → String
  | bluez4 => "org.bluez.Device"
  | bluez5 => "org.bluez.Device1"

/-- The interface through which a session of a role is opened, where there is one. -/
def sessionInterface? : Generation → Role → Option String
  | bluez4, .panu => some "org.bluez.Network"
  | bluez4, .dun => some "org.bluez.Serial"
  | bluez5, .panu => some "org.bluez.Network1"
  | bluez5, .dun => none

/-- Whether sessions of the role can be opened at all. -/
def supports (g : Generation) (r : Role) : Bool := (g.sessionInterface? r).isSome

/-- Whether the call that closes a session of the role names the local interface. -/
def closesByInterface : Generation → Role → Bool
  | bluez4, .dun => true
  | _, _ => false

/-- The service class of dial-up networking. -/
def dialUpClass : Nat := 0x1103

/-- The service class of a network access point. -/
def accessPointClass : Nat := 0x1116

/-- What a service class adds to a device's capabilities. -/
def capabilitiesOfClass (g : Generation) (serviceClass : Nat) : Capabilities :=
  if serviceClass = accessPointClass then .accessPoint
  else match g with
    | bluez4 => if serviceClass = dialUpClass then .dialUp else .empty
    | bluez5 => .empty

end Generation

end Piconet
