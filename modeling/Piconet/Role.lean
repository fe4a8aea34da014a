import Piconet.Capability

/-!
# Bearers of a network session

A session runs either over the personal area network profile, as a client of the device's access
point (`panu`), or over dial-up networking (`dun`).
-/

namespace Piconet

/-- The part this host plays in a network session. -/
inductive Role where
  /-- client of a network access point -/
  | panu
  /-- dial-up networking -/
  | dun
  deriving DecidableEq, Repr, Inhabited

namespace Role

/-- The role a profile's device type names, if it is a known one. -/
def ofSettingType? (text : String) : Option Role :=
  if text = "panu" then some .panu
  else if text = "dun" then some .dun
  else none

/-- The device type that a profile for this role carries. -/
def settingType : Role → String
  | panu => "panu"
  | dun => "dun"

/-- The argument of the bus call that opens the session. -/
def connectType : Role → String
  | panu => "nap"
  | dun => "dun"

/-- The role as people read it. -/
def describe : Role → String
  | panu => "PANU"
  | dun => "DUN"

/-- What the remote device must offer. -/
def capability : Role → Capabilities
  | panu => .accessPoint
  | dun => .dialUp

theorem ofSettingType?_settingType (r : Role) : ofSettingType? r.settingType = some r := by
  cases r <;> rfl

end Role

/-- Whether a device with these capabilities can serve the role. -/
def Capabilities.serves (c : Capabilities) : Role → Bool
  | .panu => c.nap
  | .dun => c.dun

end Piconet
