import Piconet.Generation

/-!
# Failures

`ConnectionError` lists why an operation on a device can fail, `BusFailure` why a call on the bus
can. `message` is the wording of each.
-/

namespace Piconet

/-- Why a call on the bus failed. -/
inductive BusFailure where
  /-- the peer answered with a named error -/
  | remote (name : String) (text : Option String)
  /-- a failure reported in words -/
  | reported (text : String)
  /-- the reply has another type than the call asks for -/
  | unexpectedReply
  /-- the path is no object path -/
  | malformedPath
  /-- there is no connection to the bus -/
  | disconnected
  deriving DecidableEq, Repr

def BusFailure.message : BusFailure → String
  | remote name text => name ++ ": " ++ text.getD "no details"
  | reported text => text
  | unexpectedReply => "unexpected reply"
  | malformedPath => "invalid object path"
  | disconnected => "not connected"

/-- The name of the error a bus uses when nothing more is known. -/
def BusFailure.failedName : String := "org.freedesktop.DBus.Error.Failed"

/-- Why an operation on a device failed. -/
inductive ConnectionError where
  | bus (failure : BusFailure)
  | timeout
  | notInitialized
  | deviceGone
  | unsupportedBearer (role : Role)
  | notConnected
  | sessionBusy
  | unsupportedVersion (generation : Generation)
  | missingAdapter
  | providerRejected (reason : String)
  | stuck (state : String)
  deriving DecidableEq, Repr

def ConnectionError.message : ConnectionError → String
  | bus failure => "D-Bus error: " ++ failure.message
  | timeout => "connection timeout"
  | notInitialized => "device not initialized"
  | deviceGone => "device is gone"
  | unsupportedBearer role => "bearer not supported by device: " ++ role.describe
  | notConnected => "no active Bluetooth session"
  | sessionBusy => "a Bluetooth session operation is already in progress"
  | unsupportedVersion generation => "not supported by " ++ generation.describe
  | missingAdapter => "device has no adapter"
  | providerRejected reason => "connection provider rejected profile: " ++ reason
  | stuck state => "connection stuck in state: " ++ state

end Piconet
