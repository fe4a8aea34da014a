import Piconet.Device

/-!
# Session operations

An operation opens or closes the network session of a device. It starts with checks on the device's
record, makes at most one call to the remote device (`EndpointCall`) and ends by noting the result.
A device whose record shows a call on its way refuses every other operation.
-/

namespace Piconet

/-- A call to a remote device. -/
inductive EndpointCall where
  | connect (role : Role)
  /-- the interface is named where the bus asks for it -/
  | disconnect (role : Role) (interface : Option String)
  deriving DecidableEq, Repr

/-- What the caller of an operation gets: the local interface of an opened session. -/
abbrev Outcome := Except ConnectionError (Option String)

/-- An operation on the session of a device. -/
inductive Operation where
  | connect (role : Role)
  | disconnect
  deriving DecidableEq, Repr

/-- How an operation goes on after its checks, with the device as they left it. -/
inductive Started where
  /-- without a call -/
  | ended (after : Option Device) (outcome : Outcome)
  | calling (after : Device) (call : EndpointCall)

namespace Device

/-- Starts to open a session. -/
def beginConnect (d : Device) (r : Role) : Started :=
  if d.session.inFlight.isSome || d.session.role.isSome then .ended d (.error .sessionBusy)
  else if !d.initialized then .ended d (.error .notInitialized)
  else if !d.generation.supports r || !d.capabilities.serves r then
    .ended d (.error (.unsupportedBearer r))
  else if !d.bound then .ended d (.error .notInitialized)
  else
    .calling { d with session := { d.session with inFlight := some .connect, role := some r } }
      (.connect r)

/-- Takes note of how the opening call ended. -/
def finishConnect (d : Device) : Except ConnectionError String → Device
  | .ok interface =>
    { d with session := { d.session with inFlight := none, interface := some interface } }
  | .error _ => { d with session := .idle }

/-- Starts to close the session, whose role and interface are given up at once. A dial-up session
without an interface has nothing to close. -/
def beginDisconnect (d : Device) : Started :=
  if d.session.inFlight.isSome then .ended d (.error .sessionBusy)
  else match d.session.role with
    | none => .ended d (.error .notConnected)
    | some r =>
      let interface := d.session.interface
      let d : Device := { d with session := { d.session with role := none, interface := none } }
      if r = .dun && interface.isNone then .ended d (.ok none)
      else if !d.bound then .ended d (.error .notInitialized)
      else
        .calling { d with session := { d.session with inFlight := some .disconnect } }
          (.disconnect r (if d.generation.closesByInterface r then interface else none))

/-- Takes note that the closing call is over. -/
def finishDisconnect (d : Device) : Device :=
  { d with session := { d.session with inFlight := none } }

end Device

namespace Operation

/-- Starts the operation on a device, or on none if it is gone. -/
def start (op : Operation) : Option Device → Started
  | none => .ended none (.error .deviceGone)
  | some d =>
    match op with
    | connect r => d.beginConnect r
    | disconnect => d.beginDisconnect

/-- Ends the operation with the result of its call. An opening operation whose device is gone by
then has nothing to open. -/
def finish (op : Operation) (result : Except ConnectionError String) :
    Option Device → Option Device × Outcome
  | none =>
    (none, match op with
      | connect _ => .error .deviceGone
      | disconnect => result.map fun _ => none)
  | some d =>
    match op with
    | connect _ => (some (d.finishConnect result), result.map some)
    | disconnect => (some d.finishDisconnect, result.map fun _ => none)

/-- The deadline of the operation's call, in milliseconds. -/
def limit (op : Operation) (t : Timeouts) : Nat :=
  match op with
  | connect _ => t.connect
  | disconnect => t.disconnect

end Operation

end Piconet
