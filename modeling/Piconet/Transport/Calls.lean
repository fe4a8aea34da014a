import Piconet.Bus.ObjectPath
import Piconet.Stage
import Piconet.Transport.Adapter
import Piconet.Transport.Stub

/-!
# Calls of discovery

What the call of each stage comes to, on a stub and on a peer.
-/

namespace Piconet

namespace Stage

/-- The kind of call that a stage of a device's run makes, and the path it is about. -/
def call? (path : String) : Stage → Option (String × String)
  | acquire => some ("bus", "")
  | bind => some ("device", path)
  | subscribe => some ("changes", path)
  | fetch => some ("fetch", path)
  | bindAdapter adapter => some ("adapter", adapter)
  | subscribePower adapter => some ("adapter_changes", adapter)
  | readPower adapter => some ("powered", adapter)
  | announce => none

end Stage

namespace Stub

/-- What a call that passed its points comes to. -/
def find (s : Stub) (path : String) : (stage : Stage) → Finding stage.Yield
  | .acquire | .subscribePower _ | .announce => .yields ()
  | .bind => if s.devices.contains path then .yields () else .failed
  | .subscribe => .yields .live
  | .fetch =>
    match s.devices.get? path with
    | some (some batch) => .yields batch
    | _ => .failed
  | .bindAdapter adapter => if s.adapters.contains adapter then .yields () else .failed
  | .readPower adapter => .yields { on := ((s.adapters.get? adapter).join).getD false, heard := true }

/-- What a call that failed at a point comes to. A failed reading of power counts as off. -/
def findFailing : (stage : Stage) → Finding stage.Yield
  | .readPower _ => .yields { on := false, heard := true }
  | .acquire | .bind | .subscribe | .fetch | .bindAdapter _ | .subscribePower _ | .announce => .failed

/-- How far a call comes that has come as far as given. -/
def pass (s : Stub) (progress : Progress) (kind target : String) : Passage :=
  if progress = .waits true then s.passPath kind target else s.passKind kind target

/-- What the call of a stage comes to. -/
def attempt (s : Stub) (path : String) (stage : Stage) (progress : Progress) :
    Finding stage.Yield :=
  match stage.call? path with
  | none => s.find path stage
  | some (kind, target) =>
    match s.pass progress kind target with
    | .waits atPath => .waits (.waits atPath)
    | .passes => s.find path stage
    | .fails => findFailing stage

end Stub

namespace Peer

/-- Reads all properties of a device. -/
def fetch (p : Peer) (g : Generation) (path : String) :
    Peer × Response (List (String × Bus.Value)) :=
  match g with
  | .bluez4 => p.getProperties path g.deviceInterface
  | .bluez5 => p.getAll path g.deviceInterface

/-- What the reading of an adapter's power comes to. A reading that fails counts as off. -/
def findPower (p : Peer) (path : String) : Peer × Finding PowerReading :=
  match ({ path } : AdapterView).load p with
  | (p, .value a) =>
    match a.current p with
    | (p, .value on) => (p, .yields { on, heard := a.heard })
    | (p, .failed _) => (p, .yields { on := false, heard := a.heard })
    | (p, .never) => (p, .waits .stuck)
  | (p, .failed _) => (p, .yields { on := false, heard := false })
  | (p, .never) => (p, .waits .stuck)

/-- What the binding of an object comes to. Whether there is such an object does not matter. -/
def findBinding (path : String) : Finding Unit :=
  if Bus.isObjectPath path then .yields () else .failed

/-- What the call of a stage comes to. -/
def attempt (p : Peer) (g : Generation) (path : String) :
    (stage : Stage) → Peer × Finding stage.Yield
  | .acquire | .subscribePower _ | .announce => (p, .yields ())
  | .bind => (p, findBinding path)
  | .subscribe => (p, .yields (if p.connected then .live else .closed))
  | .fetch =>
    match p.fetch g path with
    | (p, .value entries) => (p, .yields (.ofEntries entries))
    | (p, .failed _) => (p, .failed)
    | (p, .never) => (p, .waits .stuck)
  | .bindAdapter adapter => (p, findBinding adapter)
  | .readPower adapter => p.findPower adapter

end Peer

end Piconet
