import Piconet.Discovery
import Piconet.Monitor
import Piconet.Naming
import Piconet.Operation
import Piconet.Transport.Peer
import Piconet.Transport.Stub
import Piconet.Watcher

/-!
# The host

A `Host` is everything on this side of the radio: the registry with its listeners, the devices and
who holds them, the runs of discovery and the transport to the remote side. What has to be done
before anybody else gets a turn stands in its agenda; announcements are put there listener by
listener, so a listener that changes the registry has its own announcement finished before the one
it reacts to goes on.
-/

namespace Piconet

abbrev DeviceId := Nat

abbrev WatcherId := Nat

abbrev RunId := Nat

/-- Somebody who hears of changes of the registry. -/
inductive Listener where
  | device (id : DeviceId)
  | watcher (id : WatcherId)
  deriving DecidableEq, Repr

/-- A listener's place in the list of those to notify. -/
structure Subscription where
  id : Nat
  listener : Listener
  deriving DecidableEq, Repr

/-- Somebody who keeps the events of a device. -/
structure Receiver where
  name : String
  device : DeviceId
  /-- the events not collected yet -/
  events : List Event := []

/-- A call to the remote side, or a profile submitted to the registry. -/
inductive Call where
  /-- a call of a stub, by its kind and the path it is about -/
  | stub (kind path : String)
  | session (path : String) (call : EndpointCall)
  | bus (member path interface : String) (arguments : List String)
  | submission (profile : Profile)

/-- Something to be done before anybody else gets a turn. -/
inductive Duty where
  /-- announces a change to the listeners that have not heard of it yet -/
  | announce (notice : Registry.Notice) (listeners : List Listener)
  /-- goes through the rules of a watcher, from the given one on -/
  | react (watcher : WatcherId) (notice : Registry.Notice) (rule : Nat)
  | perform (watcher : WatcherId) (commands : List Command)
  /-- records what came of a command -/
  | record (watcher : WatcherId) (answer : Answer)
  /-- finds out again whether a device is usable -/
  | reassess (device : DeviceId)
  /-- takes an accepted profile as the device's own -/
  | adopt (device : DeviceId) (uuid : String)
  /-- settles usability after an attempt to have a profile -/
  | conclude (device : DeviceId)
  /-- goes on with a run of discovery -/
  | pursue (run : RunId)

/-- The devices that were announced by path, and the deadlines of new ones. -/
structure Manager where
  timeouts : Timeouts := {}
  devices : Table String DeviceId := {}

/-- The way to the remote side. -/
inductive Transport where
  | stub (s : Stub)
  | peer (p : Peer)
  /-- there is no bus -/
  | unreachable

/-- Everything on this side of the radio. -/
structure Host where
  generation : Generation
  transport : Transport
  /-- where the UUIDs of submitted profiles come from -/
  naming : Naming := .byAddress
  registry : Registry := {}
  subscriptions : List Subscription := []
  watchers : Table WatcherId Watcher := {}
  /-- the latest subscription made under a name -/
  latest : Table String Nat := {}
  devices : Table DeviceId Device := {}
  handles : Table String DeviceId := {}
  manager : Option Manager := none
  monitor : Option Monitor := none
  receivers : List Receiver := []
  runs : Table RunId Run := {}
  /-- the addresses for which profiles were submitted -/
  submitted : List HwAddress := []
  /-- above every identifier given out -/
  nextId : Nat := 0
  agenda : List Duty := []
  calls : List Call := []
  sightings : List Sighting := []

namespace Host

/-! ## Looking things up -/

def device? (h : Host) (id : DeviceId) : Option Device := h.devices.get? id

/-- The device behind a handle or, under its path, one of the manager's. -/
def find? (h : Host) (name : String) : Option DeviceId :=
  h.handles.get? name <|> h.manager.bind (·.devices.get? name)

def watcher? (h : Host) (id : WatcherId) : Option Watcher := h.watchers.get? id

def run? (h : Host) (id : RunId) : Option Run := h.runs.get? id

/-! ## Changing one thing -/

/-- The record of a device that is there is replaced. -/
def setDevice (h : Host) (id : DeviceId) (d : Device) : Host :=
  { h with devices := h.devices.modify id fun _ => d }

def setRun (h : Host) (id : RunId) (r : Run) : Host :=
  { h with runs := h.runs.modify id fun _ => r }

/-- A run of discovery is over. -/
def endRun (h : Host) (id : RunId) : Host := { h with runs := h.runs.erase id }

/-- Puts duties in front of all others. -/
def urge (h : Host) (duties : List Duty) : Host := { h with agenda := duties ++ h.agenda }

/-- A call of the transport is noted. -/
def log (h : Host) (c : Call) : Host := { h with calls := h.calls ++ [c] }

/-- A watcher records what it has heard or got. -/
def sight (h : Host) (s : Sighting) : Host := { h with sightings := h.sightings ++ [s] }

/-- Gives an event to everybody who listens to the device. -/
def emit (h : Host) (id : DeviceId) (e : Event) : Host :=
  { h with receivers := h.receivers.map fun r =>
      if r.device = id then { r with events := r.events ++ [e] } else r }

/-- Events are published one after the other. -/
def emitAll (h : Host) (id : DeviceId) (es : List Event) : Host :=
  es.foldl (fun h e => h.emit id e) h

/-! ## Devices come and go -/

/-- A new receiver of a device's events; one of the same name is forgotten. -/
def receive (h : Host) (name : String) (id : DeviceId) : Host :=
  { h with receivers := h.receivers.filter (·.name ≠ name) ++ [{ name, device := id }] }

/-- Adds a device, which listens to the registry from now on. -/
def create (h : Host) (d : Device) : Host × DeviceId :=
  ({ h with
      devices := h.devices.set h.nextId d
      subscriptions := h.subscriptions ++ [{ id := h.nextId, listener := .device h.nextId }]
      nextId := h.nextId + 1 },
    h.nextId)

/-- Starts discovery of a device, the first time it is asked for. -/
def startRun (h : Host) (id : DeviceId) (label : Option String) : Host :=
  match h.device? id with
  | some d =>
    if d.started then h
    else
      { h.setDevice id { d with started := true } with
        runs := h.runs.set h.nextId { label, device := id }
        nextId := h.nextId + 1 }
  | none => h

/-- Lets go of a device. It hears and says nothing from now on; its run ends when it is next
looked at. -/
def destroy (h : Host) (id : DeviceId) : Host :=
  { h with
    devices := h.devices.erase id
    subscriptions := h.subscriptions.filter (·.listener ≠ .device id) }

/-- What everybody can see of a device. -/
def view (d : Device) : DeviceView where
  path := d.path
  address := d.address.map (·.text)
  name := d.name
  rssi := d.rssi
  capabilities := d.capabilities
  connected := d.connected
  usable := d.usable
  initialized := d.initialized
  role := d.session.role
  connections := d.candidates
  provisioned := d.provisioned

end Host

end Piconet
