import Piconet.Host.Notification

/-!
# Commands

Everybody can send commands to a host: to its registry, to the stub behind it, to the manager, or
to let go of a device. What a command answers is settled by the state that it finds
(`Host.answerTo`); what it does stands apart (`Host.obey`). A command that changes the registry
leaves the announcement on the agenda.
-/

namespace Piconet.Host

/-! ## Watchers -/

/-- Somebody keeps a watcher under the name. -/
def keepsWatcher (h : Host) (name : String) : Bool :=
  h.watchers.values.any fun w : Watcher => w.name = name && w.kept

/-- Nobody keeps the watcher of a name any longer. -/
def dropWatcher (h : Host) (name : String) : Host :=
  { h with watchers := h.watchers.mapValues fun w : Watcher =>
      if w.name = name then { w with kept := false } else w }

/-- Subscribes a new watcher, instead of the one kept under its name. -/
def subscribe (h : Host) (name : String) (rules : List Rule) : Host :=
  let id := h.nextId
  { h.dropWatcher name with
    watchers := (h.dropWatcher name).watchers.set id { name, rules }
    subscriptions := h.subscriptions ++ [{ id, listener := .watcher id }]
    latest := h.latest.set name id
    nextId := id + 1 }

/-- Cancels the latest subscription made under a name. -/
def unsubscribe (h : Host) (name : String) : Host :=
  match h.latest.get? name with
  | some id => { h with subscriptions := h.subscriptions.filter (·.id ≠ id) }
  | none => h

/-! ## The stub -/

def stub? (h : Host) : Option Stub :=
  match h.transport with
  | .stub s => some s
  | .peer _ | .unreachable => none

def changeStub (h : Host) (f : Stub → Stub) : Host :=
  match h.transport with
  | .stub s => { h with transport := .stub (f s) }
  | .peer _ | .unreachable => h

/-- Changes the feeds of property changes that a path reaches. -/
def onChanges (h : Host) (path : String) (f : Feed PropertyBatch → Feed PropertyBatch) : Host :=
  { h with runs := h.runs.mapValues fun r : Run =>
      { r with changes := r.changes.map fun q => if q.hears path then f q else q } }

/-- Changes the feeds of power changes that a path reaches. -/
def onPower (h : Host) (path : String) (f : Feed Bool → Feed Bool) : Host :=
  { h with runs := h.runs.mapValues fun r : Run =>
      { r with power := r.power.map fun q => if q.hears path then f q else q } }

def changesListeners (h : Host) (path : String) : Nat :=
  h.runs.values.countP fun r : Run => r.changes.any (·.hears path)

def powerListeners (h : Host) (path : String) : Nat :=
  h.runs.values.countP fun r : Run => r.power.any (·.hears path)

/-! ## The manager -/

/-- The devices of the manager by path, sorted. -/
def managed (h : Host) : List (String × DeviceId) :=
  match h.manager with
  | some m => m.devices.entries.mergeSort fun a b => decide (a.1 ≤ b.1)
  | none => []

def manages (h : Host) (path : String) : Bool :=
  h.manager.any (·.devices.contains path)

/-- A device of the manager that is usable. -/
def isUsable (h : Host) (id : DeviceId) : Bool := (h.device? id).any (·.usable)

/-- Has the manager take up a device and start its discovery, unless it has the path already. -/
def deviceAdded (h : Host) (path : String) : Host :=
  match h.manager with
  | some m =>
    if m.devices.contains path then h
    else
      let (h, id) := h.create (.fresh path h.generation m.timeouts)
      { h with manager := some { m with devices := m.devices.set path id } }.startRun id none
  | none => h

/-- Has the manager let go of a device. -/
def deviceRemoved (h : Host) (path : String) : Host :=
  match h.manager with
  | some m =>
    match m.devices.get? path with
    | some id => { h.destroy id with manager := some { m with devices := m.devices.erase path } }
    | none => h
  | none => h

/-- Has the manager let go of all devices. -/
def shutdown (h : Host) : Host :=
  match h.manager with
  | some m =>
    { m.devices.entries.foldl (fun h e => h.destroy e.2) h with
      manager := some { m with devices := {} } }
  | none => h

/-! ## Answering and obeying -/

/-- The answer of a command that only the stub can follow. -/
def answerStub (h : Host) (answer : Stub → Answer) : Answer := h.stub?.elim .refused answer

/-- The answer of a command that only the manager can follow. -/
def answerManager (h : Host) (answer : Manager → Answer) : Answer := h.manager.elim .refused answer

/-- The device behind a path of the manager, as everybody can see it. -/
def viewManaged (h : Host) (m : Manager) (path : String) : Option DeviceView :=
  ((m.devices.get? path).bind h.device?).map view

/-- What a command answers. -/
def answerTo (h : Host) : Command → Answer
  | .request q => .registry (h.registry.reply q)
  | .get uuid => .profile (h.registry.get? uuid)
  | .profiles => .profiles h.registry.profiles
  | .subscribe .. | .nothing => .nothing
  | .unsubscribe name => if h.latest.contains name then .nothing else .refused
  | .dropWatcher name => .flag (h.keepsWatcher name)
  | .hold point => h.answerStub fun s => .flag !(s.held.contains point)
  | .release _ => h.answerStub fun _ => .nothing
  | .fail point => h.answerStub fun s => .flag !(s.failing.contains point)
  | .unfail point => h.answerStub fun s => .flag (s.failing.contains point)
  | .setProperties path _ =>
    h.answerStub fun s => if s.devices.contains path then .nothing else .refused
  | .setPower path _ =>
    h.answerStub fun s => if s.adapters.contains path then .nothing else .refused
  | .push path _ =>
    h.answerStub fun s => if s.devices.contains path then .count (h.changesListeners path) else .refused
  | .power path _ =>
    h.answerStub fun s => if s.adapters.contains path then .count (h.powerListeners path) else .refused
  | .endChanges path =>
    h.answerStub fun s => if s.devices.contains path then .nothing else .refused
  | .endPower path =>
    h.answerStub fun s => if s.adapters.contains path then .nothing else .refused
  | .drop handle => .flag (h.handles.contains handle)
  | .deviceAdded path => h.answerManager fun m => .flag !(m.devices.contains path)
  | .deviceRemoved path => h.answerManager fun m => .flag (m.devices.contains path)
  | .shutdown => h.answerManager fun _ => .nothing
  | .dropManager => .flag h.manager.isSome
  | .withDevice path => h.answerManager fun m => .device (h.viewManaged m path)
  | .unknown => .refused

/-- Lets go of the device behind a handle. -/
def drop (h : Host) (handle : String) : Host :=
  match h.handles.get? handle with
  | some id => { h.destroy id with handles := h.handles.erase handle }
  | none => h

/-- Has the manager take up a device whose events somebody keeps, under its path. -/
def deviceAddedAndHeard (h : Host) (path : String) : Host :=
  if h.manages path then h
  else
    let h := h.deviceAdded path
    match h.manager.bind (·.devices.get? path) with
    | some id => h.receive path id
    | none => h

/-- Does what a command asks for; a command that is refused does nothing. -/
def obey (h : Host) : Command → Host
  | .request q => h.request q
  | .subscribe name rules => h.subscribe name rules
  | .unsubscribe name => h.unsubscribe name
  | .dropWatcher name => h.dropWatcher name
  | .hold point => h.changeStub (·.hold point)
  | .release point => h.changeStub (·.release point)
  | .fail point => h.changeStub (·.fail point)
  | .unfail point => h.changeStub (·.unfail point)
  | .setProperties path batch =>
    h.changeStub fun s => { s with devices := s.devices.modify path fun _ => batch }
  | .setPower path on =>
    h.changeStub fun s => { s with adapters := s.adapters.modify path fun _ => on }
  | .push path batch => if h.stub?.isSome then h.onChanges path (·.push batch) else h
  | .power path on =>
    match h.stub? with
    | some s =>
      if s.adapters.contains path then
        (h.changeStub fun s => { s with adapters := s.adapters.modify path fun _ => some on }).onPower
          path (·.push on)
      else h
    | none => h
  | .endChanges path => if h.stub?.isSome then h.onChanges path (·.close) else h
  | .endPower path => if h.stub?.isSome then h.onPower path (·.close) else h
  | .drop handle => h.drop handle
  | .deviceAdded path => h.deviceAddedAndHeard path
  | .deviceRemoved path => h.deviceRemoved path
  | .shutdown => h.shutdown
  | .dropManager => { h.shutdown with manager := none }
  | .get _ | .profiles | .withDevice _ | .nothing | .unknown => h

/-- Carries out the next command of a watcher. What comes of it is recorded when everything that
it brought about is done. -/
def perform (h : Host) (w : WatcherId) : List Command → Host
  | [] => h
  | c :: cs => (h.urge [.record w (h.answerTo c), .perform w cs]).obey c

/-- Records what came of a command. -/
def record (h : Host) (w : WatcherId) (a : Answer) : Host :=
  match h.watcher? w with
  | some watcher => h.sight (.did watcher.name a)
  | none => h

end Piconet.Host
