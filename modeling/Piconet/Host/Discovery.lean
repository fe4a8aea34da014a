import Piconet.Host.Notification
import Piconet.Transport.Calls

/-!
# Discovery on a host

`Host.pursue` takes a run of discovery one step further: it makes the call of the run's stage, or
takes the next update of a device that is followed. A run whose device is gone ends. A failure
before everything is in place is final, but for the power of an adapter that cannot be read, which
counts as off.
-/

namespace Piconet

namespace Host

/-- Announces the end of discovery, once. -/
def report (h : Host) (id : DeviceId) (success : Bool) : Host :=
  match h.device? id with
  | some d =>
    if d.reported then h
    else
      (h.setDevice id { d with reported := true, initialized := d.initialized || success }).emit id
        (.initialized success)
  | none => h

/-- Merges a batch into a device and reports what changed. A batch that completes the device's
identity makes it look through the registry. -/
def applyBatch (h : Host) (id : DeviceId) (d : Device) (b : PropertyBatch) : Host :=
  let e := d.merge b
  let changes := d.changes e
  -- receivers get the events before the device is assessed
  let h := h.emitAll id (e.eventsFor changes)
  (h.setDevice id (if changes.identity then e.survey h.registry.profiles else e)).urge [.reassess id]

/-- Ends a run that failed. -/
def abandon (h : Host) (id : RunId) (r : Run) : Host :=
  ((h.endRun id).report r.device false).urge [.reassess r.device]

/-- Moves a run on to a stage. -/
def enter (h : Host) (id : RunId) (r : Run) (stage : Stage) : Host :=
  (h.setRun id (r.enter stage)).urge [.pursue id]

/-- Takes in the first reading of a device's properties. A device of a generation that asks for its
adapter has to name one. -/
def fetched (h : Host) (id : RunId) (r : Run) (d : Device) (b : PropertyBatch) : Host :=
  let e := d.merge b
  let h := (h.emitAll r.device (e.eventsFor (d.changes e))).setDevice r.device
    { e.survey h.registry.profiles with bound := true }
  if d.generation.requiresAdapter then
    match b.adapter with
    | some adapter => (h.enter id r (.bindAdapter adapter)).urge [.reassess r.device]
    | none => h.abandon id r
  else (h.enter id r .announce).urge [.reassess r.device]

/-- Goes on with what the call of a stage brought. -/
def proceed (h : Host) (id : RunId) (r : Run) (d : Device) : (stage : Stage) → stage.Yield → Host
  | .acquire, () =>
    ((h.setDevice r.device { d with busPresent := true }).enter id r .bind).urge [.reassess r.device]
  | .bind, () => h.enter id r .subscribe
  | .subscribe, link => h.enter id { r with changes := some { source := d.path, link } } .fetch
  | .fetch, batch => h.fetched id r d batch
  | .bindAdapter adapter, () => h.enter id r (.subscribePower adapter)
  | .subscribePower adapter, () =>
    h.enter id { r with power := some { source := adapter } } (.readPower adapter)
  | .readPower _, reading =>
    (h.setDevice r.device { d with adapter := .resolved reading.on }).enter id
      { r with power := if reading.heard then r.power else r.power.map (·.silence) } .announce
  | .announce, () =>
    ((h.report r.device true).setRun id { r with phase := .follow }).urge
      [.reassess r.device, .pursue id]

/-- Goes on with what the call of a stage came to. -/
def settleStage (h : Host) (id : RunId) (r : Run) (d : Device) (stage : Stage) :
    Finding stage.Yield → Host
  | .waits progress => h.setRun id { r with phase := .bringUp stage progress }
  | .failed => h.abandon id r
  | .yields a => h.proceed id r d stage a

/-- Notes the call that a run makes of a stub, when it is made. -/
def noteCall (h : Host) (path : String) (stage : Stage) (progress : Progress) : Host :=
  match progress, stage.call? path with
  | .fresh, some (kind, target) => h.log (.stub kind target)
  | _, _ => h

/-- Makes the call of a stage, or sees how far it has come. -/
def attempt (h : Host) (id : RunId) (r : Run) (d : Device) (stage : Stage) (progress : Progress) :
    Host :=
  match h.transport with
  | .stub s => (h.noteCall d.path stage progress).settleStage id r d stage
      (s.attempt d.path stage progress)
  | .peer p =>
    let (p, finding) := p.attempt h.generation d.path stage
    { h with transport := .peer p }.settleStage id r d stage finding
  | .unreachable => h.abandon id r

/-- Takes in an update of a device that is followed. -/
def takeIn (h : Host) (id : DeviceId) (d : Device) : Update → Host
  | .properties batch => h.applyBatch id d batch
  | .power on => (h.setDevice id { d with adapter := .resolved on }).urge [.reassess id]

/-- Takes the next update of a device that is followed. The run ends with its feeds. -/
def followOn (h : Host) (id : RunId) (r : Run) (d : Device) : Host :=
  match r.next? with
  | some (update, r) => ((h.setRun id r).urge [.pursue id]).takeIn r.device d update
  | none => if r.exhausted then h.endRun id else h.setRun id r.turn

/-- Takes a run one step further. A run whose device is gone ends. -/
def pursue (h : Host) (id : RunId) : Host :=
  match h.run? id with
  | none => h
  | some r =>
    match h.device? r.device, r.phase with
    | none, _ => h.endRun id
    | some d, .follow => h.followOn id r d
    | some _, .bringUp _ .stuck => h
    | some d, .bringUp stage progress => h.attempt id r d stage progress

/-- Whether a stub still holds a call that waits. -/
def isHeld (h : Host) (path : String) (stage : Stage) (atPath : Bool) : Bool :=
  match h.transport, stage.call? path with
  | .stub s, some (kind, target) => s.held.contains (if atPath then Stub.pathPoint kind target else kind)
  | _, _ => false

/-- Whether a run that waits can go on. -/
def isReady (h : Host) (r : Run) : Bool :=
  match h.device? r.device, r.phase with
  | none, _ => true
  | some _, .follow => r.hasUpdate || r.exhausted
  | some _, .bringUp _ .fresh => true
  | some d, .bringUp stage (.waits atPath) => !h.isHeld d.path stage atPath
  | some _, .bringUp _ .stuck => false

end Host

end Piconet
