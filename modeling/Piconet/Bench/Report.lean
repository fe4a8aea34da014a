import Piconet.Bench.Step

/-!
# Reports

After each step the bench reports what can be seen: the result of the step, what happened since the
step before, and the state of the devices, the manager and the registry. What was reported as having
happened is not reported again.
-/

namespace Piconet

/-- What the manager shows. -/
structure ManagerView where
  devices : List String
  usable : List String
  deriving DecidableEq, Repr

/-- What the registry shows. -/
structure RegistryView where
  uuids : List String
  loaded : Bool
  submissions : Nat
  listeners : Nat
  deriving DecidableEq, Repr

/-- What someone who follows a device got. -/
structure WatchView where
  batches : List PropertyBatch
  /-- there will be no more -/
  isOver : Bool
  deriving DecidableEq, Repr

/-- What can be seen after a step. -/
structure Report where
  result : Step.Result
  calls : List Call
  sightings : List Sighting
  events : List (String × List Event)
  batches : List (String × WatchView)
  running : List String
  devices : List (String × DeviceView)
  manager : Option ManagerView
  registry : RegistryView

namespace Host

/-- The devices that have a name, with their names. -/
def named (h : Host) : List (String × DeviceView) :=
  (h.handles.entries ++ h.managed).filterMap fun e =>
    (h.device? e.2).map fun d => (e.1, view d)

/-- What the manager shows. -/
def managerView (h : Host) : Option ManagerView :=
  h.manager.map fun _ =>
    { devices := h.managed.map (·.1)
      usable := (h.managed.filter fun e => h.isUsable e.2).map (·.1) }

/-- What the registry shows. -/
def registryView (h : Host) : RegistryView where
  uuids := h.registry.uuids
  loaded := h.registry.loaded
  submissions := h.registry.submissions
  listeners := h.listenerCount

end Host

namespace Bench

/-- Everything that happened is reported. -/
def clear (b : Bench) : Bench :=
  { b.onHost fun h => { h with
      calls := []
      sightings := []
      receivers := h.receivers.map fun r => { r with events := [] } } with
    watches := b.watches.mapValues fun f : Feed PropertyBatch => { f with queue := [] } }

def report (b : Bench) (result : Step.Result) : Report where
  result := result
  calls := b.host.calls
  sightings := b.host.sightings
  events := b.host.receivers.map fun r => (r.name, r.events)
  batches := b.watches.entries.map fun e => (e.1, ⟨e.2.queue, decide (e.2.link = .closed)⟩)
  running := b.host.runs.values.filterMap Run.label
  devices := b.host.named
  manager := b.host.managerView
  registry := b.host.registryView

/-- Takes a step and reports. -/
def advance (b : Bench) (s : Step) : Bench × Report :=
  let (b, r) := b.take s
  (b.clear, b.report r)

/-- The reports of a sequence of steps. -/
def play (b : Bench) : List Step → List Report
  | [] => []
  | s :: ss => (b.advance s).2 :: (b.advance s).1.play ss

end Bench

end Piconet
