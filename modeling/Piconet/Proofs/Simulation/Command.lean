import Piconet.Host.Monitoring
import Piconet.Proofs.Simulation.Basic

/-!
# Commands are steps of the core

A command that is obeyed while the core is open takes it through any number of steps: devices come
and go, watchers subscribe and unsubscribe, the registry handles a request. The many commands that
are about the other side of the radio take no step at all.
-/

namespace Piconet

variable {law : Core → Registry.Request → Prop} {scope : Core.Scope}

/-- What does not show in the core is no change at all. -/
theorem Core.Changes.of_eq {c d : Core} (same : d = c) : Core.Changes law scope c d := by
  rw [same]

/-- The name under which a command sets a receiver up. -/
def Command.receiver? : Command → Option String
  | .deviceAdded path => some path
  | _ => none

namespace Host

/-- **A request is one step**, with an announcement or without. -/
theorem steps_request {h : Host} {q : Registry.Request} (isOpen : h.core.isOpen)
    (lawful : law h.core q) : Core.Changes law scope h.core (h.request q).core := by
  rw [request]
  rcases handled : h.registry.handle q with ⟨r, n⟩
  cases n with
  | none => exact .single (.requestUnheard q r isOpen lawful handled)
  | some n =>
    exact .single (.request q r n ({ h with registry := r } : Host).listenerLives isOpen lawful
      handled fun _ => rfl)

/-- To drop a device is one change: it loses its record and its subscription. -/
theorem steps_destroy (h : Host) (id : DeviceId) : Core.Changes law scope h.core (h.destroy id).core := by
  rw [core_destroy]
  exact .single (.destroy id)

/-- To drop any number of devices is to drop them one by one. -/
theorem steps_destroyAll (h : Host) (es : List (String × DeviceId)) :
    Core.Changes law scope h.core (es.foldl (fun h e => h.destroy e.2) h).core := by
  induction es generalizing h with
  | nil => exact .refl
  | cons e es ih => exact (h.steps_destroy e.2).trans (ih _)

/-- To run discovery for the first time starts a run, and later on it does nothing. -/
theorem steps_startRun (h : Host) (id : DeviceId) (label : Option String) :
    Core.Changes law scope h.core (h.startRun id label).core := by
  cases found : h.device? id with
  | none => exact .of_eq (by rw [startRun, found])
  | some d =>
    cases first : d.started with
    | true => exact .of_eq (by rw [startRun, found]; simp [first])
    | false =>
      rw [core_startRun found first]
      exact .single (.startRun id d found first)

/-- The manager creates a device for a path it does not have, and runs its discovery. -/
theorem steps_deviceAdded (h : Host) (path : String) :
    Core.Changes law scope h.core (h.deviceAdded path).core := by
  rw [deviceAdded]
  split
  · next m hm =>
    split
    · exact .refl
    · refine .trans ?_ (steps_startRun _ _ _)
      change Core.Changes law scope h.core (h.create (.fresh path h.generation m.timeouts)).1.core
      rw [core_create]
      exact .single (.create _ _ _)
  · exact .refl

/-- The manager drops the device of a path, if there is one. -/
theorem steps_deviceRemoved (h : Host) (path : String) :
    Core.Changes law scope h.core (h.deviceRemoved path).core := by
  rw [deviceRemoved]
  split
  · split
    · exact steps_destroy h _
    · exact .refl
  · exact .refl

/-- The manager drops every device that it has. -/
theorem steps_shutdown (h : Host) : Core.Changes law scope h.core h.shutdown.core := by
  rw [shutdown]
  split
  · exact steps_destroyAll h _
  · exact .refl

/-- A watcher subscribes to the registry under a new identifier. -/
theorem steps_subscribe (h : Host) (name : String) (rules : List Rule) :
    Core.Changes law scope h.core (h.subscribe name rules).core := by
  have latest : (h.subscribe name rules).latest.get? =
      Function.update h.latest.get? name (some h.nextId) := by
    funext other
    rw [Function.update_apply, subscribe, Table.get?_set]
  have enlisted : (h.subscribe name rules).core = { h.core with
      subscriptions := h.core.subscriptions
        ++ [{ id := h.core.nextId, listener := .watcher h.core.nextId }]
      latest := Function.update h.core.latest name (some h.core.nextId)
      nextId := h.core.nextId + 1 } := by
    rw [core, latest]
    rfl
  rw [enlisted]
  exact .single (.enlist name)

/-- The latest subscription of a name is cancelled, which is never that of a device. -/
theorem steps_unsubscribe (h : Host) (name : String) :
    Core.Changes law scope h.core (h.unsubscribe name).core := by
  rw [unsubscribe]
  split
  · next i found => exact .single (.cancel name i found)
  · exact .refl

/-- A handle is given up, and its device goes. -/
theorem steps_drop (h : Host) (handle : String) : Core.Changes law scope h.core (h.drop handle).core := by
  rw [drop]
  split
  · exact steps_destroy h _
  · exact .refl

/-- Receivers of other names stay when those of one name go. -/
theorem find?_filter_name {name other : String} (rs : List Receiver) (ne : other ≠ name) :
    (rs.filter (·.name ≠ name)).find? (·.name = other) = rs.find? (·.name = other) := by
  rw [List.find?_filter]
  congr 1
  funext r
  by_cases same : r.name = other
  · simp [same, ne]
  · simp [same]

/-- A receiver is set up for a device's events; it is the only one under its name that has heard nothing yet. -/
theorem change_receive (h : Host) {name : String} (id : DeviceId) (listed : scope.roster name) :
    Core.Change law scope h.core none (h.receive name id).core := by
  refine .receivers _ (fun other => ?_) fun r mem => ?_
  · by_cases same : other = name
    · exact .inl (same ▸ listed)
    · have elsewhere : [({ name, device := id } : Receiver)].find? (·.name = other) = none := by
        simpa using Ne.symm same
      right
      rw [receive, List.find?_append, find?_filter_name _ same, elsewhere, Option.or_none]
      rfl
  · rcases List.mem_append.1 mem with mem | new
    · exact .inl (List.mem_filter.1 mem).1
    · rw [List.mem_singleton.1 new]
      exact .inr rfl

/-- To set up a receiver is one change. -/
theorem steps_receive (h : Host) {name : String} (id : DeviceId) (listed : scope.roster name) :
    Core.Changes law scope h.core (h.receive name id).core := .single (h.change_receive id listed)

/-- A receiver is given up. Those of all other names stay as they are. -/
theorem steps_unlisten (h : Host) {name : String} (listed : scope.roster name) :
    Core.Changes law scope h.core
      { h with receivers := h.receivers.filter (·.name ≠ name) }.core := by
  refine .single (.receivers _ (fun other => ?_) fun r mem => .inl (List.mem_filter.1 mem).1)
  by_cases same : other = name
  · exact .inl (same ▸ listed)
  · exact .inr (find?_filter_name _ same)

/-- A device that somebody has the manager take up publishes its events to a receiver under its path. -/
theorem steps_deviceAddedAndHeard (h : Host) {path : String} (listed : scope.roster path) :
    Core.Changes law scope h.core (h.deviceAddedAndHeard path).core := by
  rw [deviceAddedAndHeard]
  split
  · exact .refl
  · apply (h.steps_deviceAdded path).trans
    simp only
    split
    · exact steps_receive _ _ listed
    · exact .refl

/-! ## The other side of the radio -/

/-- What is behind the host shows in no core. -/
theorem core_changeStub (h : Host) (f : Stub → Stub) : (h.changeStub f).core = h.core := by
  rw [changeStub]
  split <;> rfl

/-- A feed of changed properties is filled without anybody seeing it; its run takes from it later. -/
theorem core_onChanges (h : Host) (path : String) (f : Feed PropertyBatch → Feed PropertyBatch) :
    (h.onChanges path f).core = h.core := core_mapRuns h fun _ => rfl

/-- A feed of power changes is filled without anybody seeing it, too. -/
theorem core_onPower (h : Host) (path : String) (f : Feed Bool → Feed Bool) :
    (h.onPower path f).core = h.core := core_mapRuns h fun _ => rfl

/-! ## All commands -/

/-- **A command is a number of steps**, if its request to the registry, should it be one, obeys
the law, and the name of the receiver that it sets up, should it do so, is in the scope. -/
theorem steps_obey {h : Host} (c : Command) (isOpen : h.core.isOpen)
    (lawful : ∀ q, c = .request q → law h.core q)
    (listed : ∀ name, c.receiver? = some name → scope.roster name) :
    Core.Changes law scope h.core (h.obey c).core := by
  cases c with
  | request q => exact steps_request isOpen (lawful q rfl)
  | subscribe name rules => exact h.steps_subscribe name rules
  | unsubscribe name => exact h.steps_unsubscribe name
  | dropWatcher name => exact .refl
  | hold | release | fail | unfail | setProperties | setPower => exact .of_eq (core_changeStub h _)
  | push path batch =>
    simp only [obey]
    split
    · exact .of_eq (core_onChanges h _ _)
    · exact .refl
  | power path on =>
    simp only [obey]
    split
    · split
      · exact .of_eq ((core_onPower _ _ _).trans (core_changeStub h _))
      · exact .refl
    · exact .refl
  | endChanges path =>
    simp only [obey]
    split
    · exact .of_eq (core_onChanges h _ _)
    · exact .refl
  | endPower path =>
    simp only [obey]
    split
    · exact .of_eq (core_onPower h _ _)
    · exact .refl
  | drop handle => exact h.steps_drop handle
  | deviceAdded path => exact h.steps_deviceAddedAndHeard (listed path rfl)
  | deviceRemoved path => exact h.steps_deviceRemoved path
  | shutdown => exact h.steps_shutdown
  | dropManager => exact h.steps_shutdown
  | get | profiles | withDevice | nothing | unknown => exact .refl

/-! ## The monitor -/

/-- The manager takes up a number of devices, one by one. -/
theorem steps_deviceAddedAll (h : Host) (paths : List String) :
    Core.Changes law scope h.core (paths.foldl deviceAdded h).core := by
  induction paths generalizing h with
  | nil => exact .refl
  | cons path paths ih => exact (h.steps_deviceAdded path).trans (ih _)

/-- What the monitor asks for is to create or to drop a device. -/
theorem steps_heed (h : Host) (q : Monitor.Request) : Core.Changes law scope h.core (h.heed q).core := by
  cases q with
  | add path => exact h.steps_deviceAdded path
  | remove path => exact h.steps_deviceRemoved path

/-- The monitor takes a signal, and the manager does what it asks for. -/
theorem steps_follow (h : Host) (m : Monitor) (branch : Monitor.Branch) :
    Core.Changes law scope h.core (h.follow m branch).core := by
  rw [follow]
  generalize m.take h.generation.deviceInterface branch = answer
  obtain ⟨m', request⟩ := answer
  cases request with
  | none => exact .refl
  | some q => exact steps_heed { h with monitor := some m' } q

/-- The monitor enumerates the objects of the peer, and the manager takes up the devices among them. -/
theorem steps_startMonitor (h : Host) (p : Peer) :
    Core.Changes law scope h.core (h.startMonitor p).core := by
  rw [startMonitor]
  split
  · simp only
    split
    · next tree _ => exact steps_deviceAddedAll { h with transport := .peer p.managedObjects.1 } _
    · exact .refl
    · exact .refl
  · exact .refl

end Host

end Piconet
