import Piconet.Proofs.Sessionless.Basic

/-!
# Commands without sessions

A command answers and does on a host without sessions what it answers and does on any other: all that it
could tell of a session is the role that it shows of a device.
-/

namespace Piconet.Host

variable (h : Host)

/-! ## The stub and the manager -/

/-- The stub is the same. -/
theorem stub?_sessionless : h.sessionless.stub? = h.stub? := by
  rw [stub?, stub?, show h.sessionless.transport = h.transport.sessionless from rfl]
  cases h.transport <;> rfl

/-- What a command changes about the stub is not about sessions. -/
theorem changeStub_sessionless (f : Stub → Stub) :
    h.sessionless.changeStub f = (h.changeStub f).sessionless := by
  rw [changeStub, changeStub, show h.sessionless.transport = h.transport.sessionless from rfl]
  cases h.transport <;> rfl

/-- The manager creates a device for a new path and runs its discovery. -/
theorem deviceAdded_sessionless (path : String) :
    h.sessionless.deviceAdded path = (h.deviceAdded path).sessionless := by
  rw [deviceAdded, deviceAdded, show h.sessionless.manager = h.manager from rfl]
  cases h.manager with
  | none => rfl
  | some m =>
    simp only [show h.sessionless.generation = h.generation from rfl]
    split
    · rfl
    · have created := h.create_sessionless (.fresh path h.generation m.timeouts)
      rw [show Device.sessionless (.fresh path h.generation m.timeouts) =
        .fresh path h.generation m.timeouts from rfl] at created
      rw [created]
      exact startRun_sessionless { (h.create _).1 with
        manager := some { m with devices := m.devices.set path (h.create _).2 } } _ none

/-- The manager drops the device of a path together with its session. -/
theorem deviceRemoved_sessionless (path : String) :
    h.sessionless.deviceRemoved path = (h.deviceRemoved path).sessionless := by
  rw [deviceRemoved, deviceRemoved, show h.sessionless.manager = h.manager from rfl]
  cases h.manager with
  | none => rfl
  | some m =>
    simp only
    cases m.devices.get? path with
    | none => rfl
    | some id =>
      exact congrArg (fun g : Host => { g with manager := some { m with devices := m.devices.erase path } })
        (h.destroy_sessionless id)

/-- Any number of devices may be dropped, with or without their sessions. -/
theorem destroyAll_sessionless (es : List (String × DeviceId)) :
    es.foldl (fun h e => h.destroy e.2) h.sessionless =
      (es.foldl (fun h e => h.destroy e.2) h).sessionless := by
  induction es generalizing h with
  | nil => rfl
  | cons e es ih => rw [List.foldl_cons, List.foldl_cons, destroy_sessionless, ih]

/-- The manager drops all its devices together with their sessions. -/
theorem shutdown_sessionless : h.sessionless.shutdown = h.shutdown.sessionless := by
  rw [shutdown, shutdown, show h.sessionless.manager = h.manager from rfl]
  cases h.manager with
  | none => rfl
  | some m =>
    exact congrArg (fun g : Host => { g with manager := some { m with devices := {} } })
      (h.destroyAll_sessionless m.devices.entries)

/-- The events of a device that the manager takes up say nothing of its session. -/
theorem deviceAddedAndHeard_sessionless (path : String) :
    h.sessionless.deviceAddedAndHeard path = (h.deviceAddedAndHeard path).sessionless := by
  rw [deviceAddedAndHeard, deviceAddedAndHeard, deviceAdded_sessionless,
    show h.sessionless.manages path = h.manages path from rfl]
  split
  · rfl
  · simp only [show (h.deviceAdded path).sessionless.manager = (h.deviceAdded path).manager from rfl]
    split <;> rfl

/-- A handle is given up, and its device is dropped. -/
theorem drop_sessionless (handle : String) : h.sessionless.drop handle = (h.drop handle).sessionless := by
  rw [drop, drop, show h.sessionless.handles = h.handles from rfl]
  cases h.handles.get? handle with
  | none => rfl
  | some id =>
    exact congrArg (fun g : Host => { g with handles := h.handles.erase handle }) (h.destroy_sessionless id)

/-! ## Answering and obeying -/

/-- The only thing of a session that a view of a device shows is its role. -/
theorem viewManaged_sessionless (m : Manager) (path : String) :
    h.sessionless.viewManaged m path =
      (h.viewManaged m path).map fun v => { v with role := none } := by
  have found : (m.devices.get? path).bind h.sessionless.device? =
      ((m.devices.get? path).bind h.device?).map Device.sessionless := by
    cases m.devices.get? path with
    | none => rfl
    | some id => exact h.device?_sessionless id
  rw [viewManaged, viewManaged, found, Option.map_map, Option.map_map]
  rfl

/-- **What a command answers** is the same but for the role in the view of a device. -/
theorem answerTo_sessionless (c : Command) : h.sessionless.answerTo c = (h.answerTo c).sessionless := by
  have stub (answer : Stub → Answer) (tells : ∀ s, (answer s).sessionless = answer s) :
      h.sessionless.answerStub answer = (h.answerStub answer).sessionless := by
    rw [answerStub, answerStub, stub?_sessionless]
    cases h.stub? with
    | none => rfl
    | some s => exact (tells s).symm
  cases c with
  | withDevice path =>
    simp only [answerTo, answerManager]
    rw [show h.sessionless.manager = h.manager from rfl]
    cases h.manager with
    | none => rfl
    | some m => exact congrArg Answer.device (h.viewManaged_sessionless m path)
  | hold | release | fail | unfail => exact stub _ fun _ => rfl
  | setProperties | setPower | push | power | endChanges | endPower =>
    refine stub _ fun s => ?_
    split <;> rfl
  | unsubscribe name =>
    simp only [answerTo, show h.sessionless.latest = h.latest from rfl]
    split <;> rfl
  | deviceAdded | deviceRemoved | shutdown =>
    simp only [answerTo, answerManager, show h.sessionless.manager = h.manager from rfl]
    cases h.manager <;> rfl
  | _ => rfl

/-- **What a command does** has nothing to do with sessions. -/
theorem obey_sessionless (c : Command) : h.sessionless.obey c = (h.obey c).sessionless := by
  cases c with
  | request q => exact h.request_sessionless q
  | unsubscribe name =>
    simp only [obey, unsubscribe, show h.sessionless.latest = h.latest from rfl]
    split <;> rfl
  | hold | release | fail | unfail | setProperties | setPower => exact h.changeStub_sessionless _
  | push | endChanges | endPower =>
    simp only [obey, stub?_sessionless]
    split <;> rfl
  | power path on =>
    simp only [obey, stub?_sessionless]
    cases h.stub? with
    | none => rfl
    | some s =>
      simp only
      split
      · exact congrArg (·.onPower path (·.push on)) (h.changeStub_sessionless _)
      · rfl
  | drop handle => exact h.drop_sessionless handle
  | deviceAdded path => exact h.deviceAddedAndHeard_sessionless path
  | deviceRemoved path => exact h.deviceRemoved_sessionless path
  | shutdown => exact h.shutdown_sessionless
  | dropManager => exact congrArg (fun g : Host => { g with manager := none }) h.shutdown_sessionless
  | _ => rfl

/-- A watcher carries out its commands alike, and puts the answers aside without their roles. -/
theorem perform_sessionless (w : WatcherId) (cs : List Command) :
    h.sessionless.perform w cs = (h.perform w cs).sessionless := by
  cases cs with
  | nil => rfl
  | cons c cs =>
    rw [perform, perform, answerTo_sessionless, ← obey_sessionless]
    exact congrArg (·.obey c) (h.urge_sessionless [.record w (h.answerTo c), .perform w cs])

/-- A watcher records the answers to its commands without their roles. -/
theorem record_sessionless (w : WatcherId) (a : Answer) :
    h.sessionless.record w a.sessionless = (h.record w a).sessionless := by
  rw [record, record, show h.sessionless.watcher? w = h.watcher? w from rfl]
  cases h.watcher? w with
  | none => rfl
  | some watcher => exact h.sight_sessionless (.did watcher.name a)

end Piconet.Host
