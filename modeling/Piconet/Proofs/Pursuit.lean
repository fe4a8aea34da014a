import Piconet.Proofs.Scene

/-!
# Runs of discovery keep to themselves

To go on with a run of discovery is a matter of that run and the device that it brings up: all other
runs and devices look as before, and nobody comes or goes (`Host.apart_pursue`).
-/

namespace Piconet.Host

/-- Everything but one run and one device looks as before, and the device is there if it was. -/
structure Apart (run : RunId) (id : DeviceId) (h h' : Host) : Prop where
  generation : h'.generation = h.generation
  transport : h'.transport.bare = h.transport.bare
  handles : h'.handles = h.handles
  manager : h'.manager = h.manager
  monitor : h'.monitor = h.monitor
  device? : ∀ j, j ≠ id → h'.device? j = h.device? j
  there : ∀ j, (h'.device? j).isSome = (h.device? j).isSome
  run? : ∀ k, k ≠ run → h'.run? k = h.run? k
  runs : ∀ x ∈ h'.runs.entries, x ∈ h.runs.entries ∨ x.2.device = id
  nextId : h'.nextId = h.nextId

namespace Apart

variable {h h' h'' : Host} {run : RunId} {id : DeviceId} {d : Device} {r : Run}

/-- Nothing is changed at all. -/
theorem refl (h : Host) : Apart run id h h :=
  ⟨rfl, rfl, rfl, rfl, rfl, fun _ _ => rfl, fun _ => rfl, fun _ _ => rfl, fun _ => .inl, rfl⟩

/-- One thing after the other, both about the same run and its device. -/
theorem trans (first : Apart run id h h') (second : Apart run id h' h'') : Apart run id h h'' where
  generation := second.generation.trans first.generation
  transport := second.transport.trans first.transport
  handles := second.handles.trans first.handles
  manager := second.manager.trans first.manager
  monitor := second.monitor.trans first.monitor
  device? j other := (second.device? j other).trans (first.device? j other)
  there j := (second.there j).trans (first.there j)
  run? k other := (second.run? k other).trans (first.run? k other)
  runs x mem := (second.runs x mem).elim (first.runs x) .inr
  nextId := second.nextId.trans first.nextId

/-- The record of the device is replaced; no other one is. -/
theorem setDevice (h : Host) (e : Device) : Apart run id h (h.setDevice id e) where
  generation := rfl
  transport := rfl
  handles := rfl
  manager := rfl
  monitor := rfl
  device? j other := by
    rw [Host.device?, Host.setDevice, Table.get?_modify, if_neg other]
    rfl
  there j := by
    rw [Host.device?, Host.setDevice, Table.get?_modify]
    split
    · next same => rw [same, Option.isSome_map]; rfl
    · rfl
  run? _ _ := rfl
  runs _ := .inl
  nextId := rfl

/-- The run enters another stage or takes an update, and stays a run for its device. -/
theorem setRun (h : Host) (device : r.device = id) : Apart run id h (h.setRun run r) where
  generation := rfl
  transport := rfl
  handles := rfl
  manager := rfl
  monitor := rfl
  device? _ _ := rfl
  there _ := rfl
  run? k other := by
    rw [Host.run?, Host.setRun, Table.get?_modify, if_neg other]
    rfl
  runs := Table.forall_mem_modify (fun _ => .inl) fun _ _ => .inr device
  nextId := rfl

/-- The run ends, and the others stay. -/
theorem endRun (h : Host) : Apart run id h (h.endRun run) where
  generation := rfl
  transport := rfl
  handles := rfl
  manager := rfl
  monitor := rfl
  device? _ _ := rfl
  there _ := rfl
  run? k other := by
    rw [Host.run?, Host.endRun, Table.get?_erase, if_neg other]
    rfl
  runs _ mem := .inl (List.mem_filter.1 mem).1
  nextId := rfl

/-- What shows nowhere in the scene makes no difference. -/
theorem aside {h h' : Host} (scene : h'.scene = h.scene) (device? : h'.device? = h.device?)
    (nextId : h'.nextId = h.nextId) : Apart run id h h' where
  generation := congrArg Scene.generation scene
  transport := congrArg Scene.transport scene
  handles := congrArg Scene.handles scene
  manager := congrArg Scene.manager scene
  monitor := congrArg Scene.monitor scene
  device? j _ := congrFun device? j
  there j := by rw [device?]
  run? k _ := congrArg (fun t : Table RunId Run => t.get? k) (congrArg Scene.runs scene)
  runs x mem := by
    have runs : h'.runs = h.runs := congrArg Scene.runs scene
    exact .inl (runs ▸ mem)
  nextId := nextId

/-- A duty is put on the agenda, which is nobody's device or run. -/
theorem urge (h : Host) (ds : List Duty) : Apart run id h (h.urge ds) := .aside rfl rfl rfl

/-- The events of the device are published, which only its receivers see. -/
theorem emitAll (h : Host) (id' : DeviceId) (es : List Event) : Apart run id h (h.emitAll id' es) := by
  rw [emitAll_eq]
  exact .aside rfl rfl rfl

/-- The end of discovery is reported once, with the `Initialized` event of the device. -/
theorem report (h : Host) (success : Bool) : Apart run id h (h.report id success) := by
  rw [Host.report]
  split
  · split
    · exact .refl h
    · exact (setDevice h _).trans (.aside rfl rfl rfl)
  · exact .refl h

/-- The run moves on to a stage, and goes on with it when it has its turn. -/
theorem enter (h : Host) (device : r.device = id) (stage : Stage) :
    Apart run id h (h.enter run r stage) :=
  (setRun h (r := r.enter stage) device).trans (urge _ _)

/-- A run that failed ends, reports the failure and has its device assessed. -/
theorem abandon (h : Host) (r : Run) : Apart run r.device h (h.abandon run r) :=
  ((endRun h).trans (report _ false)).trans (urge _ _)

/-- The first reading of the properties may complete the identity of the device, and leads on to its adapter or
gives the run up for lack of one. -/
theorem fetched (h : Host) (r : Run) (d : Device) (b : PropertyBatch) :
    Apart run r.device h (h.fetched run r d b) := by
  have read (e : Device) (es : List Event) :
      Apart run r.device h ((h.emitAll r.device es).setDevice r.device e) :=
    (emitAll h r.device es).trans (setDevice _ e)
  rw [Host.fetched]
  simp only
  split
  · split
    · exact ((read _ _).trans (enter _ rfl _)).trans (urge _ _)
    · exact (read _ _).trans (abandon _ r)
  · exact ((read _ _).trans (enter _ rfl _)).trans (urge _ _)

/-- Whatever a stage has brought is for the device of the run. -/
theorem proceed (h : Host) (r : Run) (d : Device) (stage : Stage) (a : stage.Yield) :
    Apart run r.device h (h.proceed run r d stage a) := by
  cases stage with
  | acquire => exact ((setDevice h _).trans (enter _ rfl _)).trans (urge _ _)
  | bind | subscribe | bindAdapter | subscribePower => exact enter h (by rfl) _
  | fetch => exact fetched h r d a
  | readPower => exact (setDevice h _).trans (enter _ (by rfl) _)
  | announce => exact ((report h true).trans (setRun _ (by rfl))).trans (urge _ _)

/-- A stage waits for its call, fails or has brought something. -/
theorem settleStage (h : Host) (r : Run) (d : Device) (stage : Stage) (finding : Finding stage.Yield) :
    Apart run r.device h (h.settleStage run r d stage finding) := by
  cases finding with
  | waits progress => exact setRun h rfl
  | failed => exact abandon h r
  | yields a => exact proceed h r d stage a

/-- That a call is made of the stub is noted. -/
theorem noteCall (h : Host) (path : String) (stage : Stage) (progress : Progress) :
    Apart run id h (h.noteCall path stage progress) := by
  unfold Host.noteCall
  split
  · exact .aside rfl rfl rfl
  · exact .refl h

/-- A run makes the call of its stage, or sees how far it has come. -/
theorem attempt (h : Host) (r : Run) (d : Device) (stage : Stage) (progress : Progress) :
    Apart run r.device h (h.attempt run r d stage progress) := by
  rw [Host.attempt]
  split
  · exact (noteCall h d.path stage progress).trans (settleStage _ r d stage _)
  · next p there =>
    have asked : Apart run r.device h
        { h with transport := .peer (p.attempt h.generation d.path stage).1 } :=
      { refl h with
        transport := by
          rw [there]
          exact congrArg Transport.peer (p.bare_attempt h.generation d.path stage) }
    exact asked.trans (settleStage _ r d stage _)
  · exact abandon h r

/-- An update of the properties or of the adapter's power is for the device that is followed. -/
theorem takeIn (h : Host) (d : Device) (u : Update) : Apart run id h (h.takeIn id d u) := by
  cases u with
  | properties batch => exact ((emitAll h id _).trans (setDevice _ _)).trans (urge _ _)
  | power on => exact (setDevice h _).trans (urge _ _)

/-- The run takes the next update of its feeds, and ends when both of them have. -/
theorem followOn (h : Host) (r : Run) (d : Device) :
    Apart run r.device h (h.followOn run r d) := by
  rw [Host.followOn]
  split
  · next u r' next =>
    have device : r'.device = r.device :=
      congrArg Standing.device (Run.takes_of_next? next).standing
    rw [device]
    exact ((setRun h device).trans (urge _ _)).trans (takeIn _ d u)
  · split
    · exact endRun h
    · exact setRun h rfl

end Apart

/-- **To go on with a run is a matter of that run and its device.** -/
theorem apart_pursue {h : Host} {run : RunId} {r : Run} (running : h.run? run = some r) :
    Apart run r.device h (h.pursue run) := by
  rw [pursue, running]
  simp only
  split
  · exact .endRun h
  · exact .followOn h r _
  · exact .refl h
  · exact .attempt h r _ _ _

end Piconet.Host
