import Piconet.Proofs.Device
import Piconet.Proofs.Simulation.Command

/-!
# Discovery is steps of the core

A run of discovery goes on only while the core is quiet. It may edit its device, which is then
assessed anew, so a pursuit is three kinds of steps: the run is taken up or put off, its device is
put on the agenda, and the device is edited. That the host edits first and puts the device on the
agenda afterwards makes no difference, as the two touch different things.
-/

namespace Piconet

open Function (update)

namespace Run

/-- To take an update leaves a run where it stands. -/
theorem Takes.standing {r r' : Run} {u : Update} (takes : r.Takes u r') :
    r'.standing = r.standing := by
  cases takes <;> rfl

end Run

namespace Host

variable {law : Core → Registry.Request → Prop} {scope : Core.Scope} {h : Host} {run : RunId} {r : Run}
  {id : DeviceId}
  {d : Device}

/-! ## Taking up a run and putting it off -/

/-- That a run is to have a turn makes nobody listen. -/
theorem isQuiet_urge (quiet : h.core.isQuiet) (run : RunId) :
    (h.urge [.pursue run]).core.isQuiet := quiet

/-- A run may have another turn. -/
theorem steps_urge (quiet : h.core.isQuiet) (run : RunId) :
    Core.Changes law scope h.core (h.urge [.pursue run]).core :=
  .single (.defer _ quiet (isQuiet_urge quiet run))

/-- To enter a stage shows only on the agenda. -/
theorem core_enter (found : h.run? run = some r) (rising : r.phase ≠ .follow) {r' : Run}
    (same : r'.device = r.device) (stage : Stage) :
    (h.enter run r' stage).core = { h.core with agenda := .pursue run :: h.core.agenda } := by
  have standing : (r'.enter stage).standing = r.standing := by
    simp [Run.standing, Run.enter, same, rising]
  rw [enter, core_urge, core_setRun found standing]
  rfl

/-- A run that enters a stage makes nobody listen. -/
theorem isQuiet_enter (quiet : h.core.isQuiet) (r' : Run) (stage : Stage) :
    (h.enter run r' stage).core.isQuiet := quiet

/-- A run enters its next stage, with its device and before the device is initialized. -/
theorem steps_enter (quiet : h.core.isQuiet) (found : h.run? run = some r)
    (rising : r.phase ≠ .follow) (r' : Run) (same : r'.device = r.device) (stage : Stage) :
    Core.Changes law scope h.core (h.enter run r' stage).core := by
  rw [core_enter found rising same]
  exact .single (.defer _ quiet quiet)

/-! ## Edits -/

/-- A device is put down to be assessed. -/
theorem steps_summon (quiet : h.core.isQuiet) (found : h.device? id = some d)
    (allowed : scope.discovery id) : Core.Changes law scope h.core (h.urge [.reassess id]).core :=
  .single (.summon id d quiet found allowed)

/-- The first duty is to assess a device anew, and after it everything is quiet. -/
def summoned (h : Host) (id : DeviceId) : Prop :=
  ∃ ds : List Duty, h.agenda = .reassess id :: ds ∧ ds.all Duty.isPursuit

/-- Its assessment is then next on the agenda. -/
theorem summoned_urge (quiet : h.core.isQuiet) (id : DeviceId) : (h.urge [.reassess id]).summoned id :=
  ⟨h.agenda, rfl, quiet⟩

/-- **A device whose assessment is next may be edited**, and publishes what has changed. -/
theorem steps_edit {e : Device} (es : List Event) (next : h.summoned id)
    (found : h.device? id = some d) (edit : d.Edit h.registry.profiles e es)
    (up : e.initialized = true → d.initialized = true ∨
      ∃ run, h.core.standing.get? run = some ⟨id, true⟩) (allowed : scope.discovery id) :
    Core.Changes law scope h.core ((h.emitAll id es).setDevice id e).core := by
  obtain ⟨ds, next, quiet⟩ := next
  have told : (h.emitAll id es).device? id = some d := by
    rw [emitAll_eq]
    exact found
  rw [core_setDevice told, core_emitAll]
  exact .single (.edit id d e es ds next quiet found edit up allowed)

/-- The end of discovery is reported once, and only a run that follows reports a success. -/
theorem steps_report (next : h.summoned id) (found : h.device? id = some d) (success : Bool)
    (up : success = true → ∃ run, h.core.standing.get? run = some ⟨id, true⟩)
    (allowed : scope.discovery id) : Core.Changes law scope h.core (h.report id success).core := by
  rw [report, found]
  simp only
  split
  · exact .refl
  · next first =>
    refine steps_edit [.initialized success] next found
      (.report success (Bool.eq_false_iff.2 first)) ?_ allowed
    intro initialized
    rcases Bool.or_eq_true_iff.1 initialized with was | succeeded
    · exact .inl was
    · exact .inr (up succeeded)

/-- To report the end of discovery and to put duties on the agenda can be done in any order. -/
theorem report_urge (h : Host) (id : DeviceId) (success : Bool) (ds : List Duty) :
    (h.report id success).urge ds = (h.urge ds).report id success := by
  have looked : (h.urge ds).device? id = h.device? id := rfl
  rw [report, report, looked]
  cases h.device? id with
  | none => rfl
  | some d => simp only; split <;> rfl

/-- A run that failed reports so, and its device is assessed. -/
theorem steps_abandon (quiet : h.core.isQuiet) (found : h.device? r.device = some d)
    (allowed : scope.discovery r.device) : Core.Changes law scope h.core (h.abandon run r).core := by
  rw [abandon, report_urge]
  have ended : (h.endRun run).core.isQuiet := quiet
  have looked : (h.endRun run).device? r.device = some d := found
  exact ((h.steps_endRun run).trans (steps_summon ended looked allowed)).trans
    (steps_report (summoned_urge ended _) looked false (fun h => absurd h (by simp)) allowed)

/-! ## The stages -/

/-- To merge a batch and to put the device on the agenda can be done in any order. -/
theorem applyBatch_eq (h : Host) (id : DeviceId) (d : Device) (b : PropertyBatch) : h.applyBatch id d b =
    (((h.urge [.reassess id]).emitAll id ((d.merge b).eventsFor (d.changes (d.merge b)))).setDevice id
      (if (d.changes (d.merge b)).identity then (d.merge b).survey h.registry.profiles else d.merge b)) := by
  simp only [applyBatch, emitAll_eq]
  rfl

/-- A batch shows as the edit that it is of the device. -/
theorem steps_applyBatch (quiet : h.core.isQuiet) (found : h.device? id = some d)
    (b : PropertyBatch) (allowed : scope.discovery id) :
    Core.Changes law scope h.core (h.applyBatch id d b).core := by
  rw [applyBatch_eq]
  refine (steps_summon quiet found allowed).trans
    (steps_edit _ (summoned_urge quiet id) found (.batch b) (fun initialized => .inl ?_) allowed)
  split at initialized
  · rwa [Device.survey_eq] at initialized
  · exact initialized

/-- An update is merged into the device, which is assessed after it. -/
theorem steps_takeIn (quiet : h.core.isQuiet) (found : h.device? id = some d) (u : Update)
    (allowed : scope.discovery id) :
    Core.Changes law scope h.core (h.takeIn id d u).core := by
  cases u with
  | properties batch => exact steps_applyBatch quiet found batch allowed
  | power on =>
    exact (steps_summon quiet found allowed).trans
      (steps_edit _ (summoned_urge quiet id) found (.power on) .inl allowed)

/-- The device after its properties were read for the first time. -/
def readIn (h : Host) (d : Device) (b : PropertyBatch) : Device :=
  { (d.merge b).survey h.registry.profiles with bound := true }

/-- The host after they were read, once the device was put on the agenda. -/
def edited (h : Host) (id : DeviceId) (d : Device) (b : PropertyBatch) : Host :=
  ((h.urge [.reassess id]).emitAll id ((d.merge b).eventsFor (d.changes (d.merge b)))).setDevice id
    (h.readIn d b)

/-- After the first reading of the properties a run enters its next stage, or it is given up for lack of
an adapter. -/
theorem fetched_eq (h : Host) (run : RunId) (r : Run) (d : Device) (b : PropertyBatch) :
    ((d.generation.requiresAdapter && b.adapter.isNone) = false ∧
        ∃ stage, h.fetched run r d b = (h.enter run r stage).edited r.device d b) ∨
      ((d.generation.requiresAdapter && b.adapter.isNone) = true ∧
        h.fetched run r d b = ((h.endRun run).edited r.device d b).report r.device false) := by
  rw [fetched]
  simp only
  split
  · next required =>
    split
    · next adapter named =>
      refine .inl ⟨by simp [named], .bindAdapter adapter, ?_⟩
      simp only [edited, emitAll_eq]
      rfl
    · next unnamed =>
      refine .inr ⟨by simp [required, unnamed], ?_⟩
      rw [abandon, report_urge]
      simp only [edited, emitAll_eq]
      rfl
  · next free =>
    refine .inl ⟨by simp [free], .announce, ?_⟩
    simp only [edited, emitAll_eq]
    rfl

/-- The first batch does not initialize a device. -/
theorem initialized_readIn (h : Host) (d : Device) (b : PropertyBatch) :
    (h.readIn d b).initialized = d.initialized := by
  rw [readIn, Device.survey_eq]
  rfl

/-- The first batch does not report the end of discovery. -/
theorem reported_readIn (h : Host) (d : Device) (b : PropertyBatch) :
    (h.readIn d b).reported = d.reported := by
  rw [readIn, Device.survey_eq]
  rfl

/-- The first batch is stored with the device. -/
theorem device?_edited (found : h.device? id = some d) (b : PropertyBatch) :
    (h.edited id d b).device? id = some (h.readIn d b) := by
  have told : ((h.urge [.reassess id]).emitAll id
      ((d.merge b).eventsFor (d.changes (d.merge b)))).device? id = some d := by
    rw [emitAll_eq]
    exact found
  rw [edited, device?_setDevice told, Function.update_self]

/-- The device that has taken in its first batch is assessed next. -/
theorem summoned_edited (quiet : h.core.isQuiet) (d : Device) (b : PropertyBatch) :
    (h.edited id d b).summoned id :=
  ⟨h.agenda, by rw [edited, emitAll_eq]; rfl, quiet⟩

/-- To take in the first batch is to edit the device. -/
theorem steps_edited (quiet : h.core.isQuiet) (found : h.device? id = some d) (b : PropertyBatch)
    (allowed : scope.discovery id) : Core.Changes law scope h.core (h.edited id d b).core :=
  (steps_summon quiet found allowed).trans (steps_edit _ (summoned_urge quiet id) found (.fetch b)
    (fun initialized => .inl (initialized_readIn h d b ▸ initialized)) allowed)

/-- The first reading of the properties is an edit, after which the run enters its next stage or is
given up. -/
theorem steps_fetched (quiet : h.core.isQuiet) (running : h.run? run = some r)
    (rising : r.phase ≠ .follow) (found : h.device? r.device = some d) (b : PropertyBatch)
    (allowed : scope.discovery r.device) :
    Core.Changes law scope h.core (h.fetched run r d b).core := by
  rcases h.fetched_eq run r d b with ⟨-, stage, entered⟩ | ⟨-, abandoned⟩
  · rw [entered]
    exact (steps_enter quiet running rising r rfl stage).trans
      (steps_edited (isQuiet_enter quiet r stage) found b allowed)
  · rw [abandoned]
    have ended : (h.endRun run).core.isQuiet := quiet
    have looked := device?_edited (h := h.endRun run) found b
    exact ((h.steps_endRun run).trans (steps_edited ended found b allowed)).trans
      (steps_report (summoned_edited ended d b) looked false (fun h => absurd h (by simp)) allowed)

/-- A run that brings its device up does not follow it yet. -/
theorem standing_of_rising (running : h.run? run = some r) (rising : r.phase ≠ .follow) :
    h.core.standing.get? run = some ⟨r.device, false⟩ := by
  have looked : h.runs.get? run = some r := running
  simp [core, Table.get?_mapValues, looked, Run.standing, rising]

/-- A run that follows its device from now on shows as one. -/
theorem core_follow (h : Host) (run : RunId) (r : Run) :
    (h.setRun run { r with phase := .follow }).core =
      { h.core with standing := h.core.standing.modify run fun _ => ⟨r.device, true⟩ } :=
  core_setRun_following h _ rfl

/-- A run that has come up follows its device. -/
theorem follows_of_rising (running : h.run? run = some r) (rising : r.phase ≠ .follow) :
    (h.setRun run { r with phase := .follow }).core.standing.get? run = some ⟨r.device, true⟩ := by
  rw [core_follow, Table.get?_modify, if_pos rfl, standing_of_rising running rising]
  rfl

/-- To report that a device is up and to follow it can be done in any order. -/
theorem announce_eq (found : h.device? r.device = some d) :
    ((h.report r.device true).setRun run { r with phase := .follow }).urge [.reassess r.device, .pursue run] =
      (((h.setRun run { r with phase := .follow }).urge [.pursue run]).urge [.reassess r.device]).report
        r.device true := by
  have looked : (((h.setRun run { r with phase := .follow }).urge [.pursue run]).urge
      [.reassess r.device]).device? r.device = some d := found
  rw [report, report, found, looked]
  simp only
  split <;> rfl

/-- A run that has everything in place comes up, reports it and follows its device. -/
theorem steps_announce (quiet : h.core.isQuiet) (running : h.run? run = some r)
    (rising : r.phase ≠ .follow) (found : h.device? r.device = some d)
    (allowed : scope.discovery r.device) :
    Core.Changes law scope h.core (((h.report r.device true).setRun run { r with phase := .follow }).urge
      [.reassess r.device, .pursue run]).core := by
  let g := h.setRun run { r with phase := .follow }
  have calm : g.core.isQuiet := quiet
  have up : Core.Changes law scope h.core g.core := by
    rw [core_follow]
    exact .single (.comeUp run r.device (standing_of_rising running rising))
  have next : (g.urge [.pursue run]).core.isQuiet := isQuiet_urge calm run
  rw [announce_eq found]
  exact ((up.trans (steps_urge calm run)).trans (steps_summon next found allowed)).trans
    (steps_report (summoned_urge next _) found true (fun _ => ⟨run, follows_of_rising running rising⟩) allowed)

/-- **What a stage has brought** changes the device of the run and nothing else in the core. -/
theorem steps_proceed (quiet : h.core.isQuiet) (running : h.run? run = some r)
    (rising : r.phase ≠ .follow) (found : h.device? r.device = some d) (stage : Stage)
    (a : stage.Yield) (allowed : scope.discovery r.device) :
    Core.Changes law scope h.core (h.proceed run r d stage a).core := by
  cases stage with
  | acquire =>
    have calm : (h.enter run r .bind).core.isQuiet := isQuiet_enter quiet r .bind
    exact ((steps_enter quiet running rising r rfl .bind).trans (steps_summon calm found allowed)).trans
      (steps_edit [] (summoned_urge calm _) found .bus .inl allowed)
  | bind => exact steps_enter quiet running rising r rfl .subscribe
  | subscribe =>
    exact steps_enter quiet running rising { r with changes := some { source := d.path, link := a } }
      rfl .fetch
  | fetch => exact steps_fetched quiet running rising found a allowed
  | bindAdapter adapter => exact steps_enter quiet running rising r rfl (.subscribePower adapter)
  | subscribePower adapter =>
    exact steps_enter quiet running rising { r with power := some { source := adapter } } rfl
      (.readPower adapter)
  | readPower adapter =>
    have standing := standing_of_rising running rising
    have found_power : Core.Changes law scope h.core
        (h.setDevice r.device { d with adapter := .resolved a.on }).core := by
      rw [core_setDevice found]
      exact .single (.findPower run r.device d a.on quiet found standing allowed)
    exact found_power.trans (steps_enter
      (h := h.setDevice r.device { d with adapter := .resolved a.on }) quiet running rising
      { r with power := if a.heard then r.power else r.power.map (·.silence) } rfl .announce)
  | announce => exact steps_announce quiet running rising found allowed

/-- A stage waits, fails or has brought something. -/
theorem steps_settleStage (quiet : h.core.isQuiet) (running : h.run? run = some r)
    (rising : r.phase ≠ .follow) (found : h.device? r.device = some d) (stage : Stage)
    (finding : Finding stage.Yield) (allowed : scope.discovery r.device) :
    Core.Changes law scope h.core (h.settleStage run r d stage finding).core := by
  cases finding with
  | waits progress =>
    refine .of_eq (core_setRun running ?_)
    simp [Run.standing, rising]
  | failed => exact steps_abandon quiet found allowed
  | yields a => exact steps_proceed quiet running rising found stage a allowed

/-- A call of a stub that is noted shows in no core. -/
theorem core_noteCall (h : Host) (path : String) (stage : Stage) (progress : Progress) :
    (h.noteCall path stage progress).core = h.core := by
  unfold noteCall
  split
  · exact core_log h rfl
  · rfl

/-- A run makes the call of its stage. -/
theorem steps_attempt (quiet : h.core.isQuiet) (running : h.run? run = some r)
    (rising : r.phase ≠ .follow) (found : h.device? r.device = some d) (stage : Stage)
    (progress : Progress) (allowed : scope.discovery r.device) :
    Core.Changes law scope h.core (h.attempt run r d stage progress).core := by
  rw [attempt]
  split
  · next s _ =>
    let g := h.noteCall d.path stage progress
    have core : g.core = h.core := core_noteCall h d.path stage progress
    have device : g.device? r.device = some d := (congrFun (congrArg Core.devices core) _).trans found
    have runs : g.run? run = some r := by
      simp only [g, noteCall]
      split <;> exact running
    rw [← core]
    exact steps_settleStage (core ▸ quiet) runs rising device stage _ allowed
  · next p _ =>
    exact steps_settleStage (h := { h with transport := .peer (p.attempt h.generation d.path stage).1 })
      quiet running rising found stage _ allowed
  · exact steps_abandon quiet found allowed

/-- An update that a run follows is taken in after the run is put off. -/
theorem steps_followOn (quiet : h.core.isQuiet) (running : h.run? run = some r)
    (found : h.device? r.device = some d) (allowed : scope.discovery r.device) :
    Core.Changes law scope h.core (h.followOn run r d).core := by
  rw [followOn]
  split
  · next u r' next =>
    have takes := Run.takes_of_next? next
    have core : (h.setRun run r').core = h.core := core_setRun running takes.standing
    have device : r'.device = r.device := congrArg Standing.device takes.standing
    have calm : (h.setRun run r').core.isQuiet := quiet
    have off : Core.Changes law scope h.core ((h.setRun run r').urge [.pursue run]).core := by
      rw [← core]
      exact steps_urge calm run
    apply off.trans
    rw [device]
    exact steps_takeIn (isQuiet_urge calm run) found u allowed
  · split
    · exact h.steps_endRun run
    · exact .of_eq (core_setRun running rfl)

/-- **To go on with a run is a number of steps**, when everything is quiet. -/
theorem steps_pursue (quiet : h.core.isQuiet) (run : RunId)
    (allowed : ∀ r, h.run? run = some r → scope.discovery r.device) :
    Core.Changes law scope h.core (h.pursue run).core := by
  rw [pursue]
  split
  · exact .refl
  · next r running =>
    split
    · exact h.steps_endRun run
    · next d _ found _ => exact steps_followOn quiet running found (allowed r running)
    · exact .refl
    · next d stage progress _ found phase =>
      exact steps_attempt quiet running (by simp [phase]) found stage progress (allowed r running)

end Host

end Piconet
