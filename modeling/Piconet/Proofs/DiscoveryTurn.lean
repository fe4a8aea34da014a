import Piconet.Proofs.Pursuit
import Piconet.Proofs.Identifiers

/-!
# What becomes of a run that goes on

A run that is taken up makes the call of its stage, or takes the next update of the device that it
follows. `Turns` lists what can become of the run and its device in that turn, with what the call came
to; the rest of the host is left alone (`Host.Apart`).
-/

namespace Piconet

/-! ## What calls come to -/

/-- What a stage came to: what its call brought, or that it failed. -/
abbrev Verdict := (stage : Stage) × Option stage.Yield

/-- What is to be said of a stage when its call is over. -/
def Stage.verdict? (stage : Stage) : Finding stage.Yield → Option Verdict
  | .waits _ => none
  | .failed => some ⟨stage, none⟩
  | .yields a => some ⟨stage, some a⟩

/-- It is said to have failed if it did. -/
theorem Stage.of_verdict? {stage : Stage} {finding : Finding stage.Yield} {v : Verdict}
    (said : stage.verdict? finding = some v) : v.1 = stage ∧ (v.2 = none → finding = .failed) := by
  cases finding with
  | waits q => exact absurd said (by simp [verdict?])
  | failed =>
    obtain rfl := Option.some.inj said
    exact ⟨rfl, fun _ => rfl⟩
  | yields a =>
    obtain rfl := Option.some.inj said
    exact ⟨rfl, fun none => absurd none (by simp)⟩

/-- A stage that can fail. The reading of power cannot, as a reading that fails counts as off. -/
def Stage.canFail : Stage → Bool
  | readPower _ | announce => false
  | _ => true

namespace Host

/-- What the call of a stage comes to. -/
def finding (h : Host) (path : String) (stage : Stage) (progress : Progress) : Finding stage.Yield :=
  match h.transport with
  | .stub s => s.attempt path stage progress
  | .peer p => (p.attempt h.generation path stage).2
  | .unreachable => .failed

/-- What comes of the stage that a run is at, if it goes on now. -/
def verdict? (h : Host) (r : Run) : Option Verdict :=
  match h.device? r.device, r.phase with
  | none, _ | some _, .follow | some _, .bringUp _ .stuck => none
  | some d, .bringUp stage progress => stage.verdict? (h.finding d.path stage progress)

theorem verdict?_of_bringUp {h : Host} {r : Run} {d : Device} {stage : Stage} {progress : Progress}
    (found : h.device? r.device = some d) (phase : r.phase = .bringUp stage progress)
    (unstuck : progress ≠ .stuck) : h.verdict? r = stage.verdict? (h.finding d.path stage progress) := by
  rw [verdict?, found, phase]
  cases progress with
  | stuck => exact absurd rfl unstuck
  | fresh | waits atPath => rfl

/-- What is said of a run is said of the stage that it is at. -/
theorem bringUp_of_verdict? {h : Host} {r : Run} {d : Device} {v : Verdict}
    (found : h.device? r.device = some d) (said : h.verdict? r = some v) : ∃ stage progress,
      r.phase = .bringUp stage progress ∧ stage.verdict? (h.finding d.path stage progress) = some v := by
  rw [verdict?, found] at said
  split at said
  · exact absurd said (by simp)
  · exact absurd said (by simp)
  · exact absurd said (by simp)
  · next d' stage progress _ same phase =>
    obtain rfl := Option.some.inj same
    exact ⟨stage, progress, phase, said⟩

/-- What a stage brought is what its call came to. -/
theorem yields_of_verdict? {h : Host} {r : Run} {d : Device} {stage : Stage} {a : stage.Yield}
    (found : h.device? r.device = some d) (said : h.verdict? r = some ⟨stage, some a⟩) :
    ∃ progress, r.phase = .bringUp stage progress ∧ h.finding d.path stage progress = .yields a := by
  obtain ⟨stage', progress, phase, said⟩ := bringUp_of_verdict? found said
  cases came : h.finding d.path stage' progress with
  | waits q =>
    rw [came] at said
    cases said
  | failed =>
    rw [came] at said
    cases said
  | yields a' =>
    rw [came] at said
    cases said
    exact ⟨progress, phase, came⟩

/-- The call of a stage is made, and the run goes on with what it came to. -/
theorem attempt_eq (h : Host) (run : RunId) (r : Run) (d : Device) (stage : Stage) (progress : Progress) :
    ∃ transport calls, transport.bare = h.transport.bare ∧ h.attempt run r d stage progress =
      { h with transport, calls }.settleStage run r d stage (h.finding d.path stage progress) := by
  rw [attempt, finding]
  cases there : h.transport with
  | stub s =>
    simp only
    unfold noteCall
    split
    · exact ⟨.stub s, _, rfl, by rw [← there]; rfl⟩
    · exact ⟨.stub s, h.calls, rfl, by rw [← there]⟩
  | peer p =>
    have asked := congrArg Transport.peer (p.bare_attempt h.generation d.path stage)
    exact ⟨.peer (p.attempt h.generation d.path stage).1, h.calls, asked, rfl⟩
  | unreachable =>
    have same : { h with transport := .unreachable } = h := by rw [← there]
    exact ⟨.unreachable, h.calls, rfl, by rw [same]; rfl⟩

/-- The reading of power never fails, and neither does what makes no call; but without a bus every call
does. -/
theorem canFail_of_finding {h : Host} {path : String} {stage : Stage} {progress : Progress}
    (failed : h.finding path stage progress = .failed) :
    stage.canFail ∨ h.transport = .unreachable := by
  rw [finding] at failed
  split at failed
  · next s _ =>
    refine .inl ?_
    cases stage with
    | readPower adapter =>
      rw [Stub.attempt] at failed
      simp only [Stage.call?] at failed
      split at failed
      · exact absurd failed (by simp)
      · exact absurd failed (by simp [Stub.find])
      · exact absurd failed (by simp [Stub.findFailing])
    | announce => exact absurd failed (by simp [Stub.attempt, Stage.call?, Stub.find])
    | acquire | bind | subscribe | fetch | bindAdapter | subscribePower => rfl
  · next p _ =>
    refine .inl ?_
    cases stage with
    | readPower adapter =>
      have found : (p.findPower adapter).2 = .failed := failed
      rw [Peer.findPower] at found
      split at found
      · split at found <;> exact absurd found (by simp)
      · exact absurd found (by simp)
      · exact absurd found (by simp)
    | announce => exact absurd failed (by simp [Peer.attempt])
    | acquire | bind | subscribe | fetch | bindAdapter | subscribePower => rfl
  · next none => exact .inr none

/-- The last stage has nothing to wait for. -/
theorem ne_announce_of_finding {h : Host} {path : String} {stage : Stage} {progress q : Progress}
    (waits : h.finding path stage progress = .waits q) : stage ≠ .announce := by
  rintro rfl
  rw [finding] at waits
  split at waits
  · exact absurd waits (by simp [Stub.attempt, Stage.call?, Stub.find])
  · exact absurd waits (by simp [Peer.attempt])
  · exact absurd waits (by simp)

end Host

/-! ## Turns -/

namespace Device

/-- The end of discovery is announced, once. -/
def endDiscovery (d : Device) (success : Bool) : Device :=
  if d.reported then d else { d with reported := true, initialized := d.initialized || success }

/-- The first reading of the properties is taken in. -/
def takeFirst (d : Device) (stored : List Profile) (b : PropertyBatch) : Device :=
  { (d.merge b).survey stored with bound := true }

theorem bare_takeFirst (d : Device) (stored : List Profile) (b : PropertyBatch) :
    (d.takeFirst stored b).bare = { (d.merge b).bare with bound := true } := by
  rw [takeFirst, survey_eq]
  rfl

/-- An update is taken in. -/
def takeIn (d : Device) (stored : List Profile) : Update → Device
  | .properties b => if (d.changes (d.merge b)).identity then (d.merge b).survey stored else d.merge b
  | .power on => { d with adapter := .resolved on }

end Device

/-- What becomes of a run and its device by what the call of a stage brought. -/
inductive Advances (r : Run) (d : Device) : (stage : Stage) → stage.Yield → Option Run → Device → Prop
  | acquire : Advances r d .acquire () (some (r.enter .bind)) { d with busPresent := true }
  | bind : Advances r d .bind () (some (r.enter .subscribe)) d
  | subscribe (link : Feed.Link) :
      Advances r d .subscribe link
        (some (Run.enter { r with changes := some { source := d.path, link } } .fetch)) d
  | fetch (batch : PropertyBatch) (stored : List Profile) (free : d.generation.requiresAdapter = false) :
      Advances r d .fetch batch (some (r.enter .announce)) (d.takeFirst stored batch)
  | named (batch : PropertyBatch) (stored : List Profile) (requires : d.generation.requiresAdapter = true)
      {adapter : String} (names : batch.adapter = some adapter) :
      Advances r d .fetch batch (some (r.enter (.bindAdapter adapter))) (d.takeFirst stored batch)
  | unnamed (batch : PropertyBatch) (stored : List Profile) (requires : d.generation.requiresAdapter = true)
      (names : batch.adapter = none) :
      Advances r d .fetch batch none ((d.takeFirst stored batch).endDiscovery false)
  | bindAdapter (adapter : String) :
      Advances r d (.bindAdapter adapter) () (some (r.enter (.subscribePower adapter))) d
  | subscribePower (adapter : String) :
      Advances r d (.subscribePower adapter) ()
        (some (Run.enter { r with power := some { source := adapter } } (.readPower adapter))) d
  | readPower (adapter : String) (reading : PowerReading) :
      Advances r d (.readPower adapter) reading
        (some (Run.enter
          { r with power := if reading.heard then r.power else r.power.map (·.silence) } .announce))
        { d with adapter := .resolved reading.on }
  | announce : Advances r d .announce () (some { r with phase := .follow }) (d.endDiscovery true)

/-- What becomes of a run and its device when the run is taken up, and what the call of its stage came
to. The run may be gone. -/
inductive Turns (r : Run) (d : Device) : Option Verdict → Option Run → Device → Prop
  | stuck {stage : Stage} (phase : r.phase = .bringUp stage .stuck) : Turns r d none (some r) d
  | waits {stage : Stage} {progress : Progress} (phase : r.phase = .bringUp stage progress)
      (calls : stage ≠ .announce) (q : Progress) :
      Turns r d none (some { r with phase := .bringUp stage q }) d
  | fails {stage : Stage} {progress : Progress} (phase : r.phase = .bringUp stage progress) :
      Turns r d (some ⟨stage, none⟩) none (d.endDiscovery false)
  | yields {stage : Stage} {progress : Progress} {a : stage.Yield} {next : Option Run} {e : Device}
      (phase : r.phase = .bringUp stage progress) (advances : Advances r d stage a next e) :
      Turns r d (some ⟨stage, some a⟩) next e
  | takes {u : Update} {r' : Run} (phase : r.phase = .follow) (takes : r.Takes u r')
      (stored : List Profile) : Turns r d none (some r') (d.takeIn stored u)
  | idle (phase : r.phase = .follow) : Turns r d none (some r.turn) d
  | ends (phase : r.phase = .follow) : Turns r d none none d

namespace Turns

variable {r : Run} {d e : Device} {v : Option Verdict} {next : Option Run}

/-- What a device is does not change in a turn. -/
theorem kept (turns : Turns r d v next e) :
    e.path = d.path ∧ e.generation = d.generation ∧ e.started = d.started := by
  have ended (d : Device) (success : Bool) : (d.endDiscovery success).path = d.path ∧
      (d.endDiscovery success).generation = d.generation ∧
      (d.endDiscovery success).started = d.started := by
    rw [Device.endDiscovery]
    split <;> exact ⟨rfl, rfl, rfl⟩
  have first (stored : List Profile) (b : PropertyBatch) : (d.takeFirst stored b).path = d.path ∧
      (d.takeFirst stored b).generation = d.generation ∧ (d.takeFirst stored b).started = d.started := by
    have bare := d.bare_takeFirst stored b
    exact ⟨(congrArg Device.path bare :), (congrArg Device.generation bare :), (congrArg Device.started bare :)⟩
  cases turns with
  | stuck | waits | idle | ends => exact ⟨rfl, rfl, rfl⟩
  | fails => exact ended d false
  | yields phase advances =>
    cases advances with
    | acquire | bind | subscribe | bindAdapter | subscribePower | readPower => exact ⟨rfl, rfl, rfl⟩
    | fetch batch stored | named batch stored => exact first stored batch
    | unnamed batch stored =>
      obtain ⟨path, generation, started⟩ := ended (d.takeFirst stored batch) false
      obtain ⟨path', generation', started'⟩ := first stored batch
      exact ⟨path.trans path', generation.trans generation', started.trans started'⟩
    | announce => exact ended d true
  | @takes u r' phase takes stored =>
    cases u with
    | power on => exact ⟨rfl, rfl, rfl⟩
    | properties b =>
      rw [Device.takeIn]
      split
      · rw [Device.survey_eq]
        exact ⟨rfl, rfl, rfl⟩
      · exact ⟨rfl, rfl, rfl⟩

/-- Nor does a run go over to another device. -/
theorem device (turns : Turns r d v (some r') e) : r'.device = r.device := by
  cases turns with
  | stuck | waits | idle => rfl
  | yields phase advances => cases advances <;> rfl
  | takes phase takes => cases takes <;> rfl

end Turns

/-! ## The only run of a device -/

namespace Host

/-- What became of a device and its run, which may be gone. -/
structure Became (h : Host) (id : DeviceId) (next : Option Run) (e : Device) : Prop where
  device : h.device? id = some e
  run : ∀ x ∈ h.runs.entries, x.2.device = id → next = some x.2

theorem device?_setDevice_self {h : Host} {id : DeviceId} {d : Device} (found : h.device? id = some d)
    (e : Device) : (h.setDevice id e).device? id = some e := by
  rw [device?_setDevice found, Function.update_self]

theorem device?_report {h : Host} {id : DeviceId} {d : Device} (found : h.device? id = some d)
    (success : Bool) : (h.report id success).device? id = some (d.endDiscovery success) := by
  rw [report, Device.endDiscovery]
  simp only [found]
  split
  · exact found
  · exact device?_setDevice_self found _

theorem runs_report (h : Host) (id : DeviceId) (success : Bool) : (h.report id success).runs = h.runs := by
  rw [report]
  split
  · split <;> rfl
  · rfl

/-- A device has one run at most. -/
theorem nodup_device {h : Host} (upkeep : h.core.Upkeep) : (h.runs.entries.map (·.2.device)).Nodup := by
  have sole : ((h.runs.entries.map fun e => (e.1, e.2.standing)).map (·.2.device)).Nodup := upkeep.sole
  rwa [List.map_map] at sole

section

variable {h h' : Host} {run : RunId} {r r' : Run} {d e : Device} (upkeep : h.core.Upkeep)
  (running : h.run? run = some r)

include upkeep running

theorem started_of_running (found : h.device? r.device = some d) : d.started = true :=
  upkeep.begun (run, r.standing)
    (List.mem_map.2 ⟨(run, r), Table.mem_entries_of_get? running, rfl⟩) d found

theorem eq_of_running {x : RunId × Run} (mem : x ∈ h.runs.entries) (device : x.2.device = r.device) :
    x = (run, r) :=
  List.inj_on_of_nodup_map (nodup_device upkeep) mem (Table.mem_entries_of_get? running) device

/-- The run is set. -/
theorem became_set (runs : h'.runs = (h.setRun run r').runs) (same : r'.device = r.device)
    (there : h'.device? r.device = some e) : h'.Became r.device (some r') e where
  device := there
  run x mem device := by
    rw [runs] at mem
    have kept : (h.setRun run r').runs.entries.map (·.2.device) = h.runs.entries.map (·.2.device) := by
      refine Table.map_modify (fun e : RunId × Run => e.2.device) fun s there => ?_
      obtain rfl := Option.some.inj (running.symm.trans there)
      exact same
    have sole : ((h.setRun run r').runs.entries.map (·.2.device)).Nodup := kept ▸ nodup_device upkeep
    have set : (h.setRun run r').run? run = some r' := by
      rw [run?, setRun, Table.get?_modify, if_pos rfl, show h.runs.get? run = some r from running]
      rfl
    have only := List.inj_on_of_nodup_map sole mem (Table.mem_entries_of_get? set) (device.trans same.symm)
    rw [only]

/-- The run ends. -/
theorem became_end (runs : h'.runs = (h.endRun run).runs) (there : h'.device? r.device = some e) :
    h'.Became r.device none e where
  device := there
  run x mem device := by
    rw [runs] at mem
    obtain ⟨mem, other⟩ := List.mem_filter.1 mem
    rw [eq_of_running upkeep running mem device] at other
    exact absurd other (by simp)

variable (found : h.device? r.device = some d)

include found

theorem turns_fetched {progress : Progress} (phase : r.phase = .bringUp .fetch progress) (b : PropertyBatch) :
    ∃ next e, Turns r d (some ⟨.fetch, some b⟩) next e ∧ (h.fetched run r d b).Became r.device next e := by
  let e := d.takeFirst h.registry.profiles b
  let h₁ := (h.emitAll r.device ((d.merge b).eventsFor (d.changes (d.merge b)))).setDevice r.device e
  have there : h₁.device? r.device = some e := by
    have found' : (h.emitAll r.device ((d.merge b).eventsFor (d.changes (d.merge b)))).device? r.device =
        some d := by
      rw [emitAll_eq]
      exact found
    exact device?_setDevice_self found' e
  have runs : h₁.runs = h.runs := by
    simp only [h₁, emitAll_eq]
    rfl
  have next : h.fetched run r d b =
      if d.generation.requiresAdapter then
        b.adapter.elim (h₁.abandon run r) fun adapter =>
          (h₁.enter run r (.bindAdapter adapter)).urge [.reassess r.device]
      else (h₁.enter run r .announce).urge [.reassess r.device] := by
    simp only [h₁, e, Device.takeFirst, emitAll_eq]
    rw [fetched, emitAll_eq]
    cases b.adapter <;> rfl
  -- from here on only these three facts about the changed host matter
  clear_value h₁
  have enters (stage : Stage) (h₂ : Host) (same : h₂.runs = (h₁.setRun run (r.enter stage)).runs)
      (there : h₂.device? r.device = some e) : h₂.Became r.device (some (r.enter stage)) e := by
    refine became_set upkeep running ?_ rfl there
    rw [same, setRun, runs]
    rfl
  cases requires : d.generation.requiresAdapter with
  | false =>
    rw [requires, if_neg (by simp)] at next
    rw [next]
    exact ⟨_, _, .yields phase (.fetch b _ requires), enters .announce _ rfl there⟩
  | true =>
    rw [requires, if_pos rfl] at next
    cases named : b.adapter with
    | some adapter =>
      rw [named, Option.elim_some] at next
      rw [next]
      exact ⟨_, _, .yields phase (.named b _ requires named), enters (.bindAdapter adapter) _ rfl there⟩
    | none =>
      rw [named, Option.elim_none] at next
      rw [next]
      refine ⟨_, _, .yields phase (.unnamed b h.registry.profiles requires named), ?_⟩
      refine became_end upkeep running ?_ (device?_report (h := h₁.endRun run) there false)
      change ((h₁.endRun run).report r.device false).runs = _
      rw [runs_report, endRun, runs]
      rfl

/-- What a call came to decides what becomes of the run and its device. -/
theorem turns_settleStage {stage : Stage} {progress : Progress} (phase : r.phase = .bringUp stage progress)
    (finding : Finding stage.Yield) (calls : ∀ q, finding = .waits q → stage ≠ .announce) :
    ∃ next e, Turns r d (stage.verdict? finding) next e ∧
      (h.settleStage run r d stage finding).Became r.device next e := by
  cases finding with
  | waits q => exact ⟨_, _, .waits phase (calls q rfl) q, became_set upkeep running rfl rfl found⟩
  | failed =>
    refine ⟨_, _, .fails phase, became_end upkeep running ?_ (device?_report (h := h.endRun run) found false)⟩
    exact runs_report _ _ _
  | yields a =>
    cases stage with
    | acquire =>
      exact ⟨_, _, .yields phase .acquire,
        became_set upkeep running rfl rfl (device?_setDevice_self found _)⟩
    | bind =>
      exact ⟨_, _, .yields phase .bind, became_set upkeep running rfl rfl found⟩
    | subscribe => exact ⟨_, _, .yields phase (.subscribe a), became_set upkeep running rfl rfl found⟩
    | fetch => exact turns_fetched upkeep running found phase a
    | bindAdapter adapter =>
      exact ⟨_, _, .yields phase (.bindAdapter adapter), became_set upkeep running rfl rfl found⟩
    | subscribePower adapter =>
      exact ⟨_, _, .yields phase (.subscribePower adapter), became_set upkeep running rfl rfl found⟩
    | readPower adapter =>
      exact ⟨_, _, .yields phase (.readPower adapter a),
        became_set upkeep running rfl rfl (device?_setDevice_self found _)⟩
    | announce =>
      refine ⟨_, _, .yields phase .announce, became_set upkeep running ?_ rfl (device?_report found true)⟩
      change ((h.report r.device true).runs.modify run _) = _
      rw [runs_report]
      rfl

/-- A run that follows its device takes an update, waits or ends. -/
theorem turns_followOn (phase : r.phase = .follow) :
    ∃ next e, Turns r d none next e ∧ (h.followOn run r d).Became r.device next e := by
  rw [followOn]
  split
  · next u r' next =>
    have takes := Run.takes_of_next? next
    have same : r'.device = r.device := by cases takes <;> rfl
    refine ⟨_, _, .takes phase takes h.registry.profiles, ?_⟩
    rw [same]
    cases u with
    | power on =>
      exact became_set upkeep running rfl same
        (device?_setDevice_self (h := (h.setRun run r').urge [.pursue run]) found _)
    | properties b =>
      refine became_set upkeep running ?_ same ?_
      · simp only [takeIn, applyBatch, emitAll_eq]
        rfl
      · simp only [takeIn, applyBatch, emitAll_eq]
        exact device?_setDevice_self (h := { (h.setRun run r').urge [.pursue run] with receivers := _ }) found _
  · split
    · exact ⟨_, _, .ends phase, became_end upkeep running rfl found⟩
    · exact ⟨_, _, .idle phase, became_set upkeep running rfl rfl found⟩

/-- **A run that is taken up has its turn**, and its device with it. -/
theorem turns_pursue : ∃ next e, Turns r d (h.verdict? r) next e ∧
    (h.pursue run).Became r.device next e := by
  cases phase : r.phase with
  | follow =>
    have none : h.verdict? r = none := by rw [verdict?, found, phase]
    have pursued : h.pursue run = h.followOn run r d := by simp only [pursue, running, found, phase]
    rw [none, pursued]
    exact turns_followOn upkeep running found phase
  | bringUp stage progress =>
    by_cases stuck : progress = .stuck
    · subst stuck
      have none : h.verdict? r = none := by rw [verdict?, found, phase]
      have pursued : h.pursue run = h := by simp only [pursue, running, found, phase]
      rw [none, pursued]
      refine ⟨_, _, .stuck phase, found, fun x mem device => ?_⟩
      rw [eq_of_running upkeep running mem device]
    · have pursued : h.pursue run = h.attempt run r d stage progress := by
        simp only [pursue, running, found, phase]
      obtain ⟨transport, calls, -, same⟩ := h.attempt_eq run r d stage progress
      rw [verdict?_of_bringUp found phase stuck, pursued, same]
      have upkeep' : ({ h with transport, calls } : Host).core.Upkeep := { upkeep with }
      exact turns_settleStage upkeep' running found phase _ fun q => ne_announce_of_finding

end

end Host

end Piconet
