import Piconet.Proofs.Core
import Piconet.Proofs.Table

/-!
# The core of a changed host

How each elementary change of a host shows in its core. Whatever only touches what the core leaves
out keeps the core by definition; the lemmas here are about the changes that show.
-/

namespace Piconet

open Function (update)

namespace Host

variable {h : Host} {id : DeviceId} {d : Device}

/-- A record is replaced, and no other one. -/
theorem device?_setDevice (found : h.device? id = some d) (e : Device) :
    (h.setDevice id e).device? = update h.device? id (some e) := by
  funext j
  have looked : h.devices.get? id = some d := found
  rw [Function.update_apply, device?, setDevice, Table.get?_modify, looked]
  rfl

/-- In the core that is an update of one device. -/
theorem core_setDevice (found : h.device? id = some d) (e : Device) :
    (h.setDevice id e).core = { h.core with devices := update h.core.devices id (some e) } := by
  rw [core, device?_setDevice found]
  rfl

/-- A duty that is urged is done before all that is on the agenda. -/
theorem core_urge (h : Host) (ds : List Duty) :
    (h.urge ds).core = { h.core with agenda := ds ++ h.core.agenda } := rfl

/-- Events are published to the receivers of the device, and show nowhere else. -/
theorem emitAll_eq (h : Host) (id : DeviceId) (es : List Event) :
    h.emitAll id es = { h with receivers := tell id es h.receivers } := by
  rw [emitAll, tell]
  induction es generalizing h with
  | nil => rfl
  | cons e es ih => rw [List.foldl_cons, ih]; rfl

/-- In the core the receivers are told the same. -/
theorem core_emitAll (h : Host) (id : DeviceId) (es : List Event) :
    (h.emitAll id es).core = { h.core with receivers := tell id es h.core.receivers } := by
  rw [emitAll_eq]
  rfl

/-- To note a call that submits no profile changes nothing that devices see. -/
theorem core_log (h : Host) {c : Call} (other : c.submission? = none) : (h.log c).core = h.core := by
  have same : (h.log c).submissions = h.submissions := by
    simp [submissions, log, List.filterMap_append, other]
  rw [core, same]
  rfl

theorem device?_create (h : Host) (d : Device) :
    (h.create d).1.device? = update h.device? h.nextId (some d) := by
  funext j
  rw [Function.update_apply, device?, create, Table.get?_set]
  rfl

theorem device?_destroy (h : Host) (id : DeviceId) :
    (h.destroy id).device? = update h.device? id none := by
  funext j
  rw [Function.update_apply, device?, destroy, Table.get?_erase]
  rfl

/-- A new device is subscribed to the registry under its own number. -/
theorem core_create (h : Host) (d : Device) :
    (h.create d).1.core = { h.core with
      devices := update h.core.devices h.core.nextId (some d)
      subscriptions := h.core.subscriptions
        ++ [{ id := h.core.nextId, listener := .device h.core.nextId }]
      nextId := h.core.nextId + 1 } := by
  rw [core, device?_create]
  rfl

/-- A device that is dropped takes its subscription along. What it is still to be notified of stays on the
agenda, and comes to nothing. -/
theorem core_destroy (h : Host) (id : DeviceId) :
    (h.destroy id).core = { h.core with
      devices := update h.core.devices id none
      subscriptions := h.core.subscriptions.filter (·.listener ≠ .device id) } := by
  rw [core, device?_destroy]
  rfl

/-- A device is marked as started, and its run stands before everything is initialized. -/
theorem core_startRun (found : h.device? id = some d) (first : d.started = false)
    (label : Option String) :
    (h.startRun id label).core = { h.core with
      devices := update h.core.devices id (some { d with started := true })
      standing := h.core.standing.set h.core.nextId ⟨id, false⟩
      nextId := h.core.nextId + 1 } := by
  have started : h.startRun id label = { h.setDevice id { d with started := true } with
      runs := h.runs.set h.nextId { label, device := id }
      nextId := h.nextId + 1 } := by
    rw [startRun, found]
    simp only [first, Bool.false_eq_true, if_false]
  rw [started, core]
  simp only [Table.mapValues_set]
  rw [core, ← device?_setDevice found]
  rfl

/-- A run that stays as far as it was looks the same. -/
theorem core_setRun {run : RunId} {r r' : Run} (found : h.run? run = some r)
    (same : r'.standing = r.standing) : (h.setRun run r').core = h.core := by
  have looked : h.runs.get? run = some r := found
  have modified : (h.runs.modify run fun _ => r').mapValues Run.standing
      = (h.runs.mapValues Run.standing).modify run fun _ => r.standing :=
    Table.mapValues_modify _ _ _ _ fun _ _ => same
  have standing : (h.runs.modify run fun _ => r').mapValues Run.standing
      = h.runs.mapValues Run.standing := by
    rw [modified, Table.modify_eq_self (by rw [Table.get?_mapValues, looked]; rfl)]
  rw [core, setRun]
  simp only [standing]
  rfl

/-- A run that comes to follow its device shows. -/
theorem core_setRun_following {run : RunId} {r : Run} (h : Host) (r' : Run)
    (standing : r'.standing = ⟨r.device, true⟩) :
    (h.setRun run r').core =
      { h.core with standing := h.core.standing.modify run fun _ => ⟨r.device, true⟩ } := by
  have modified : (h.runs.modify run fun _ => r').mapValues Run.standing
      = (h.runs.mapValues Run.standing).modify run fun _ => ⟨r.device, true⟩ :=
    Table.mapValues_modify _ _ _ _ fun _ _ => standing
  rw [core, setRun]
  simp only [modified]
  rfl

/-- What only the feeds of runs take part in does not show. -/
theorem core_mapRuns (h : Host) {f : Run → Run} (same : ∀ r, (f r).standing = r.standing) :
    { h with runs := h.runs.mapValues f }.core = h.core := by
  rw [core]
  simp only [Table.mapValues_mapValues, Function.comp_def, same]
  rfl

/-! ## Steps that end runs -/

variable {law : Core → Registry.Request → Prop} {scope : Core.Scope}

/-- Runs of discovery that are over may be forgotten. -/
theorem steps_endRuns {entries : List (RunId × Run)} (fewer : entries.Sublist h.runs.entries) :
    Core.Changes law scope h.core { h with runs := ⟨entries⟩ }.core :=
  .single (.endRuns _ (fewer.map _))

/-- One run of discovery that is over may be forgotten. -/
theorem steps_endRun (h : Host) (run : RunId) : Core.Changes law scope h.core (h.endRun run).core :=
  steps_endRuns List.filter_sublist

end Host

end Piconet
