import Mathlib.Data.List.Nodup
import Piconet.Proofs.Revision

/-!
# Identifiers, devices and runs

An identifier that is given out is never given out again, and a device has at most one run of
discovery, which is the only one that brings it up (`Core.Upkeep`).
-/

namespace Piconet

open Function (update)

variable {law : Core → Registry.Request → Prop} {c c' : Core} {s : Option (DeviceId × Profile)}
  {id : DeviceId} {d e : Device}

namespace Core

/-! ## Duties about a device -/

/-- A step puts duties on the agenda for devices only that had some, or that are there. -/
theorem Step.about (step : Step law c s c') {duty : Duty} (due : duty ∈ c'.agenda)
    (about : duty.about? = some id) :
    (∃ duty ∈ c.agenda, duty.about? = some id) ∨ (c.devices id).isSome := by
  cases step.arises.2 duty due with
  | kept due => exact .inl ⟨duty, due, about⟩
  | reassess found =>
    obtain rfl := Option.some.inj about
    exact .inr (by rw [found]; rfl)
  | conclude first => exact .inl ⟨_, first, about⟩
  | adopt first => exact .inl ⟨_, first, about⟩
  | heard | announced => exact absurd about (by simp [Duty.about?])
  | pursuit isPursuit =>
    obtain ⟨run, rfl⟩ := Duty.eq_of_isPursuit isPursuit
    exact absurd about (by simp [Duty.about?])
  | watch isWatch =>
    obtain ⟨_, _, _, rfl⟩ | ⟨_, _, rfl⟩ | ⟨_, _, rfl⟩ := Duty.eq_of_isWatch isWatch <;>
      exact absurd about (by simp [Duty.about?])

/-! ## Upkeep -/

/-- What identifiers, devices and runs of discovery have in common. -/
structure Upkeep (c : Core) : Prop where
  /-- the identifier of a device is not given out again -/
  known : ∀ id d, c.devices id = some d → id < c.nextId
  /-- nor is it while something is due for the device -/
  due : ∀ duty ∈ c.agenda, ∀ id, duty.about? = some id → id < c.nextId
  /-- nor are those of a run and of its device -/
  bound : ∀ e ∈ c.standing.entries, e.1 < c.nextId ∧ e.2.device < c.nextId
  /-- a device has at most one run -/
  sole : (c.standing.entries.map (·.2.device)).Nodup
  /-- a device with a run was started -/
  begun : ∀ e ∈ c.standing.entries, ∀ d, c.devices e.2.device = some d → d.started
  /-- a run that does not follow its device brings it up still -/
  rising : ∀ e ∈ c.standing.entries, e.2.following = false →
    ∀ d, c.devices e.2.device = some d → d.initialized = false
  /-- discovery comes before its success -/
  idle : ∀ id d, c.devices id = some d → d.started = false → d.initialized = false

theorem upkeep_opening (isLoaded : Bool) (naming : Naming) : (opening isLoaded naming).Upkeep where
  known _ _ found := absurd found (by simp [opening])
  due _ hd := absurd hd (by simp [opening])
  bound _ he := absurd he (by simp [opening])
  sole := List.nodup_nil
  begun _ he := absurd he (by simp [opening])
  rising _ he := absurd he (by simp [opening])
  idle _ _ found := absurd found (by simp [opening])

namespace Upkeep

variable (kept : c.Upkeep)

include kept

/-- There is no run whose identifier is still to be given out. -/
theorem get?_nextId : c.standing.get? c.nextId = none := by
  apply Option.eq_none_iff_forall_ne_some.2
  intro s found
  exact absurd (kept.bound _ (Table.mem_entries_of_get? found)).1 (Nat.lt_irrefl _)

/-- The run that follows a device is the only one that the device has. -/
theorem following_of_get? {run : RunId} (follows : c.standing.get? run = some ⟨id, true⟩)
    {x : RunId × Standing} (mem : x ∈ c.standing.entries) (same : x.2.device = id) :
    x.2.following = true := by
  have other : (run, (⟨id, true⟩ : Standing)) ∈ c.standing.entries :=
    Table.mem_entries_of_get? follows
  have equal := List.inj_on_of_nodup_map kept.sole mem other same
  rw [equal]

end Upkeep

/-- How the standing of runs changes in a step. -/
theorem Step.standing (step : Step law c s c') :
    c'.standing.entries.Sublist c.standing.entries ∨
    (∃ run id, c.standing.get? run = some ⟨id, false⟩ ∧
      c'.standing = c.standing.modify run fun _ => ⟨id, true⟩) ∨
    ∃ id d, c.devices id = some d ∧ d.started = false ∧ c'.nextId = c.nextId + 1 ∧
      c'.devices = update c.devices id (some { d with started := true }) ∧
      c'.standing = c.standing.set c.nextId ⟨id, false⟩ := by
  cases step with
  | startRun id d found first => exact .inr (.inr ⟨id, d, found, first, rfl, rfl, rfl⟩)
  | comeUp run id found => exact .inr (.inl ⟨run, id, found, rfl⟩)
  | endRuns t fewer => exact .inl fewer
  | _ => exact .inl (List.Sublist.refl _)

namespace Upkeep

variable (kept : c.Upkeep) (step : Step law c s c')

include kept step

/-- A device that is there has a number that was given out. -/
theorem known_step (there : c'.devices id = some e) : id < c'.nextId := by
  rcases step.origin there with ⟨d, found, -⟩ | ⟨rfl, next, -⟩
  · exact Nat.lt_of_lt_of_le (kept.known id d found) step.nextId_le
  · rw [next]
    exact Nat.lt_succ_self _

/-- A device that something is due to has a number that was given out. -/
theorem due_step {duty : Duty} (due : duty ∈ c'.agenda) (about : duty.about? = some id) :
    id < c'.nextId := by
  refine Nat.lt_of_lt_of_le ?_ step.nextId_le
  rcases step.about due about with ⟨earlier, due, about⟩ | there
  · exact kept.due earlier due id about
  · obtain ⟨d, found⟩ := Option.isSome_iff_exists.1 there
    exact kept.known id d found

variable {x : RunId × Standing} (mem : x ∈ c.standing.entries)

include mem

/-- The device of a run that was there before the step was there before it too, if it is there. -/
theorem origin_of_mem (there : c'.devices x.2.device = some e) :
    ∃ d, c.devices x.2.device = some d ∧ c.Revises c' x.2.device d e := by
  rcases step.origin there with origin | ⟨new, -⟩
  · exact origin
  · exact absurd (kept.bound x mem).2 (by rw [new]; exact Nat.lt_irrefl _)

/-- A device with a run was started. -/
theorem begun_step (there : c'.devices x.2.device = some e) : e.started := by
  obtain ⟨d, found, revises⟩ := kept.origin_of_mem step mem there
  exact revises.started (kept.begun x mem d found)

/-- A device whose run has not reached its end is not initialized. -/
theorem rising_step (rises : x.2.following = false) (there : c'.devices x.2.device = some e) :
    e.initialized = false := by
  obtain ⟨d, found, revises⟩ := kept.origin_of_mem step mem there
  apply Bool.eq_false_iff.2
  intro initialized
  rcases revises.initialized initialized with was | ⟨run, follows⟩
  · exact absurd was (by simp [kept.rising x mem rises d found])
  · exact absurd (kept.following_of_get? follows mem rfl) (by simp [rises])

end Upkeep

/-- The run that a step starts is the only one of its device. -/
theorem Upkeep.sole_set (kept : c.Upkeep) (found : c.devices id = some d)
    (first : d.started = false) :
    ((c.standing.entries ++ [(c.nextId, (⟨id, false⟩ : Standing))]).map (·.2.device)).Nodup := by
  rw [List.map_append, List.nodup_append]
  refine ⟨kept.sole, List.nodup_singleton _, ?_⟩
  rintro j hj k hk rfl
  obtain ⟨x, mem, same⟩ := List.mem_map.1 hj
  have new : x.2.device = id := same.trans (List.mem_singleton.1 hk)
  exact absurd (kept.begun x mem d (by rw [new]; exact found)) (by simp [first])

/-- A device that was never started is not initialized. -/
theorem Upkeep.idle_step (kept : c.Upkeep) (step : Step law c s c') (there : c'.devices id = some e)
    (first : e.started = false) : e.initialized = false := by
  rcases step.origin there with ⟨d, found, revises⟩ | ⟨-, -, -, path, g, t, rfl⟩
  · apply Bool.eq_false_iff.2
    intro initialized
    have was : d.started = false :=
      Bool.eq_false_iff.2 fun started => absurd (revises.started started) (by simp [first])
    rcases revises.initialized initialized with risen | ⟨run, follows⟩
    · exact absurd risen (by simp [kept.idle id d found was])
    · have mem := Table.mem_entries_of_get? follows
      exact absurd (kept.begun _ mem d found) (by simp [was])
  · rfl

/-- **Upkeep is kept by every step.** -/
theorem Step.upkeep (step : Step law c s c') (kept : c.Upkeep) : c'.Upkeep := by
  have grown {x : RunId × Standing} (mem : x ∈ c.standing.entries) :
      x.1 < c'.nextId ∧ x.2.device < c'.nextId :=
    ⟨Nat.lt_of_lt_of_le (kept.bound x mem).1 step.nextId_le,
      Nat.lt_of_lt_of_le (kept.bound x mem).2 step.nextId_le⟩
  rcases step.standing with fewer | ⟨run, id, rises, same⟩ | ⟨id, d, found, first, next, devices, same⟩
  · exact {
      known := fun _ _ there => kept.known_step step there
      due := fun _ due _ about => kept.due_step step due about
      idle := fun _ _ there first => kept.idle_step step there first
      bound := fun x mem => grown (fewer.subset mem)
      sole := (fewer.map _).nodup kept.sole
      begun := fun x mem _ there => kept.begun_step step (fewer.subset mem) there
      rising := fun x mem rises _ there => kept.rising_step step (fewer.subset mem) rises there }
  · -- the run that comes up keeps its device
    have old := Table.mem_entries_of_get? rises
    exact {
      known := fun _ _ there => kept.known_step step there
      due := fun _ due _ about => kept.due_step step due about
      idle := fun _ _ there first => kept.idle_step step there first
      bound := by
        rw [same]
        exact Table.forall_mem_modify (fun x mem => grown mem) fun _ _ => ⟨(grown old).1, (grown old).2⟩
      sole := by
        rw [same, Table.map_modify (fun x : RunId × Standing => x.2.device)]
        · exact kept.sole
        · intro s hs
          obtain rfl := Option.some.inj (rises.symm.trans hs)
          rfl
      begun := by
        rw [same]
        exact Table.forall_mem_modify (fun x mem _ there => kept.begun_step step mem there)
          fun s hs _ there => kept.begun_step step old there
      rising := by
        rw [same]
        exact Table.forall_mem_modify
          (fun x mem rises _ there => kept.rising_step step mem rises there)
          fun s hs rises => absurd rises (by simp) }
  · -- the run that starts is added, and its device had no run before
    have entries : c'.standing.entries = c.standing.entries ++ [(c.nextId, ⟨id, false⟩)] := by
      rw [same, Table.entries_set_of_get?_eq_none kept.get?_nextId]
    have started {e : Device} (there : c'.devices id = some e) : e = { d with started := true } := by
      rw [devices, Function.update_self] at there
      exact (Option.some.inj there).symm
    exact {
      known := fun _ _ there => kept.known_step step there
      due := fun _ due _ about => kept.due_step step due about
      idle := fun _ _ there first => kept.idle_step step there first
      bound := by
        rw [entries]
        intro x mem
        rcases List.mem_append.1 mem with mem | mem
        · exact grown mem
        · obtain rfl := List.mem_singleton.1 mem
          exact ⟨by rw [next]; exact Nat.lt_succ_self _, Nat.lt_of_lt_of_le (kept.known id d found) step.nextId_le⟩
      sole := by
        rw [entries]
        exact kept.sole_set found first
      begun := by
        rw [entries]
        intro x mem e there
        rcases List.mem_append.1 mem with mem | mem
        · exact kept.begun_step step mem there
        · obtain rfl := List.mem_singleton.1 mem
          rw [started there]
      rising := by
        rw [entries]
        intro x mem rises e there
        rcases List.mem_append.1 mem with mem | mem
        · exact kept.rising_step step mem rises there
        · obtain rfl := List.mem_singleton.1 mem
          rw [started there]
          exact kept.idle id d found first }

end Core

/-- No device has an identifier that is still to be given out. -/
theorem Core.Upkeep.devices_nextId (upkeep : c.Upkeep) : c.devices c.nextId = none := by
  apply Option.eq_none_iff_forall_ne_some.2
  intro d found
  exact absurd (upkeep.known _ d found) (Nat.lt_irrefl _)

theorem Core.Steps.upkeep (steps : Core.Steps law c c') (upkeep : c.Upkeep) : c'.Upkeep :=
  steps.runs.preserves (fun _ _ _ upkeep step => step.upkeep upkeep) upkeep

/-- Nothing is due for an identifier that is still to be given out. -/
theorem Core.Upkeep.about_ne (upkeep : c.Upkeep) {duty : Duty} (due : duty ∈ c.agenda) :
    duty.about? ≠ some c.nextId :=
  fun about => absurd (upkeep.due duty due _ about) (Nat.lt_irrefl _)

/-- **In every run numbers are given out once**, and runs of discovery stand where their devices say. -/
theorem Bench.Reachable.upkeep {b : Bench} (reached : Reachable law b) : b.host.core.Upkeep :=
  reached.core_induction Core.upkeep_opening fun _ _ _ upkeep step => step.upkeep upkeep

end Piconet
