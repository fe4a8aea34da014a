import Piconet.Proofs.Pursuit
import Piconet.Proofs.Identifiers

/-!
# Who keeps a device

A device is there as long as its handle is kept: by somebody who holds it under a name, or by the
manager under the device's path. Each handle is in one place only (`Custody`), so to let go of what
is kept in one place is to let go of one device, and of nothing that anybody else still keeps.
-/

namespace Piconet

open Function (update)

/-- A place where the handle of a device is kept. -/
inductive Keeper where
  /-- somebody holds the handle under a name -/
  | holder (name : String)
  /-- the manager has the device under its path -/
  | manager (path : String)
  deriving DecidableEq, Repr

/-- The device whose handle is kept in a place. -/
def Host.kept? (h : Host) : Keeper → Option DeviceId
  | .holder name => h.handles.get? name
  | .manager path => h.manager.bind (·.devices.get? path)

/-- The handle of a device is kept by somebody, under a name or by the manager. -/
def Host.Keeps (h : Host) (id : DeviceId) : Prop := ∃ k, h.kept? k = some id

/-- The devices that are there are those whose handles are kept, each in one place. -/
structure Custody (kept? : Keeper → Option DeviceId) (there : DeviceId → Prop) : Prop where
  sole : ∀ k k' id, kept? k = some id → kept? k' = some id → k = k'
  there_iff : ∀ id, there id ↔ ∃ k, kept? k = some id

namespace Custody

variable {kept? : Keeper → Option DeviceId} {there : DeviceId → Prop} {k : Keeper} {id : DeviceId}

/-- A handle is given up, and the device goes. -/
theorem release (custody : Custody kept? there) (held : kept? k = some id) :
    Custody (update kept? k none) fun j => there j ∧ j ≠ id where
  sole k₁ k₂ j first second := by
    rw [Function.update_apply] at first second
    split at first
    · exact absurd first (by simp)
    · split at second
      · exact absurd second (by simp)
      · exact custody.sole k₁ k₂ j first second
  there_iff j := by
    constructor
    · rintro ⟨there, other⟩
      obtain ⟨k', kept⟩ := (custody.there_iff j).1 there
      refine ⟨k', ?_⟩
      rw [Function.update_apply, if_neg]
      · exact kept
      · rintro rfl
        exact other (Option.some.inj (kept.symm.trans held))
    · rintro ⟨k', kept⟩
      rw [Function.update_apply] at kept
      split at kept
      · exact absurd kept (by simp)
      · next elsewhere =>
        refine ⟨(custody.there_iff j).2 ⟨k', kept⟩, ?_⟩
        rintro rfl
        exact elsewhere (custody.sole k' k j kept held)

/-- A device comes, and its handle is kept where none was. -/
theorem take (custody : Custody kept? there) (free : kept? k = none) (new : ¬ there id) :
    Custody (update kept? k (some id)) fun j => there j ∨ j = id where
  sole k₁ k₂ j first second := by
    have unkept (k' : Keeper) : kept? k' ≠ some id := fun kept =>
      new ((custody.there_iff id).2 ⟨k', kept⟩)
    rw [Function.update_apply] at first second
    split at first
    · next here =>
      obtain rfl := Option.some.inj first
      split at second
      · next here' => exact here.trans here'.symm
      · exact absurd second (unkept k₂)
    · split at second
      · obtain rfl := Option.some.inj second
        exact absurd first (unkept k₁)
      · exact custody.sole k₁ k₂ j first second
  there_iff j := by
    constructor
    · rintro (there | rfl)
      · obtain ⟨k', kept⟩ := (custody.there_iff j).1 there
        refine ⟨k', ?_⟩
        rw [Function.update_apply, if_neg]
        · exact kept
        · rintro rfl
          exact absurd (free.symm.trans kept) (by simp)
      · exact ⟨k, Function.update_self ..⟩
    · rintro ⟨k', kept⟩
      rw [Function.update_apply] at kept
      split at kept
      · exact .inr (Option.some.inj kept).symm
      · exact .inl ((custody.there_iff j).2 ⟨k', kept⟩)

/-- All handles of the manager are given up. -/
theorem releaseAll (custody : Custody kept? there) (gone : DeviceId → Prop)
    (managed : ∀ id, gone id ↔ ∃ path, kept? (.manager path) = some id) :
    Custody (fun | .holder name => kept? (.holder name) | .manager _ => none)
      fun j => there j ∧ ¬ gone j where
  sole k₁ k₂ j first second := by
    cases k₁ with
    | manager path => exact absurd first (by simp)
    | holder name =>
      cases k₂ with
      | manager path => exact absurd second (by simp)
      | holder name' => exact custody.sole _ _ j first second
  there_iff j := by
    constructor
    · rintro ⟨there, stays⟩
      obtain ⟨k', kept⟩ := (custody.there_iff j).1 there
      cases k' with
      | holder name => exact ⟨.holder name, kept⟩
      | manager path => exact absurd ((managed j).2 ⟨path, kept⟩) stays
    · rintro ⟨k', kept⟩
      cases k' with
      | manager path => exact absurd kept (by simp)
      | holder name =>
        refine ⟨(custody.there_iff j).2 ⟨_, kept⟩, fun gone => ?_⟩
        obtain ⟨path, kept'⟩ := (managed j).1 gone
        exact absurd (custody.sole _ _ j kept kept') (by simp)

end Custody

/-- The devices of a host are those whose handles are kept, and the manager lists each path once. -/
structure Host.InCustody (h : Host) : Prop where
  custody : Custody h.kept? fun id => (h.device? id).isSome
  listed : ∀ m, h.manager = some m → ∀ e ∈ m.devices.entries, m.devices.get? e.1 = some e.2

namespace Host

variable {h h' : Host} {id : DeviceId} {d : Device} {path handle : String}

/-! ## Devices come and go -/

/-- A device that is dropped is gone, and no other one is. -/
theorem there_destroy (h : Host) (id j : DeviceId) :
    ((h.destroy id).device? j).isSome = true ↔ (h.device? j).isSome ∧ j ≠ id := by
  rw [device?_destroy, Function.update_apply]
  split
  · next same => simp [same]
  · next other => simp [other]

/-- A new device is there under the next number, beside those that were there. -/
theorem there_create (h : Host) (d : Device) (j : DeviceId) :
    ((h.create d).1.device? j).isSome = true ↔ (h.device? j).isSome ∨ j = h.nextId := by
  rw [device?_create, Function.update_apply]
  split
  · next same => simp [same]
  · next other => simp [other]

/-- To run discovery concerns the devices and the runs of a host, and drops none of its devices. -/
theorem startRun_eq (h : Host) (id : DeviceId) (label : Option String) :
    ∃ devices runs nextId, h.startRun id label = { h with devices, runs, nextId } ∧
      ∀ j, (devices.get? j).isSome = (h.device? j).isSome := by
  rw [startRun]
  split
  · next d found =>
    split
    · exact ⟨_, _, _, rfl, fun _ => rfl⟩
    · have apart : Apart 0 id h (h.setDevice id { d with started := true }) := .setDevice h _
      exact ⟨_, _, _, rfl, apart.there⟩
  · exact ⟨_, _, _, rfl, fun _ => rfl⟩

/-- The manager's handles, when all devices in its list are as they are looked up. -/
theorem destroyAll_eq (h : Host) (es : List (String × DeviceId)) :
    ∃ devices subscriptions, es.foldl (fun h e => h.destroy e.2) h = { h with devices, subscriptions } ∧
      ∀ j, (devices.get? j).isSome = true ↔ (h.device? j).isSome ∧ ¬ ∃ e ∈ es, e.2 = j := by
  induction es generalizing h with
  | nil => exact ⟨_, _, rfl, fun j => by simp [device?]⟩
  | cons e es ih =>
    obtain ⟨devices, subscriptions, same, there⟩ := ih (h.destroy e.2)
    refine ⟨devices, subscriptions, same, fun j => ?_⟩
    rw [there, there_destroy, and_assoc, List.exists_mem_cons_iff, not_or, ne_comm]

namespace InCustody

/-- What matters is who keeps what, and which devices are there. -/
theorem congr (inCustody : h.InCustody) (handles : h'.handles = h.handles)
    (manager : h'.manager = h.manager) (there : ∀ id, (h'.device? id).isSome = (h.device? id).isSome) :
    h'.InCustody where
  custody := by
    have kept : h'.kept? = h.kept? := by
      funext k
      cases k with
      | holder name => rw [kept?, kept?, handles]
      | manager path => rw [kept?, kept?, manager]
    simp only [kept, there]
    exact inCustody.custody
  listed m managed := inCustody.listed m (manager ▸ managed)

/-- What happens off the scene changes nobody's handles. -/
theorem of_scene (inCustody : h.InCustody) (scene : h'.scene = h.scene) : h'.InCustody := by
  refine inCustody.congr (congrArg Scene.handles scene) (congrArg Scene.manager scene) fun id => ?_
  have devices := congrFun (congrArg Scene.devices scene) id
  have looked : (h'.device? id).map Device.bare = (h.device? id).map Device.bare := devices
  rw [← Option.isSome_map, looked, Option.isSome_map]

/-- Somebody drops a handle, and the device goes with it: nobody else kept it. -/
theorem drop (inCustody : h.InCustody) (handle : String) : (h.drop handle).InCustody := by
  rw [Host.drop]
  split
  · next id held =>
    let g : Host := { h.destroy id with handles := h.handles.erase handle }
    have kept : g.kept? = update h.kept? (.holder handle) none := by
      funext k
      rw [Function.update_apply]
      cases k with
      | holder name =>
        rw [kept?, Table.get?_erase]
        simp only [Keeper.holder.injEq]
        rfl
      | manager path => rfl
    have there (j : DeviceId) : (g.device? j).isSome = true ↔ (h.device? j).isSome ∧ j ≠ id :=
      h.there_destroy id j
    change g.InCustody
    refine ⟨?_, inCustody.listed⟩
    simp only [kept, there]
    exact inCustody.custody.release held
  · exact inCustody

/-- The manager drops the device of a path, which nobody holds under a name. -/
theorem deviceRemoved (inCustody : h.InCustody) (path : String) :
    (h.deviceRemoved path).InCustody := by
  rw [Host.deviceRemoved]
  split
  · next m managed =>
    split
    · next id listed =>
      let g : Host := { h.destroy id with manager := some { m with devices := m.devices.erase path } }
      have held : h.kept? (.manager path) = some id := by
        rw [kept?, managed]
        exact listed
      have kept : g.kept? = update h.kept? (.manager path) none := by
        funext k
        rw [Function.update_apply]
        cases k with
        | holder name => rfl
        | manager other =>
          rw [kept?, kept?, managed, Option.bind_some, Option.bind_some, Table.get?_erase]
          simp only [Keeper.manager.injEq]
      have there (j : DeviceId) : (g.device? j).isSome = true ↔ (h.device? j).isSome ∧ j ≠ id :=
        h.there_destroy id j
      change g.InCustody
      constructor
      · simp only [kept, there]
        exact inCustody.custody.release held
      · rintro m' ⟨⟩ e mem
        obtain ⟨mem, other⟩ := List.mem_filter.1 mem
        rw [Table.get?_erase, if_neg (by simpa using other)]
        exact inCustody.listed m managed e mem
    · exact inCustody
  · exact inCustody

/-- The manager is shut down, drops its devices one by one, and may be forgotten after that. -/
theorem shutdown (inCustody : h.InCustody) : h.shutdown.InCustody ∧
    ({ h.shutdown with manager := none } : Host).InCustody := by
  rw [Host.shutdown]
  split
  · next m managed =>
    obtain ⟨devices, subscriptions, same, there⟩ := h.destroyAll_eq m.devices.entries
    have released := inCustody.custody.releaseAll (fun id => ∃ e ∈ m.devices.entries, e.2 = id) <| by
      intro id
      simp only [kept?, managed, Option.bind_some]
      constructor
      · rintro ⟨e, mem, rfl⟩
        exact ⟨e.1, inCustody.listed m managed e mem⟩
      · rintro ⟨path, listed⟩
        exact ⟨_, Table.mem_entries_of_get? listed, rfl⟩
    rw [same]
    -- whether or not the manager stays, it keeps nothing
    have empty (g : Host) (table : g.devices = devices) (handles : g.handles = h.handles)
        (unlisted : ∀ path, g.kept? (.manager path) = none) :
        Custody g.kept? fun id => (g.device? id).isSome := by
      have kept : g.kept? = fun | .holder name => h.kept? (.holder name) | .manager _ => none := by
        funext k
        cases k with
        | holder name => simp only [kept?, handles]
        | manager path => exact unlisted path
      simp only [kept, device?, table, there]
      exact released
    refine ⟨⟨empty _ rfl rfl fun _ => rfl, ?_⟩, empty _ rfl rfl fun _ => rfl, ?_⟩
    · rintro m' ⟨⟩ e mem
      exact absurd mem (by simp)
    · rintro m' ⟨⟩
  · next unmanaged =>
    exact ⟨inCustody, inCustody.congr rfl unmanaged.symm fun _ => rfl⟩

/-- The manager keeps the device that it creates, unless it has one under that path. -/
theorem deviceAdded (inCustody : h.InCustody) (fresh : h.device? h.nextId = none) (path : String) :
    (h.deviceAdded path).InCustody := by
  have new : ¬ (h.device? h.nextId).isSome := by simp [fresh]
  rw [Host.deviceAdded]
  split
  · next m managed =>
    split
    · exact inCustody
    · next unlisted =>
      have absent : m.devices.get? path = none := Option.not_isSome_iff_eq_none.1 unlisted
      have free : h.kept? (.manager path) = none := by
        rw [kept?, managed]
        exact absent
      let g : Host := { (h.create (.fresh path h.generation m.timeouts)).1 with
        manager := some { m with devices := m.devices.set path h.nextId } }
      have kept : g.kept? = update h.kept? (.manager path) (some h.nextId) := by
        funext k
        rw [Function.update_apply]
        cases k with
        | holder name => rfl
        | manager other =>
          rw [kept?, kept?, managed, Option.bind_some, Option.bind_some, Table.get?_set]
          simp only [Keeper.manager.injEq]
      have there (j : DeviceId) : (g.device? j).isSome = true ↔
          (h.device? j).isSome ∨ j = h.nextId := h.there_create _ j
      have taken : g.InCustody := by
        constructor
        · simp only [kept, there]
          exact inCustody.custody.take free new
        · rintro m' ⟨⟩ e mem
          rw [Table.entries_set_of_get?_eq_none absent, List.mem_append, List.mem_singleton] at mem
          rcases mem with mem | rfl
          · have listed := inCustody.listed m managed e mem
            rw [Table.get?_set, if_neg]
            · exact listed
            · rintro rfl
              exact absurd (absent.symm.trans listed) (by simp)
          · rw [Table.get?_set, if_pos rfl]
      obtain ⟨devices, runs, nextId, same, there⟩ := g.startRun_eq h.nextId none
      change (g.startRun h.nextId none).InCustody
      rw [same]
      exact taken.congr rfl rfl there
  · exact inCustody

/-- The manager takes up the devices of a number of paths. -/
theorem deviceAddedAll (inCustody : h.InCustody) (upkeep : h.core.Upkeep) (paths : List String) :
    (paths.foldl Host.deviceAdded h).InCustody := by
  induction paths generalizing h with
  | nil => exact inCustody
  | cons path paths ih =>
    have added : Core.Changes Bench.free .wide h.core (h.deviceAdded path).core :=
      h.steps_deviceAdded path
    exact ih (inCustody.deviceAdded upkeep.devices_nextId path) (added.steps.upkeep upkeep)

/-- A command gives out a handle, takes one back or leaves all of them alone. -/
theorem obey (inCustody : h.InCustody) (fresh : h.device? h.nextId = none) (c : Command) :
    (h.obey c).InCustody := by
  cases c with
  | request | get | profiles | subscribe | unsubscribe | dropWatcher | nothing | withDevice | unknown =>
    exact inCustody.of_scene (h.scene_obey rfl)
  | hold | release | fail | unfail | setProperties | setPower =>
    simp only [Host.obey, changeStub]
    split <;> exact inCustody.congr rfl rfl fun _ => rfl
  | push | endChanges | endPower =>
    simp only [Host.obey]
    split
    · exact inCustody.congr rfl rfl fun _ => rfl
    · exact inCustody
  | power path on =>
    simp only [Host.obey, changeStub]
    split
    · split
      · split <;> exact inCustody.congr rfl rfl fun _ => rfl
      · exact inCustody
    · exact inCustody
  | drop handle => exact inCustody.drop handle
  | deviceAdded path =>
    simp only [Host.obey, deviceAddedAndHeard]
    split
    · exact inCustody
    · have added := inCustody.deviceAdded fresh path
      split
      · exact added.of_scene rfl
      · exact added
  | deviceRemoved path => exact inCustody.deviceRemoved path
  | shutdown => exact inCustody.shutdown.1
  | dropManager => exact inCustody.shutdown.2

/-- The monitor has the manager create or drop the device of a path. -/
theorem follow (inCustody : h.InCustody) (fresh : h.device? h.nextId = none) (m : Monitor)
    (branch : Monitor.Branch) : (h.follow m branch).InCustody := by
  rw [Host.follow]
  obtain ⟨m', request⟩ := m.take h.generation.deviceInterface branch
  have passed : ({ h with monitor := some m' } : Host).InCustody :=
    inCustody.congr rfl rfl fun _ => rfl
  cases request with
  | none => exact passed
  | some q =>
    cases q with
    | add path => exact passed.deviceAdded fresh path
    | remove path => exact passed.deviceRemoved path

/-- Discovery gives out no handle and takes none back. -/
theorem pursue (inCustody : h.InCustody) (run : RunId) : (h.pursue run).InCustody := by
  cases running : h.run? run with
  | none =>
    rw [Host.pursue, running]
    exact inCustody
  | some r =>
    have apart := apart_pursue running
    exact inCustody.congr apart.handles apart.manager apart.there

/-- To run discovery for a device leaves everybody's handles where they are. -/
theorem startRun (inCustody : h.InCustody) (id : DeviceId) (label : Option String) :
    (h.startRun id label).InCustody := by
  obtain ⟨devices, runs, nextId, same, there⟩ := h.startRun_eq id label
  rw [same]
  exact inCustody.congr rfl rfl there

/-- The monitor starts, and the manager takes up the devices that were enumerated. -/
theorem startMonitor (inCustody : h.InCustody) (upkeep : h.core.Upkeep) (p : Peer) :
    (h.startMonitor p).InCustody := by
  rw [Host.startMonitor]
  split
  · have asked : ({ h with transport := .peer p.managedObjects.1 } : Host).InCustody :=
      inCustody.congr rfl rfl fun _ => rfl
    simp only
    split
    · next tree _ =>
      exact (asked.deviceAddedAll upkeep (devicePaths h.generation tree)).congr rfl rfl fun _ => rfl
    · exact asked.congr rfl rfl fun _ => rfl
    · exact asked.congr rfl rfl fun _ => rfl
  · exact inCustody.congr rfl rfl fun _ => rfl

/-- A signal is put into queues, of the monitor and of runs. -/
theorem receiveSignal (inCustody : h.InCustody) (s : Signal) : (h.receiveSignal s).InCustody := by
  refine receiveSignal_induction s inCustody (fun _ _ => inCustody.congr rfl rfl fun _ => rfl) ?_
    fun _ _ _ held => held.congr rfl rfl fun _ => rfl
  intro g p path entries invalidated _ held
  rw [announcePower]
  split
  · next v _ => cases v.flag? <;> exact held.congr rfl rfl fun _ => rfl
  · split
    · exact held.congr rfl rfl fun _ => rfl
    · exact held

/-- The loss of the bus ends streams, and drops no device. -/
theorem loseBus (inCustody : h.InCustody) : h.loseBus.InCustody := by
  rw [Host.loseBus]
  split
  · exact inCustody.congr rfl rfl fun _ => rfl
  · exact inCustody
  · exact inCustody

end InCustody

end Host

namespace Bench

variable {law : Law} {b b' : Bench}

/-- A new device takes the place of the one that was held under its name. -/
theorem inCustody_newDevice (inCustody : b.host.InCustody)
    (fresh : b.host.device? b.host.nextId = none) (handle path : String) (g : Generation) (t : Timeouts) :
    (b.newDevice handle path g t).host.InCustody := by
  have new : ¬ (b.host.device? b.host.nextId).isSome := by simp [fresh]
  let placed : Host := { (b.host.create (.fresh path g t)).1.receive handle b.host.nextId with
    handles := b.host.handles.set handle b.host.nextId }
  have kept : placed.kept? = update b.host.kept? (.holder handle) (some b.host.nextId) := by
    funext k
    rw [Function.update_apply]
    cases k with
    | holder name =>
      rw [Host.kept?, Table.get?_set]
      simp only [Keeper.holder.injEq]
      rfl
    | manager path => rfl
  have there (j : DeviceId) : (placed.device? j).isSome = true ↔
      (b.host.device? j).isSome ∨ j = b.host.nextId := b.host.there_create _ j
  change ((b.host.handles.get? handle).elim placed (Host.destroy placed)).InCustody
  cases held : b.host.handles.get? handle with
  | none =>
    refine ⟨?_, inCustody.listed⟩
    simp only [Option.elim_none, kept, there]
    exact inCustody.custody.take held new
  | some old =>
    -- the old handle is given up first, and then there is room for the new one
    have released := inCustody.custody.release (k := .holder handle) held
    have taken := released.take (Function.update_self ..) fun there => new there.1
    rw [Function.update_idem] at taken
    have other : b.host.nextId ≠ old := by
      rintro same
      exact new ((inCustody.custody.there_iff _).2 ⟨.holder handle, same ▸ held⟩)
    refine ⟨?_, inCustody.listed⟩
    have left (j : DeviceId) : ((placed.destroy old).device? j).isSome = true ↔
        ((b.host.device? j).isSome ∧ j ≠ old) ∨ j = b.host.nextId := by
      rw [Host.there_destroy, there, or_and_right]
      refine or_congr_right (and_iff_left_of_imp ?_)
      rintro rfl
      exact other
    simp only [Option.elim_some, left]
    exact kept ▸ taken

/-- A step of a user keeps the handles in custody, be it one that creates a device under a name or one that
shuts the manager down. -/
theorem inCustody_doStep (inCustody : b.host.InCustody) (upkeep : b.host.core.Upkeep) {s : Step}
    (front : s.isBackstage = false) (noCommand : ∀ c, s ≠ .command c) :
    (b.doStep s).1.host.InCustody := by
  have refused {α : Type} {found : Option α} {f : α → Bench × Step.Result}
      (each : ∀ a, (f a).1.host.InCustody) : (b.withSome found f).1.host.InCustody := by
    cases found with
    | none => exact inCustody
    | some a => exact each a
  cases s with
  | command c => exact absurd rfl (noCommand c)
  | newDevice handle path generation timeouts =>
    exact inCustody_newDevice inCustody upkeep.devices_nextId handle path _ timeouts
  | run device => exact refused fun id => inCustody.startRun id _
  | stop device => exact refused fun _ => inCustody.congr rfl rfl fun _ => rfl
  | putObject path interfaces => exact refused fun _ => inCustody.congr rfl rfl fun _ => rfl
  | signal s =>
    refine refused fun _ => ?_
    rw [Bench.receiveSignal]
    split
    · exact inCustody
    · exact inCustody.receiveSignal s
  | monitor => exact refused fun p => refused fun _ => inCustody.startMonitor upkeep p
  | monitorStop => exact refused fun _ => inCustody.congr rfl rfl fun _ => rfl
  | monitorResult =>
    refine refused fun m => ?_
    rw [Bench.monitorResult]
    split
    · exact inCustody.congr rfl rfl fun _ => rfl
    · exact inCustody
    · exact inCustody
  | closeBus => exact refused fun _ => inCustody.loseBus
  | _ => exact absurd front (by simp [Step.isBackstage])

/-- **Every move keeps the devices in custody.** -/
theorem inCustody_make {m : Move} (inCustody : b.host.InCustody) (upkeep : b.host.core.Upkeep)
    (made : b.make m = some b') : b'.host.InCustody := by
  have fresh : b.host.device? b.host.nextId = none := upkeep.devices_nextId
  cases plays_of_make made with
  | backstage same => exact inCustody.of_scene same
  | command ds c _ did =>
    rw [did]
    have same : (b.host.withAgenda ds).InCustody := inCustody.congr rfl rfl fun _ => rfl
    exact same.obey fresh c
  | pursue ds run _ did =>
    rw [did]
    have same : (b.host.withAgenda ds).InCustody := inCustody.congr rfl rfl fun _ => rfl
    exact same.pursue run
  | follow branch monitor _ _ did =>
    rw [did]
    exact inCustody.follow fresh monitor branch
  | step s _ noCommand front did =>
    rw [did]
    exact inCustody_doStep inCustody upkeep front noCommand

/-- **In every run the devices that are there are those whose handles are kept**, each in one place. -/
theorem Reachable.inCustody (reached : Reachable law b) : b.host.InCustody := by
  obtain ⟨g, t, isLoaded, manager, naming, run⟩ := reached
  induction run with
  | refl =>
    refine ⟨⟨fun k k' id first => ?_, fun id => ?_⟩, fun m managed e mem => ?_⟩
    · cases k <;> cases manager <;> exact absurd first (by simp [opening, Host.kept?, Table.get?])
    · refine iff_of_false (by simp [opening, Host.device?, Table.get?]) ?_
      rintro ⟨k, first⟩
      cases k <;> cases manager <;> exact absurd first (by simp [opening, Host.kept?, Table.get?])
    · cases manager with
      | none => exact absurd managed (by simp [opening])
      | some timeouts =>
        obtain rfl := Option.some.inj managed
        exact absurd mem (by simp)
  | move m run lawful made ih =>
    exact inCustody_make ih (Reachable.upkeep ⟨g, t, isLoaded, manager, naming, run⟩) made

end Bench

end Piconet
