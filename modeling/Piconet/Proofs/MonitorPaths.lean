import Piconet.Proofs.DeviceHandles
import Piconet.Proofs.SignalOrder

/-!
# The paths that the manager gets from the monitor

A monitor lists the objects that BlueZ has, and then has the manager take up and drop devices as objects
come and go. In all runs a host is as the chronicle of its monitor says (`Chronicle.Fits`): the objects
are as the latest signal about them, and the manager has done what the monitor took last.

So once the monitor has consumed every signal of both streams, the manager has the paths of the objects
that carry the device interface, but for those of which it took the signals out of order and those of
which it missed the last removal (`Bench.manages_eq_carries_iff`). Both happen (`Bench.misled`): a device
that goes and comes back may be lost for good.
-/

namespace Piconet

open Bench (opening)
open Function (update)

/-- The objects that are served. -/
def Transport.objects : Transport → Table String Interfaces
  | .peer p => p.objects
  | .stub _ | .unreachable => {}

/-- The objects of a peer do not depend on the replies that it was told to give. -/
theorem Transport.objects_bare (t : Transport) : t.bare.objects = t.objects := by
  cases t <;> rfl

namespace Host

variable {h h' : Host} {path : String}

/-- The objects on the bus. -/
def objects (h : Host) : Table String Interfaces := h.transport.objects

/-- There is an object at a path that carries the device interface. -/
def carries (h : Host) (path : String) : Bool :=
  (h.objects.get? path).any (·.contains h.generation.deviceInterface)

/-- A peer lists what there is, if it has each object once. -/
theorem devicePaths_objects {p : Peer} (there : h.transport = .peer p)
    (sole : ∀ e ∈ p.objects.entries, p.objects.get? e.1 = some e.2) (path : String) :
    decide (path ∈ devicePaths h.generation p.objects.entries) = h.carries path := by
  rw [carries, objects, there, Transport.objects, Bool.eq_iff_iff, decide_eq_true_iff, Option.any_eq_true,
    devicePaths]
  simp only [List.mem_map, List.mem_filter]
  constructor
  · rintro ⟨e, ⟨mem, carries⟩, rfl⟩
    exact ⟨e.2, sole e mem, carries⟩
  · rintro ⟨interfaces, found, carries⟩
    exact ⟨(path, interfaces), ⟨Table.mem_entries_of_get? found, carries⟩, rfl⟩

/-! ## The manager takes up devices and lets go of them -/

/-- The manager has the given paths now. But for devices, their runs and who listens nothing else
changed. -/
def Remanaged (h h' : Host) (managed : String → Bool) : Prop :=
  ∃ devices subscriptions runs nextId manager,
    h' = { h with devices, subscriptions, runs, nextId, manager } ∧
      h'.manager.isSome ∧ h'.manages = managed

namespace Remanaged

variable {managed managed' : String → Bool}

theorem there (remanaged : Remanaged h h' managed) : h'.manager.isSome := by
  obtain ⟨_, _, _, _, _, -, there, -⟩ := remanaged
  exact there

/-- What the manager has afterwards. -/
theorem manages_eq (remanaged : Remanaged h h' managed) : h'.manages = managed := by
  obtain ⟨_, _, _, _, _, -, -, same⟩ := remanaged
  exact same

theorem refl (there : h.manager.isSome) : Remanaged h h h.manages :=
  ⟨_, _, _, _, _, rfl, there, rfl⟩

theorem trans {h'' : Host} (first : Remanaged h h' managed) (second : Remanaged h' h'' managed') :
    Remanaged h h'' managed' := by
  obtain ⟨_, _, _, _, _, rfl, -, -⟩ := first
  obtain ⟨_, _, _, _, _, rfl, there, same⟩ := second
  exact ⟨_, _, _, _, _, rfl, there, same⟩

/-- The manager has a path that was added. -/
theorem deviceAdded (there : h.manager.isSome) (path : String) :
    Remanaged h (h.deviceAdded path) (update h.manages path true) := by
  rw [Host.deviceAdded]
  split
  · next m managed =>
    split
    · next listed =>
      have same : update h.manages path true = h.manages := by
        rw [Function.update_eq_self_iff, manages, managed]
        exact listed.symm
      rw [same]
      exact refl there
    · let g : Host := { (h.create (.fresh path h.generation m.timeouts)).1 with
        manager := some { m with devices := m.devices.set path h.nextId } }
      obtain ⟨devices, runs, nextId, same, -⟩ := g.startRun_eq h.nextId none
      change Remanaged h (g.startRun h.nextId none) _
      rw [same]
      refine ⟨_, _, _, _, _, rfl, rfl, funext fun j => ?_⟩
      rw [Function.update_apply, manages, manages, managed]
      simp only [g, Option.any_some, Table.contains, Table.get?_set]
      split <;> rfl
  · next none => exact absurd there (by simp [none])

/-- The manager does not have a path that was removed. -/
theorem deviceRemoved (there : h.manager.isSome) (path : String) :
    Remanaged h (h.deviceRemoved path) (update h.manages path false) := by
  rw [Host.deviceRemoved]
  split
  · next m managed =>
    split
    · next id listed =>
      refine ⟨_, _, _, _, _, rfl, rfl, funext fun j => ?_⟩
      rw [Function.update_apply, manages, manages, managed]
      simp only [Option.any_some, Table.contains, Table.get?_erase]
      split <;> rfl
    · next unlisted =>
      have same : update h.manages path false = h.manages := by
        rw [Function.update_eq_self_iff, manages, managed, Option.any_some, Table.contains, unlisted]
        rfl
      rw [same]
      exact refl there
  · next none => exact absurd there (by simp [none])

/-- The manager does what it is asked for. -/
theorem heed (there : h.manager.isSome) (rq : Monitor.Request) :
    Remanaged h (h.heed rq) (update h.manages rq.path rq.adds) := by
  cases rq with
  | add path => exact deviceAdded there path
  | remove path => exact deviceRemoved there path

/-- The monitor passes on what it takes, if that is a request. -/
theorem follow (there : h.manager.isSome) (m : Monitor) (branch : Monitor.Branch) :
    Remanaged { h with monitor := some (m.take h.generation.deviceInterface branch).1 } (h.follow m branch)
      ((m.take h.generation.deviceInterface branch).2.elim h.manages fun rq => update h.manages rq.path rq.adds) := by
  let g : Host := { h with monitor := some (m.take h.generation.deviceInterface branch).1 }
  change Remanaged g ((m.take h.generation.deviceInterface branch).2.elim g g.heed) _
  cases (m.take h.generation.deviceInterface branch).2 with
  | none => exact refl (h := g) there
  | some rq => exact heed (h := g) there rq

/-- It has all paths of an enumeration, and those it had. -/
theorem deviceAddedAll (there : h.manager.isSome) (paths : List String) :
    Remanaged h (paths.foldl Host.deviceAdded h) fun path => decide (path ∈ paths) || h.manages path := by
  induction paths generalizing h with
  | nil => simpa using refl there
  | cons path paths ih =>
    have first := deviceAdded there path
    have rest := first.trans (ih first.there)
    rw [first.manages_eq] at rest
    have same : (fun j => decide (j ∈ paths) || update h.manages path true j) =
        fun j => decide (j ∈ path :: paths) || h.manages j := by
      funext j
      rw [Function.update_apply]
      by_cases here : j = path <;> simp [here]
    rwa [same] at rest

end Remanaged

/-! ## How a monitor starts -/

/-- The monitor subscribes to additions: it gets those that are sent from now on. -/
def subscribeAdded (h : Host) : Host := { h with monitor := some { stage := .enumerating } }

/-- The monitor subscribes to removals, after some additions may have come. -/
def subscribeRemoved (h : Host) : Host := h.onMonitor fun m => { m with removed := [] }

/-- The manager takes up the paths of the enumeration, which says what there was when it was made. -/
def takeUp (h : Host) (tree : List (String × Interfaces)) : Host :=
  ((devicePaths h.generation tree).foldl deviceAdded h).onMonitor fun m => { m with stage := .following }

/-- The manager does not look at the monitor. -/
theorem deviceAddedAll_withMonitor (h : Host) (m : Option Monitor) (paths : List String) :
    paths.foldl deviceAdded { h with monitor := m } = { paths.foldl deviceAdded h with monitor := m } := by
  have started (h : Host) (id : DeviceId) :
      ({ h with monitor := m } : Host).startRun id none = { h.startRun id none with monitor := m } := by
    rw [startRun, startRun]
    simp only [device?]
    split
    · split <;> rfl
    · rfl
  induction paths generalizing h with
  | nil => rfl
  | cons path paths ih =>
    rw [List.foldl_cons, List.foldl_cons, ← ih]
    congr 1
    rw [deviceAdded, deviceAdded]
    simp only
    split
    · next manager _ =>
      split
      · rfl
      · exact started { (h.create (.fresh path h.generation manager.timeouts)).1 with
          manager := some { manager with devices := manager.devices.set path h.nextId } } h.nextId
    · rfl

/-- A monitor starts in one go if nothing happens in the meantime. -/
theorem startMonitor_eq {p p' : Peer} {tree : List (String × Interfaces)}
    (able : h.generation.exportsObjectManager = true) (answered : p.managedObjects = (p', .value tree)) :
    h.startMonitor p = ({ h.subscribeAdded.subscribeRemoved with transport := .peer p' } : Host).takeUp tree := by
  rw [startMonitor, if_pos able, answered]
  exact congrArg (fun g : Host => g.onMonitor fun m => { m with stage := .following })
    (deviceAddedAll_withMonitor { h with transport := .peer p' } (some { stage := .enumerating })
      (devicePaths h.generation tree)).symm

/-! ## What the monitor has no part in -/

/-- Only steps of a user change the objects on the bus. -/
theorem objects_of_bare (same : h'.transport.bare = h.transport.bare) : h'.objects = h.objects := by
  rw [objects, ← Transport.objects_bare, same, Transport.objects_bare, ← objects]

/-- Neither the objects nor the manager changed, and the monitor, if it is still there, has the same
signals to look at. -/
structure Unseen (h h' : Host) : Prop where
  generation : h'.generation = h.generation
  objects : h'.objects = h.objects
  manager : h'.manager = h.manager
  monitor : ∀ m', h'.monitor = some m' → ∃ m, h.monitor = some m ∧
    m'.added = m.added ∧ m'.removed = m.removed ∧ m'.stage = m.stage

namespace Unseen

theorem refl (h : Host) : Unseen h h := ⟨rfl, rfl, rfl, fun m there => ⟨m, there, rfl, rfl, rfl⟩⟩

theorem trans {h'' : Host} (first : Unseen h h') (second : Unseen h' h'') : Unseen h h'' where
  generation := second.generation.trans first.generation
  objects := second.objects.trans first.objects
  manager := second.manager.trans first.manager
  monitor m'' there := by
    obtain ⟨m', there, added, removed, stage⟩ := second.monitor m'' there
    obtain ⟨m, there, added', removed', stage'⟩ := first.monitor m' there
    exact ⟨m, there, added.trans added', removed.trans removed', stage.trans stage'⟩

/-- It is a matter of the scene. -/
theorem of_scene (scene : h'.scene = h.scene) : Unseen h h' where
  generation := congrArg Scene.generation scene
  objects := objects_of_bare (congrArg Scene.transport scene)
  manager := congrArg Scene.manager scene
  monitor m there := by
    have monitor : h'.monitor = h.monitor := congrArg Scene.monitor scene
    exact ⟨m, monitor ▸ there, rfl, rfl, rfl⟩

/-- Nothing is touched that the monitor or the manager has to do with. -/
theorem of_same (generation : h'.generation = h.generation) (transport : h'.transport.bare = h.transport.bare)
    (manager : h'.manager = h.manager) (monitor : h'.monitor = h.monitor) : Unseen h h' where
  generation := generation
  objects := objects_of_bare transport
  manager := manager
  monitor m there := ⟨m, monitor ▸ there, rfl, rfl, rfl⟩

theorem changeStub (h : Host) (f : Stub → Stub) : Unseen h (h.changeStub f) := by
  rw [Host.changeStub]
  split
  · next s there => exact { refl h with objects := by rw [Host.objects, Host.objects, there]; rfl }
  · exact refl h
  · exact refl h

/-- Discovery is started. -/
theorem startRun (h : Host) (id : DeviceId) (label : Option String) : Unseen h (h.startRun id label) := by
  obtain ⟨devices, runs, nextId, same, -⟩ := h.startRun_eq id label
  rw [same]
  exact .of_same rfl rfl rfl rfl

/-- Discovery goes on. -/
theorem pursue (h : Host) (run : RunId) : Unseen h (h.pursue run) := by
  cases running : h.run? run with
  | none =>
    rw [Host.pursue, running]
    exact refl h
  | some r =>
    have apart := apart_pursue running
    exact .of_same apart.generation apart.transport apart.manager apart.monitor

/-- A signal of an adapter's power goes to runs. -/
theorem announcePower (h : Host) {p : Peer} (there : h.transport = .peer p) (path : String)
    (entries : List (String × Bus.Value)) (invalidated : List String) :
    Unseen h (h.announcePower p path entries invalidated) := by
  rw [Host.announcePower]
  split
  · next v _ => cases v.flag? <;> exact .of_same rfl rfl rfl rfl
  · split
    · refine .of_same rfl ?_ rfl rfl
      rw [there]
      exact congrArg Transport.peer (Peer.bare_rereadAll _ _ p)
    · exact refl h

/-- The loss of the bus ends the streams, and the monitor keeps what is queued. -/
theorem loseBus (h : Host) : Unseen h h.loseBus := by
  rw [Host.loseBus]
  split
  · next p there =>
    refine ⟨rfl, by rw [Host.objects, Host.objects, there]; rfl, rfl, fun m' closed => ?_⟩
    obtain ⟨m, kept, rfl⟩ := Option.map_eq_some_iff.1 closed
    exact ⟨m, kept, rfl, rfl, rfl⟩
  · exact refl h
  · exact refl h

end Unseen

end Host

/-- A command to the manager. -/
def Command.manages : Command → Bool
  | .deviceAdded _ | .deviceRemoved _ | .shutdown | .dropManager => true
  | _ => false

/-- A step that has to do with the manager, with objects, or with the start of a monitor. -/
def Step.tends : Step → Bool
  | .command c => c.manages
  | .signal s => s.object?.isSome
  | .putObject .. | .monitor => true
  | _ => false

namespace Host.Unseen

/-- A command that is none of the manager's concerns no path. -/
theorem obey (h : Host) {c : Command} (other : c.manages = false) : Unseen h (h.obey c) := by
  cases c with
  | request | get | profiles | subscribe | unsubscribe | dropWatcher | nothing | withDevice | unknown =>
    exact .of_scene (h.scene_obey rfl)
  | hold | release | fail | unfail | setProperties | setPower => exact .changeStub h _
  | push | endChanges | endPower =>
    simp only [Host.obey]
    split <;> exact .of_same rfl rfl rfl rfl
  | power path on =>
    simp only [Host.obey]
    split
    · split
      · exact (Unseen.changeStub h _).trans (.of_same rfl rfl rfl rfl)
      · exact .refl h
    · exact .refl h
  | drop handle =>
    simp only [Host.obey, Host.drop]
    split <;> exact .of_same rfl rfl rfl rfl
  | deviceAdded | deviceRemoved | shutdown | dropManager => exact absurd other (by simp [Command.manages])

end Host.Unseen

namespace Bench

variable {b b' : Bench}

/-- A step that tends neither objects nor the manager is not seen by the monitor. -/
theorem unseen_doStep {s : Step} (front : s.isBackstage = false) (noCommand : ∀ c, s ≠ .command c)
    (other : s.tends = false) : Host.Unseen b.host (b.doStep s).1.host := by
  have refused {α : Type} {found : Option α} {f : α → Bench × Step.Result}
      (each : ∀ a, found = some a → Host.Unseen b.host (f a).1.host) :
      Host.Unseen b.host (b.withSome found f).1.host := by
    cases found with
    | none => exact .refl _
    | some a => exact each a rfl
  cases s with
  | command c => exact absurd rfl (noCommand c)
  | newDevice handle path generation timeouts =>
    change Host.Unseen b.host ((b.host.handles.get? handle).elim _ (Host.destroy _))
    cases b.host.handles.get? handle <;> exact .of_same rfl rfl rfl rfl
  | run device => exact refused fun id _ => .startRun b.host id _
  | stop device => exact refused fun _ _ => .of_same rfl rfl rfl rfl
  | signal s =>
    refine refused fun _ _ => ?_
    rw [Bench.receiveSignal]
    split
    · exact .refl _
    · refine Host.receiveSignal_induction s (.refl _) (fun _ _ => .of_same rfl rfl rfl rfl) ?_ fun object => ?_
      · exact fun g p path entries invalidated there held => held.trans (.announcePower g there path _ _)
      · exact absurd object (by rw [show s.object?.isSome = false from other]; simp)
  | monitorStop =>
    refine refused fun _ _ => ⟨rfl, rfl, rfl, fun m' stopped => ?_⟩
    obtain ⟨m, kept, rfl⟩ := Option.map_eq_some_iff.1 stopped
    exact ⟨m, kept, rfl, rfl, rfl⟩
  | monitorResult =>
    refine refused fun m there => ?_
    rw [Bench.monitorResult]
    split
    · exact { Host.Unseen.refl b.host with monitor := fun m' gone => absurd gone (by simp [onHost]) }
    · exact .refl _
    · exact .refl _
  | closeBus => exact refused fun _ _ => .loseBus b.host
  | putObject | monitor => exact absurd other (by simp [Step.tends])
  | _ => exact absurd front (by simp [Step.isBackstage])

end Bench

/-! ## A host and its chronicle -/

namespace Chronicle

variable {c : Chronicle} {h h' : Host} {s t : Dispatch} {path : String}

/-- The monitor did nothing but listen so far. -/
def Mute (c : Chronicle) (h : Host) : Prop :=
  c.taken = [] ∧ (∀ path, h.manages path = false) ∧ ∀ m, h.monitor = some m → m.stage = .enumerating

/-- What the monitor knows, as far as it has come. Of what it does not know signals are yet to be taken. -/
def Stands (c : Chronicle) (h : Host) : Outset → Prop
  | .away | .half | .both => c.Mute h
  | .listed tree => c.Mute h ∧ ∀ path,
      c.Awaits path ∨ decide (path ∈ Host.devicePaths h.generation tree) = h.carries path
  | .begun =>
    (∀ path s, latest c.taken path = some s → h.manages path = s.request.adds) ∧
      ∀ path, latest c.taken path = none → c.Awaits path ∨ h.manages path = h.carries path

/-- The queues of the monitor hold what waits. -/
structure Queues (c : Chronicle) (h : Host) : Prop where
  added : ∀ m, h.monitor = some m → c.additions.isSome →
    m.additions h.generation.deviceInterface = (c.waiting.map (·.request)).filter (·.adds)
  removed : ∀ m, h.monitor = some m → c.removals.isSome →
    m.removals h.generation.deviceInterface = (c.waiting.map (·.request)).filter (!·.adds)

/-- A host is as its chronicle says: the objects on the bus are as the last signal about each of them tells, the
queues of the monitor hold what it has not taken yet, and the manager has done what it took. -/
structure Fits (c : Chronicle) (h : Host) : Prop where
  numbered : c.Numbered
  generation : h.generation = .bluez5
  there : h.manager.isSome
  /-- the objects are as the peer told last -/
  told : ∀ path s, latest c.sent path = some s → h.carries path = s.request.adds
  queues : c.Queues h
  stands : c.Stands h c.outset

/-- What stands still stands if the manager was left alone, and what was known is known still. -/
theorem Stands.imp {c' : Chronicle} {outset : Outset} (stands : c.Stands h outset) (taken : c'.taken = c.taken)
    (generation : h'.generation = h.generation) (manager : h'.manager = h.manager)
    (stage : ∀ m', h'.monitor = some m' → ∃ m, h.monitor = some m ∧ m'.stage = m.stage)
    (known : outset ≠ .away → outset ≠ .half → ∀ path has, c.Awaits path ∨ has = h.carries path →
      c'.Awaits path ∨ has = h'.carries path) :
    c'.Stands h' outset := by
  have manages : h'.manages = h.manages := by
    funext path
    rw [Host.manages, Host.manages, manager]
  have mute (was : c.Mute h) : c'.Mute h' := by
    refine ⟨taken.trans was.1, manages ▸ was.2.1, fun m' there => ?_⟩
    obtain ⟨m, there, same⟩ := stage m' there
    exact same.trans (was.2.2 m there)
  cases outset with
  | away | half | both => exact mute stands
  | listed tree =>
    refine ⟨mute stands.1, fun path => ?_⟩
    rw [generation]
    exact known (by simp) (by simp) path _ (stands.2 path)
  | begun =>
    rw [Stands, taken, manages]
    exact ⟨stands.1, fun path none => known (by simp) (by simp) path _ (stands.2 path none)⟩

namespace Fits

/-- It is a matter of what the monitor can see. -/
theorem unseen (fits : c.Fits h) (same : Host.Unseen h h') : c.Fits h' := by
  have carries : h'.carries = h.carries := by
    funext path
    rw [Host.carries, Host.carries, same.objects, same.generation]
  refine ⟨fits.numbered, same.generation.trans fits.generation, same.manager ▸ fits.there, carries ▸ fits.told,
    ⟨fun m' there subscribed => ?_, fun m' there subscribed => ?_⟩, ?_⟩
  · obtain ⟨m, there, added, -, -⟩ := same.monitor m' there
    rw [Monitor.additions, added, same.generation]
    exact fits.queues.added m there subscribed
  · obtain ⟨m, there, -, removed, -⟩ := same.monitor m' there
    rw [Monitor.removals, removed, same.generation]
    exact fits.queues.removed m there subscribed
  · refine fits.stands.imp rfl same.generation same.manager (fun m' there => ?_) fun _ _ path has known => ?_
    · obtain ⟨m, there, -, -, stage⟩ := same.monitor m' there
      exact ⟨m, there, stage⟩
    · rw [carries]
      exact known

/-- An object comes or goes, or gains or loses other interfaces, and the monitor is told. -/
theorem send (fits : c.Fits h) {object : ObjectSignal} {request : String → Monitor.Request}
    (about : (request object.path).path = object.path) (generation : h'.generation = h.generation)
    (manager : h'.manager = h.manager) (elsewhere : ∀ path, path ≠ object.path → h'.carries path = h.carries path)
    (here : h'.carries object.path =
      if object.interfaces.contains h.generation.deviceInterface then (request object.path).adds
      else h.carries object.path)
    (told : ∀ m', h'.monitor = some m' → ∃ m, h.monitor = some m ∧ m'.stage = m.stage ∧
      m'.additions h.generation.deviceInterface = m.additions h.generation.deviceInterface ++
        ((Monitor.request? object h.generation.deviceInterface request).filter (·.adds)).toList ∧
      m'.removals h.generation.deviceInterface = m.removals h.generation.deviceInterface ++
        ((Monitor.request? object h.generation.deviceInterface request).filter (!·.adds)).toList) :
    (c.send h.generation.deviceInterface object request).Fits h' := by
  let interface := h.generation.deviceInterface
  have numbered := fits.numbered.send interface object request
  have stage (m' : Monitor) (there : h'.monitor = some m') : ∃ m, h.monitor = some m ∧ m'.stage = m.stage := by
    obtain ⟨m, there, stage, -⟩ := told m' there
    exact ⟨m, there, stage⟩
  have unchanged (path : String) (other : path = object.path → object.interfaces.contains interface = false) :
      h'.carries path = h.carries path := by
    by_cases same : path = object.path
    · subst same
      rw [here, if_neg (by simpa using other rfl)]
    · exact elsewhere path same
  by_cases carries : object.interfaces.contains interface = true
  · let s := c.next (request object.path)
    have heard (subscribed : c.removals.isSome) : c.Hears s = true :=
      fits.numbered.hears_next subscribed (request object.path)
    rw [Chronicle.send, if_pos carries] at numbered ⊢
    refine ⟨numbered, generation.trans fits.generation, manager ▸ fits.there, fun path t last => ?_,
      ⟨fun m' there subscribed => ?_, fun m' there subscribed => ?_⟩, ?_⟩
    · have path' : (c.next (request object.path)).request.path = object.path := about
      rw [latest_cons, Function.update_apply, path'] at last
      split at last
      · next same =>
        obtain rfl := Option.some.inj last
        rw [same, here, if_pos carries]
        rfl
      · next other => exact (elsewhere path other).trans (fits.told path t last)
    · obtain ⟨m, there, -, added, -⟩ := told m' there
      have before := fits.queues.added m there subscribed
      rw [generation, added, before, Monitor.request?, if_pos carries]
      change _ = (List.map _ (if c.Hears s then c.waiting ++ [s] else c.waiting)).filter _
      cases kind : (request object.path).adds with
      | true =>
        have hears : c.Hears s = true := by
          obtain ⟨n, subscribed⟩ := Option.isSome_iff_exists.1 subscribed
          change Option.any _ (if (request object.path).adds then c.additions else c.removals) = true
          rw [if_pos kind, subscribed]
          simpa [s, next] using fits.numbered.upTo n (.inl subscribed)
        rw [if_pos hears, List.map_append, List.filter_append]
        simp [s, next, kind]
      | false =>
        split
        · rw [List.map_append, List.filter_append]
          simp [s, next, kind]
        · simp [kind]
    · obtain ⟨m, there, -, -, removed⟩ := told m' there
      have before := fits.queues.removed m there subscribed
      rw [generation, removed, before, Monitor.request?, if_pos carries]
      change _ = (List.map _ (if c.Hears s then c.waiting ++ [s] else c.waiting)).filter _
      rw [if_pos (heard subscribed), List.map_append, List.filter_append]
      cases kind : (request object.path).adds <;> simp [s, next, kind]
    · refine fits.stands.imp rfl generation manager stage fun notAway notHalf path has known => ?_
      have subscribed : c.removals.isSome := by
        rw [Option.isSome_iff_ne_none]
        intro none
        exact (fits.numbered.half.2 none).elim notAway notHalf
      change (∃ t ∈ (if c.Hears s then c.waiting ++ [s] else c.waiting), t.request.path = path) ∨ _
      rw [if_pos (heard subscribed)]
      by_cases same : path = object.path
      · exact .inl ⟨s, List.mem_append_right _ (List.mem_singleton_self s), about.trans same.symm⟩
      · rcases known with ⟨t, mem, about⟩ | was
        · exact .inl ⟨t, List.mem_append_left _ mem, about⟩
        · exact .inr (was.trans (elsewhere path same).symm)
  · -- nothing is sent that is of interest
    rw [Chronicle.send, if_neg carries]
    refine ⟨fits.numbered, generation.trans fits.generation, manager ▸ fits.there, fun path t last => ?_,
      ⟨fun m' there subscribed => ?_, fun m' there subscribed => ?_⟩, ?_⟩
    · exact (unchanged path fun _ => Bool.eq_false_iff.2 carries).trans (fits.told path t last)
    · obtain ⟨m, there, -, added, -⟩ := told m' there
      rw [generation, added, Monitor.request?, if_neg carries, fits.queues.added m there subscribed]
      simp
    · obtain ⟨m, there, -, -, removed⟩ := told m' there
      rw [generation, removed, Monitor.request?, if_neg carries, fits.queues.removed m there subscribed]
      simp
    · refine fits.stands.imp rfl generation manager stage fun _ _ path has known => ?_
      exact known.imp_right fun was => was.trans (unchanged path fun _ => Bool.eq_false_iff.2 carries).symm

/-- The queues after one of the signals was taken. -/
theorem queues_take (queues : c.Queues h) {m : Monitor} (there : h.monitor = some m) (added : c.additions.isSome)
    (removed : c.removals.isSome) (branch : Monitor.Branch) :
    let interface := h.generation.deviceInterface
    let request := (m.take interface branch).2
    (m.take interface branch).1.additions interface =
        ((c.pass request).waiting.map (·.request)).filter (·.adds) ∧
      (m.take interface branch).1.removals interface =
        ((c.pass request).waiting.map (·.request)).filter (!·.adds) ∧
      ∀ rq, request = some rq → ∃ s, c.waiting.find? (·.request = rq) = some s ∧ s.request = rq := by
  intro interface request
  have additions := (m.additions_take interface branch).symm.trans (queues.added m there added)
  have removals := (m.removals_take interface branch).symm.trans (queues.removed m there removed)
  change (request.filter _).toList ++ _ = _ at additions
  change (request.filter _).toList ++ _ = _ at removals
  generalize request = request at additions removals ⊢
  cases request with
  | none => exact ⟨additions, removals, by simp⟩
  | some rq =>
    have rest : (c.waiting.eraseP (·.request = rq)).map (·.request) = (c.waiting.map (·.request)).erase rq := by
      rw [List.erase_eq_eraseP, List.eraseP_map]
      refine congrArg (List.map _) (congrArg (List.eraseP · c.waiting) (funext fun s => ?_))
      rw [Bool.eq_iff_iff, decide_eq_true_iff, Function.comp_apply, beq_iff_eq]
      exact eq_comm
    have waits : rq ∈ c.waiting.map (·.request) := by
      cases kind : rq.adds with
      | true => exact Monitor.mem_of_front additions kind
      | false => exact Monitor.mem_of_front removals (by rw [kind]; rfl)
    rw [Chronicle.pass, rest]
    refine ⟨Monitor.filter_erase_of_front additions, Monitor.filter_erase_of_front removals, ?_⟩
    rintro rq' ⟨⟩
    obtain ⟨t, mem, asks⟩ := List.mem_map.1 waits
    have found : (c.waiting.find? (·.request = rq)).isSome := by
      rw [List.find?_isSome]
      exact ⟨t, mem, by simpa using asks⟩
    obtain ⟨s, found⟩ := Option.isSome_iff_exists.1 found
    exact ⟨s, found, by simpa using List.find?_some found⟩

/-- The monitor takes a signal. -/
theorem follow (fits : c.Fits h) {m : Monitor} {branch : Monitor.Branch} (there : h.monitor = some m)
    (following : m.stage = .following) :
    (c.pass (m.take h.generation.deviceInterface branch).2).Fits (h.follow m branch) := by
  have stands := fits.stands
  have unmute (mute : c.Mute h) : False := by
    have listens := mute.2.2 m there
    rw [following] at listens
    exact absurd listens (by simp)
  cases outset : c.outset with
  | away | half | both =>
    rw [outset] at stands
    exact (unmute stands).elim
  | listed tree =>
    rw [outset] at stands
    exact (unmute stands.1).elim
  | begun =>
    rw [outset] at stands
    obtain ⟨kept, known⟩ := stands
    have both : c.removals.isSome := by
      rw [Option.isSome_iff_ne_none]
      intro none
      have early := fits.numbered.half.2 none
      simp [outset] at early
    have half : c.additions.isSome := by
      rw [Option.isSome_iff_ne_none]
      intro none
      have early := fits.numbered.away.2 none
      simp [outset] at early
    obtain ⟨added, removed, first⟩ := queues_take fits.queues there half both branch
    have numbered := fits.numbered.pass (m.take h.generation.deviceInterface branch).2
    have remanaged := Host.Remanaged.follow fits.there m branch
    have managed := remanaged.manages_eq
    have there' := remanaged.there
    obtain ⟨devices, subscriptions, runs, nextId, manager, same, -⟩ := remanaged
    have monitor : (h.follow m branch).monitor = some (m.take h.generation.deviceInterface branch).1 := by rw [same]
    have generation : (h.follow m branch).generation = h.generation := by rw [same]
    have carries : (h.follow m branch).carries = h.carries := by
      rw [same]
      rfl
    generalize (m.take h.generation.deviceInterface branch).2 = request at *
    have sent : (c.pass request).sent = c.sent := by cases request <;> rfl
    have begun : (c.pass request).outset = .begun := by cases request <;> exact outset
    refine ⟨numbered, generation.trans fits.generation, there', ?_, ⟨fun m' now _ => ?_, fun m' now _ => ?_⟩, ?_⟩
    · rw [sent, carries]
      exact fits.told
    · obtain rfl := Option.some.inj (monitor.symm.trans now)
      rw [generation]
      exact added
    · obtain rfl := Option.some.inj (monitor.symm.trans now)
      rw [generation]
      exact removed
    · rw [begun]
      cases request with
      | none =>
        refine ⟨fun path s last => ?_, fun path none => ?_⟩
        · rw [managed]
          exact kept path s last
        · rw [managed, carries]
          exact known path none
      | some rq =>
        obtain ⟨s, found, asks⟩ := first rq rfl
        have taken : (c.pass (some rq)).taken = s :: c.taken := by rw [Chronicle.pass, found]; rfl
        rw [Stands, taken]
        simp only [latest_cons, asks, Function.update_apply, managed, Option.elim_some, carries]
        refine ⟨fun path t last => ?_, fun path none => ?_⟩
        · split at last
          · next about =>
            obtain rfl := Option.some.inj last
            rw [if_pos about, asks]
          · next other =>
            rw [if_neg other]
            exact kept path t last
        · split at none
          · exact absurd none (by simp)
          · next other =>
            rw [if_neg other]
            refine (known path none).imp_left ?_
            rintro ⟨t, mem, about⟩
            refine ⟨t, ?_, about⟩
            change t ∈ c.waiting.eraseP (·.request = rq)
            rw [List.mem_eraseP_of_neg]
            · exact mem
            · simp only [decide_eq_true_iff]
              rintro rfl
              exact other about.symm

/-- When both queues have been emptied nothing waits. -/
theorem idle (fits : c.Fits h) (begun : c.outset = .begun) {m : Monitor} (there : h.monitor = some m)
    (drained : m.added = [] ∧ m.removed = []) : c.waiting = [] := by
  have half : c.additions.isSome := by
    rw [Option.isSome_iff_ne_none]
    intro none
    have early := fits.numbered.away.2 none
    simp [begun] at early
  have both : c.removals.isSome := by
    rw [Option.isSome_iff_ne_none]
    intro none
    have early := fits.numbered.half.2 none
    simp [begun] at early
  have added := fits.queues.added m there half
  have removed := fits.queues.removed m there both
  rw [Monitor.additions, drained.1] at added
  rw [Monitor.removals, drained.2] at removed
  refine List.eq_nil_iff_forall_not_mem.2 fun s mem => ?_
  have request := List.mem_map_of_mem (f := Dispatch.request) mem
  cases kind : s.request.adds with
  | true => exact List.not_mem_nil (added ▸ List.mem_filter.2 ⟨request, kind⟩)
  | false => exact List.not_mem_nil (removed ▸ List.mem_filter.2 ⟨request, by rw [kind]; rfl⟩)

/-! ### The start -/

theorem subscribeAdded (fits : c.Fits h) (away : c.outset = .away) :
    ({ c with outset := .half, additions := some c.sent.length } : Chronicle).Fits h.subscribeAdded := by
  have stands := fits.stands
  rw [away] at stands
  obtain ⟨taken, managed, -⟩ := stands
  have none := fits.numbered.away.1 away
  have none' := fits.numbered.half.1 (.inl away)
  have idle : c.waiting = [] := by
    refine List.eq_nil_iff_forall_not_mem.2 fun s => (fits.numbered.not_mem_of_deaf ?_).2
    simp [Hears, none, none']
  refine ⟨fits.numbered.subscribeAdded away, fits.generation, fits.there, fits.told,
    ⟨fun m there _ => ?_, fun m there subscribed => ?_⟩, taken, managed, fun m there => ?_⟩
  · obtain rfl := Option.some.inj there
    change _ = (c.waiting.map _).filter _
    rw [idle]
    rfl
  · exact absurd subscribed (by simp [none'])
  · obtain rfl := Option.some.inj there
    rfl

theorem subscribeRemoved (fits : c.Fits h) (half : c.outset = .half) :
    ({ c with outset := .both, removals := some c.sent.length } : Chronicle).Fits h.subscribeRemoved := by
  have stands := fits.stands
  rw [half] at stands
  obtain ⟨taken, managed, listens⟩ := stands
  have none := fits.numbered.half.1 (.inr half)
  refine ⟨fits.numbered.subscribeRemoved half, fits.generation, fits.there, fits.told,
    ⟨fun m there subscribed => ?_, fun m there _ => ?_⟩, taken, managed, fun m there => ?_⟩
  · obtain ⟨m', there', rfl⟩ := Option.map_eq_some_iff.1 there
    exact fits.queues.added m' there' subscribed
  · obtain ⟨m', there', rfl⟩ := Option.map_eq_some_iff.1 there
    have kinds : (c.waiting.map (·.request)).filter (!·.adds) = [] := by
      refine List.filter_eq_nil_iff.2 fun rq mem => ?_
      obtain ⟨s, waits, rfl⟩ := List.mem_map.1 mem
      intro removal
      refine (fits.numbered.not_mem_of_deaf ?_).2 waits
      rw [Hears, if_neg (by simpa using removal), none]
      rfl
    exact kinds.symm
  · obtain ⟨m', there', rfl⟩ := Option.map_eq_some_iff.1 there
    exact listens m' there'

/-- The monitor is told of all objects that there are. -/
theorem list (fits : c.Fits h) (both : c.outset = .both) {tree : List (String × Interfaces)}
    (all : ∀ path, decide (path ∈ Host.devicePaths h.generation tree) = h.carries path) :
    ({ c with outset := .listed tree } : Chronicle).Fits h := by
  have stands := fits.stands
  rw [both] at stands
  have numbered : ({ c with outset := .listed tree } : Chronicle).Numbered :=
    { fits.numbered with
      away := by rw [← fits.numbered.away, both]; simp
      half := by rw [← fits.numbered.half, both]; simp }
  exact ⟨numbered, fits.generation, fits.there, fits.told, ⟨fits.queues.added, fits.queues.removed⟩, stands,
    fun path => .inr (all path)⟩

theorem takeUp (fits : c.Fits h) {tree : List (String × Interfaces)} (listed : c.outset = .listed tree) :
    ({ c with outset := .begun } : Chronicle).Fits (h.takeUp tree) := by
  have stands := fits.stands
  rw [listed] at stands
  obtain ⟨⟨taken, unmanaged, listens⟩, known⟩ := stands
  have numbered : ({ c with outset := .begun } : Chronicle).Numbered :=
    { fits.numbered with
      away := by rw [← fits.numbered.away, listed]; simp
      half := by rw [← fits.numbered.half, listed]; simp }
  have remanaged := Host.Remanaged.deviceAddedAll fits.there (Host.devicePaths h.generation tree)
  have managed := remanaged.manages_eq
  have there := remanaged.there
  rw [Host.takeUp]
  obtain ⟨devices, subscriptions, runs, nextId, manager, same, -⟩ := remanaged
  rw [same] at managed there ⊢
  refine ⟨numbered, fits.generation, there, fits.told,
    ⟨fun m now subscribed => ?_, fun m now subscribed => ?_⟩, fun path s last => ?_, fun path _ => ?_⟩
  · obtain ⟨m', there', rfl⟩ := Option.map_eq_some_iff.1 now
    exact fits.queues.added m' there' subscribed
  · obtain ⟨m', there', rfl⟩ := Option.map_eq_some_iff.1 now
    exact fits.queues.removed m' there' subscribed
  · change latest c.taken path = some s at last
    rw [taken] at last
    exact absurd last (by simp [latest])
  · refine (known path).imp id fun all => ?_
    refine (congrFun managed path).trans ?_
    rw [unmanaged path, Bool.or_false]
    exact all

end Fits

end Chronicle

namespace Bench

variable {c : Chronicle} {b b' : Bench}

/-! ## All runs -/

/-- Somebody but the monitor adds to the manager or removes from it, objects change, or a monitor
starts. -/
def Tends (b : Bench) (m : Move) : Prop :=
  (b.command? m).any Command.manages ∨ m.step?.any Step.tends

instance (b : Bench) (m : Move) : Decidable (b.Tends m) := inferInstanceAs (Decidable (_ ∨ _))

/-- What the monitor asks of the manager in a move. -/
def asked? (b : Bench) : Move → Option Monitor.Request
  | .follow branch =>
    (b.branch? branch).bind fun m => (m.take b.host.generation.deviceInterface branch).2
  | .act | .step _ | .poll _ | .report => none

/-- The runs of a bench with a manager that nobody but its monitor tells to add or to remove a device. Objects
on the bus come and go at any time, and each time a signal tells of it; the chronicle records which signals were
sent and which the monitor took. -/
inductive Observes : Chronicle → Bench → Prop
  | opening (p : Peer) (isLoaded : Bool) (timeouts : Timeouts) (naming : Naming) :
      Observes {} (opening .bluez5 (.peer p) isLoaded (some timeouts) naming)
  | move {c : Chronicle} {b b' : Bench} (observes : Observes c b) (m : Move) (made : b.make m = some b')
      (aside : ¬ b.Tends m) : Observes (c.pass (b.asked? m)) b'
  /-- An object comes, or it gains interfaces. -/
  | comes {c : Chronicle} {b b₁ b₂ : Bench} (observes : Observes c b) (connected : b.host.peer?.isSome)
      (object : ObjectSignal) (after : Interfaces)
      (gained : after.contains b.host.generation.deviceInterface =
        (b.host.carries object.path || object.interfaces.contains b.host.generation.deviceInterface))
      (changed : b.make (.step (.putObject object.path (some after))) = some b₁)
      (told : b₁.make (.step (.signal (.added object))) = some b₂) :
      Observes (c.send b.host.generation.deviceInterface object .add) b₂
  /-- An object goes, or it loses interfaces. -/
  | goes {c : Chronicle} {b b₁ b₂ : Bench} (observes : Observes c b) (connected : b.host.peer?.isSome)
      (object : ObjectSignal) (after : Option Interfaces)
      (lost : after.any (·.contains b.host.generation.deviceInterface) =
        (b.host.carries object.path && !object.interfaces.contains b.host.generation.deviceInterface))
      (changed : b.make (.step (.putObject object.path after)) = some b₁)
      (told : b₁.make (.step (.signal (.removed object))) = some b₂) :
      Observes (c.send b.host.generation.deviceInterface object .remove) b₂
  | subscribeAdded {c : Chronicle} {b : Bench} (observes : Observes c b) (away : c.outset = .away) :
      Observes { c with outset := .half, additions := some c.sent.length } (b.onHost (·.subscribeAdded))
  | subscribeRemoved {c : Chronicle} {b : Bench} (observes : Observes c b) (half : c.outset = .half) :
      Observes { c with outset := .both, removals := some c.sent.length } (b.onHost (·.subscribeRemoved))
  /-- The peer lists the objects that there are. -/
  | list {c : Chronicle} {b : Bench} (observes : Observes c b) (both : c.outset = .both) {p p' : Peer}
      {tree : List (String × Interfaces)} (there : b.host.transport = .peer p)
      (answered : p.managedObjects = (p', .value tree))
      (all : ∀ path, decide (path ∈ Host.devicePaths b.host.generation tree) = b.host.carries path) :
      Observes { c with outset := .listed tree } (b.setPeer p')
  /-- The monitor gets the list. -/
  | takeUp {c : Chronicle} {b : Bench} (observes : Observes c b) {tree : List (String × Interfaces)}
      (listed : c.outset = .listed tree) :
      Observes { c with outset := .begun } (b.onHost (·.takeUp tree))

/-- A move that has nothing to do with the monitor. -/
theorem unseen_make {m : Move} (made : b.make m = some b') (aside : ¬ b.Tends m)
    (still : ∀ branch, m ≠ .follow branch) : Host.Unseen b.host b'.host := by
  obtain ⟨command, step⟩ := not_or.1 aside
  cases plays_of_make made with
  | backstage same => exact .of_scene same
  | command ds c given did =>
    rw [did]
    have aside : Host.Unseen b.host (b.host.withAgenda ds) := .of_same rfl rfl rfl rfl
    exact aside.trans (.obey _ (by simpa [given] using command))
  | pursue ds run taken did =>
    rw [did]
    have aside : Host.Unseen b.host (b.host.withAgenda ds) := .of_same rfl rfl rfl rfl
    exact aside.trans (.pursue _ run)
  | follow branch monitor turn next did => exact absurd turn (still branch)
  | step s turn noCommand front did =>
    rw [did]
    exact unseen_doStep front noCommand (by simpa [turn, Move.step?] using step)

/-- An object is put in its place, and a signal tells of it. -/
theorem host_of_told {b₁ b₂ : Bench} {p : Peer} (connected : b.host.peer? = some p) {path : String}
    {after : Option Interfaces} {s : Signal} (changed : b.make (.step (.putObject path after)) = some b₁)
    (told : b₁.make (.step (.signal s)) = some b₂) :
    b₂.host = ({ b.host with
      transport := .peer { p with objects := after.elim (p.objects.erase path) (p.objects.set path) } } :
        Host).receiveSignal s := by
  have transport := Host.transport_of_peer? connected
  have alive : p.connected = true := by
    rw [Host.peer?, transport] at connected
    exact (Option.ite_none_right_eq_some.1 connected).1
  have there : b.peer? = some p := by rw [peer?, transport]
  obtain ⟨-, changed⟩ := Option.ite_none_right_eq_some.1 changed
  obtain ⟨-, told⟩ := Option.ite_none_right_eq_some.1 told
  obtain rfl := Option.some.inj changed
  obtain rfl := Option.some.inj told
  have placed : (b.doStep (.putObject path after)).1 =
      b.setPeer { p with objects := after.elim (p.objects.erase path) (p.objects.set path) } := by
    simp only [doStep, there, withSome, Option.elim_some]
  rw [placed]
  simp only [doStep, withSome, peer?, setPeer, onHost, Option.elim_some, receiveSignal, Host.peer?, alive, if_true]

/-- What objects there are when one has been put in its place. -/
theorem carries_put {h : Host} {p : Peer} (transport : h.transport = .peer p) (path : String)
    (after : Option Interfaces) :
    ({ h with
      transport := .peer { p with objects := after.elim (p.objects.erase path) (p.objects.set path) } } :
        Host).carries = update h.carries path (after.any (·.contains h.generation.deviceInterface)) := by
  have looked (j : String) : (after.elim (p.objects.erase path) (p.objects.set path)).get? j =
      if j = path then after else p.objects.get? j := by
    cases after with
    | none => exact Table.get?_erase p.objects path j
    | some interfaces => exact Table.get?_set p.objects path j interfaces
  funext j
  rw [Function.update_apply, Host.carries, Host.carries, Host.objects, Host.objects, transport]
  simp only [Transport.objects, looked]
  split <;> rfl

/-- An object changes as a signal says that is queued for the monitor. -/
theorem fits_of_told {b₁ b₂ : Bench} (fits : c.Fits b.host) (connected : b.host.peer?.isSome)
    {object : ObjectSignal} {after : Option Interfaces} {s : Signal} {request : String → Monitor.Request}
    (queue : Monitor → Monitor) (changed : b.make (.step (.putObject object.path after)) = some b₁)
    (told : b₁.make (.step (.signal s)) = some b₂) (about : (request object.path).path = object.path)
    (heard : ∀ h p, Host.peer? h = some p → h.receiveSignal s = h.onMonitor queue)
    (stage : ∀ m, (queue m).stage = m.stage)
    (queued : ∀ m interface,
      (queue m).additions interface = m.additions interface ++
          ((Monitor.request? object interface request).filter (·.adds)).toList ∧
        (queue m).removals interface = m.removals interface ++
          ((Monitor.request? object interface request).filter (!·.adds)).toList)
    (right : after.any (·.contains b.host.generation.deviceInterface) =
      if object.interfaces.contains b.host.generation.deviceInterface then (request object.path).adds
      else b.host.carries object.path) :
    (c.send b.host.generation.deviceInterface object request).Fits b₂.host := by
  obtain ⟨p, connected⟩ := Option.isSome_iff_exists.1 connected
  have transport := Host.transport_of_peer? connected
  have put := carries_put transport object.path after
  have alive : p.connected = true := by
    rw [Host.peer?, transport] at connected
    exact (Option.ite_none_right_eq_some.1 connected).1
  rw [host_of_told connected changed told, heard _ _ (by rw [Host.peer?]; exact if_pos alive)]
  refine fits.send about rfl rfl (fun path other => ?_) ?_ fun m' there => ?_
  · exact (congrFun put path).trans (Function.update_of_ne other _ _)
  · exact ((congrFun put object.path).trans (Function.update_self _ _ _)).trans right
  · obtain ⟨m, kept, rfl⟩ := Option.map_eq_some_iff.1 there
    exact ⟨m, kept, stage m, queued m _⟩

/-- **In all runs a host is as its chronicle says.** -/
theorem Observes.fits (observes : Observes c b) : c.Fits b.host := by
  induction observes with
  | opening p isLoaded timeouts naming =>
    have alone : (Bench.opening .bluez5 (.peer p) isLoaded (some timeouts) naming).host.monitor = none := rfl
    refine ⟨.opening, rfl, rfl, fun path s last => absurd last (by simp [latest]), ⟨?_, ?_⟩, rfl, fun path => rfl, ?_⟩
    all_goals exact fun m there => absurd (alone.symm.trans there) (by simp)
  | @move c b b' observes m made aside ih =>
    by_cases follows : ∃ branch, m = .follow branch
    · obtain ⟨branch, rfl⟩ := follows
      obtain ⟨-, made⟩ := Option.ite_none_right_eq_some.1 made
      obtain ⟨monitor, next, rfl⟩ := Option.map_eq_some_iff.1 made
      rw [asked?, next, Option.bind_some]
      obtain ⟨there, ready⟩ := Option.filter_eq_some_iff.1 next
      refine ih.follow there ?_
      cases stage : monitor.stage with
      | following => rfl
      | enumerating | ended => exact absurd ready (by simp [stage])
    · have none : b.asked? m = none := by
        cases m with
        | follow branch => exact absurd ⟨branch, rfl⟩ follows
        | act | step | poll | report => rfl
      rw [none]
      exact ih.unseen (unseen_make made aside (not_exists.1 follows))
  | @comes c b b₁ b₂ observes connected object after gained changed told ih =>
    refine fits_of_told ih connected (fun m => { m with added := m.added ++ [object] }) changed told rfl ?_
      (fun _ => rfl) (fun m interface => m.added_append object interface) ?_
    · intro h p there
      rw [Host.receiveSignal, there]
      rfl
    · rw [Option.any_some, gained]
      split <;> simp_all [Monitor.Request.adds]
  | @goes c b b₁ b₂ observes connected object after lost changed told ih =>
    refine fits_of_told ih connected (fun m => { m with removed := m.removed ++ [object] }) changed told rfl ?_
      (fun _ => rfl) (fun m interface => m.removed_append object interface) ?_
    · intro h p there
      rw [Host.receiveSignal, there]
      rfl
    · rw [lost]
      split <;> simp_all [Monitor.Request.adds]
  | subscribeAdded observes away ih => exact ih.subscribeAdded away
  | subscribeRemoved observes half ih => exact ih.subscribeRemoved half
  | @list c b observes both p p' tree there answered all ih =>
    refine (ih.list both all).unseen (.of_same rfl ?_ rfl rfl)
    have called := p.bare_call "GetManagedObjects" (.objects p.objects.entries) Peer.readObjects
    have same : p'.bare = p.bare := by
      rw [Peer.managedObjects] at answered
      rwa [answered] at called
    rw [there]
    exact congrArg Transport.peer same
  | takeUp observes listed ih => exact ih.takeUp listed

/-- A monitor that starts in one go. -/
theorem Observes.monitor (observes : Observes c b) (away : c.outset = .away) {p p' : Peer}
    {tree : List (String × Interfaces)} (there : b.host.transport = .peer p)
    (answered : p.managedObjects = (p', .value tree))
    (all : ∀ path, decide (path ∈ Host.devicePaths b.host.generation tree) = b.host.carries path)
    (made : b.make (.step .monitor) = some b') :
    Observes { c with outset := .begun, additions := some c.sent.length, removals := some c.sent.length } b' := by
  have fits := observes.fits
  obtain ⟨manager, managed⟩ := Option.isSome_iff_exists.1 fits.there
  have able : b.host.generation.exportsObjectManager = true := by rw [fits.generation]; rfl
  have listed : Observes _ ((b.onHost (·.subscribeAdded)).onHost (·.subscribeRemoved) |>.setPeer p') :=
    ((observes.subscribeAdded away).subscribeRemoved rfl).list rfl there answered all
  have begun := listed.takeUp rfl
  obtain ⟨-, made⟩ := Option.ite_none_right_eq_some.1 made
  have started : (b.doStep .monitor).1 = b.onHost (·.startMonitor p) := by
    have peer : b.peer? = some p := by rw [peer?, there]
    simp only [doStep, withSome, peer, managed, Option.elim_some]
  rw [started, onHost, Host.startMonitor_eq able answered] at made
  rw [← Option.some.inj made]
  exact begun

/-- **When the manager is right about a path.** Let the monitor have started with the enumeration of the objects
on the bus, and have consumed every signal of both of its streams. Then the manager has a device for a path if
and only if the object at that path carries the device interface, unless one of two things happened: the monitor
took the signals about the path out of order, which `select!` allows as they come in two streams
(`Chronicle.Overtaken`), or the last of them was a removal sent before the monitor had subscribed to removals
(`Chronicle.Missed`). In either case the manager is wrong. -/
theorem manages_eq_carries_iff (observes : Observes c b) (begun : c.outset = .begun) {m : Monitor}
    (there : b.host.monitor = some m) (drained : m.added = [] ∧ m.removed = []) (path : String) :
    b.host.manages path = b.host.carries path ↔ ¬ c.Overtaken path ∧ ¬ c.Missed path := by
  have fits := observes.fits
  have stands := fits.stands
  rw [begun] at stands
  obtain ⟨kept, known⟩ := stands
  have idle := fits.idle begun there drained
  cases taken : latest c.taken path with
  | none =>
    have right := (known path taken).resolve_left fun ⟨s, mem, _⟩ => by simp [idle] at mem
    exact iff_of_true right
      ⟨Chronicle.not_overtaken_of_untaken taken, Chronicle.not_missed_of_untaken fits.numbered idle taken⟩
  | some s =>
    have sentS := ((fits.numbered.heard s).1 (.inl (mem_of_latest taken).1)).1
    have some' : (latest c.sent path).isSome := by
      rw [latest, List.find?_isSome]
      exact ⟨s, sentS, by simpa using (mem_of_latest taken).2⟩
    obtain ⟨t, sent⟩ := Option.isSome_iff_exists.1 some'
    rw [kept path s taken, fits.told path t sent]
    exact Chronicle.adds_eq_iff fits.numbered idle taken sent

/-- The interfaces of a device. -/
def phone : Interfaces := ⟨[("org.bluez.Device1", [])]⟩

/-- A signal of a device at a path. -/
def ofPhone (path : String) : ObjectSignal := { path, interfaces := ["org.bluez.Device1"] }

/-- A bench whose manager is told by a monitor. There may be a device already. -/
def watching (objects : Table String Interfaces) : Bench :=
  (opening .bluez5 (.peer { objects }) true (some {})).makeAll [.step .monitor]

/-- The device of the bench goes. -/
def going : List Move := [.step (.putObject "/d" none), .step (.signal (.removed (ofPhone "/d")))]

/-- It comes. -/
def coming : List Move := [.step (.putObject "/d" (some phone)), .step (.signal (.added (ofPhone "/d")))]

/-- The device goes and comes back before the monitor looks. -/
def flickering : Bench := ((watching ⟨[("/d", phone)]⟩).makeAll going).makeAll coming

/-- A device comes and goes before the monitor looks. -/
def passing : Bench := ((watching {}).makeAll coming).makeAll going

/-- A monitor that has started and has had nothing to hear of yet. -/
theorem observes_watching {objects : Table String Interfaces}
    (sole : ∀ e ∈ objects.entries, objects.get? e.1 = some e.2) :
    Observes { outset := .begun, additions := some 0, removals := some 0 } (watching objects) := by
  have opened : Observes {} (opening .bluez5 (.peer { objects }) true (some {})) := .opening _ _ _ _
  refine opened.monitor rfl rfl rfl (Host.devicePaths_objects rfl sole) ?_
  rfl

/-- A monitor that was subscribed to everything before the two signals were sent. -/
def heardBoth (first second : Monitor.Request) : Chronicle :=
  { outset := .begun, additions := some 0, removals := some 0
    sent := [⟨1, second⟩, ⟨0, first⟩], waiting := [⟨0, first⟩, ⟨1, second⟩] }

/-- A device goes and comes back before the monitor takes anything. -/
theorem observes_flickering : Observes (heardBoth (.remove "/d") (.add "/d")) flickering := by
  have watched : Observes _ (watching ⟨[("/d", phone)]⟩) := observes_watching (by simp [Table.get?])
  have gone : Observes _ ((watching ⟨[("/d", phone)]⟩).makeAll going) :=
    watched.goes (by rfl) (ofPhone "/d") none (by rfl) (by rfl) (by rfl)
  exact gone.comes (by rfl) (ofPhone "/d") phone (by rfl) (by rfl) (by rfl)

/-- A device comes and goes before the monitor takes anything. -/
theorem observes_passing : Observes (heardBoth (.add "/d") (.remove "/d")) passing := by
  have watched : Observes _ (watching {}) := observes_watching (by simp)
  have come : Observes _ ((watching {}).makeAll coming) :=
    watched.comes (by rfl) (ofPhone "/d") phone (by rfl) (by rfl) (by rfl)
  exact come.goes (by rfl) (ofPhone "/d") none (by rfl) (by rfl) (by rfl)

/-- The monitor takes the first signal first. -/
theorem observes_flickering_inOrder :
    Observes { heardBoth (.remove "/d") (.add "/d") with
        waiting := [], taken := [⟨1, .add "/d"⟩, ⟨0, .remove "/d"⟩] }
      (flickering.makeAll [.follow .removed, .follow .added]) :=
  have first : Observes _ (flickering.makeAll [.follow .removed]) :=
    observes_flickering.move (.follow .removed) (by rfl) (by decide)
  first.move (.follow .added) (by rfl) (by decide)

/-- It takes the second one first. -/
theorem observes_flickering_overtaken :
    Observes { heardBoth (.remove "/d") (.add "/d") with
        waiting := [], taken := [⟨0, .remove "/d"⟩, ⟨1, .add "/d"⟩] }
      (flickering.makeAll [.follow .added, .follow .removed]) :=
  have first : Observes _ (flickering.makeAll [.follow .added]) :=
    observes_flickering.move (.follow .added) (by rfl) (by decide)
  first.move (.follow .removed) (by rfl) (by decide)

/-- The monitor takes the removal first. -/
theorem observes_passing_overtaken :
    Observes { heardBoth (.add "/d") (.remove "/d") with
        waiting := [], taken := [⟨0, .add "/d"⟩, ⟨1, .remove "/d"⟩] }
      (passing.makeAll [.follow .removed, .follow .added]) :=
  have first : Observes _ (passing.makeAll [.follow .removed]) :=
    observes_passing.move (.follow .removed) (by rfl) (by decide)
  first.move (.follow .added) (by rfl) (by decide)

/-- A device that goes and comes back is kept if the signals are taken in order, and lost if not. -/
theorem manages_eq_carries_iff_flickering :
    (flickering.makeAll [.follow .removed, .follow .added]).host.manages "/d" =
        (flickering.makeAll [.follow .removed, .follow .added]).host.carries "/d" ∧
      (flickering.makeAll [.follow .added, .follow .removed]).host.manages "/d" ≠
        (flickering.makeAll [.follow .added, .follow .removed]).host.carries "/d" := by
  constructor
  · exact (manages_eq_carries_iff observes_flickering_inOrder rfl (Option.some_get (by rfl)).symm
      ⟨by rfl, by rfl⟩ "/d").2 (by decide)
  · refine mt (manages_eq_carries_iff observes_flickering_overtaken rfl (Option.some_get (by rfl)).symm
      ⟨by rfl, by rfl⟩ "/d").1 (by decide)

/-- A device comes and goes after the monitor has subscribed to the signals of objects that come and
before it has to those of objects that go. -/
def halfway : Bench :=
  (((opening .bluez5 (.peer {}) true (some {})).onHost (·.subscribeAdded)).makeAll coming).makeAll going

/-- The rest of the start. -/
def startedLate : Bench :=
  ((halfway.onHost (·.subscribeRemoved)).setPeer
    (halfway.peer?.getD {}).managedObjects.1).onHost (·.takeUp [])

/-- A device goes between the two subscriptions of the monitor. -/
theorem observes_startedLate :
    Observes { outset := .begun, additions := some 0, removals := some 2
               sent := [⟨1, .remove "/d"⟩, ⟨0, .add "/d"⟩], taken := [⟨0, .add "/d"⟩] }
      (startedLate.makeAll [.follow .added]) := by
  have opened : Observes {} (opening .bluez5 (.peer {}) true (some {})) := .opening _ _ _ _
  have half := opened.subscribeAdded rfl
  have come : Observes _ (((opening .bluez5 (.peer {}) true (some {})).onHost (·.subscribeAdded)).makeAll coming) :=
    half.comes (by rfl) (ofPhone "/d") phone (by rfl) (by rfl) (by rfl)
  have gone : Observes _ halfway := come.goes (by rfl) (ofPhone "/d") none (by rfl) (by rfl) (by rfl)
  have both := gone.subscribeRemoved rfl
  have listed : Observes _ ((halfway.onHost (·.subscribeRemoved)).setPeer (halfway.peer?.getD {}).managedObjects.1) :=
    both.list rfl rfl rfl fun path => rfl
  have begun : Observes _ startedLate := listed.takeUp rfl
  exact begun.move (.follow .added) (by rfl) (by decide)

/-- The monitor was not asked to stop, and has consumed every signal of both streams. -/
def Drained (b : Bench) : Prop :=
  ∃ m, b.host.monitor = some m ∧ m.added = [] ∧ m.removed = [] ∧ m.stopped = false

/-- A monitor that started as it should has consumed every signal, and yet the manager is wrong about a
path. -/
def Misled (c : Chronicle) (b : Bench) (path : String) : Prop :=
  Observes c b ∧ c.outset = .begun ∧ b.Drained ∧ b.host.manages path ≠ b.host.carries path

/-- **The manager may lose a device that is there, and keep one that is not.** When a device goes and
comes back, the monitor may take the addition first, which does nothing, and then the removal. When a
device comes and goes, it may take the removal first; and it never gets the removal if that was sent
between its two subscriptions. -/
theorem misled :
    ((∃ c, Misled c (flickering.makeAll [.follow .added, .follow .removed]) "/d") ∧
      (flickering.makeAll [.follow .added, .follow .removed]).host.carries "/d" = true) ∧
    ((∃ c, Misled c (passing.makeAll [.follow .removed, .follow .added]) "/d") ∧
      (passing.makeAll [.follow .removed, .follow .added]).host.carries "/d" = false) ∧
    ((∃ c, Misled c (startedLate.makeAll [.follow .added]) "/d") ∧
      (startedLate.makeAll [.follow .added]).host.carries "/d" = false) := by
  refine ⟨⟨⟨_, observes_flickering_overtaken, rfl, ?_, by decide⟩, by rfl⟩,
    ⟨⟨_, observes_passing_overtaken, rfl, ?_, by decide⟩, by rfl⟩,
    ⟨⟨_, observes_startedLate, rfl, ?_, by decide⟩, by rfl⟩⟩
  all_goals exact ⟨_, (Option.some_get (by rfl)).symm, by rfl, by rfl, by rfl⟩

end Bench

end Piconet
