import Piconet.Proofs.Pursuit
import Piconet.Proofs.Identifiers

/-!
# Discovery at rest

Discovery goes on in the moves that take up a run, and in no others. All that a move without one can
do to discovery is to have a device come or go, to start a first run or let go of one, and to put
something into the feeds of runs (`Host.Rests`).
-/

namespace Piconet

open Function (update)

/-- Two records of a device that agree in what discovery found out. It may have been started in the
meantime. -/
structure Device.SameFindings (d e : Device) : Prop where
  bare : e.bare = { d.bare with started := e.started }
  started : d.started → e.started

namespace Device.SameFindings

variable {d e f : Device}

/-- A record that shows the same but for profiles and sessions has the same findings. -/
theorem of_bare (same : e.bare = d.bare) : d.SameFindings e := by
  have started : e.bare.started = d.bare.started := congrArg Device.started same
  have started : e.started = d.started := started
  refine ⟨?_, fun was => started.trans was⟩
  rw [same, started]
  rfl

theorem refl (d : Device) : d.SameFindings d := .of_bare rfl

theorem trans (first : d.SameFindings e) (second : e.SameFindings f) : d.SameFindings f where
  bare := by rw [second.bare, first.bare]
  started was := second.started (first.started was)

/-- They agree in everything that has to do with neither the registry, nor sessions, nor whether discovery
was started. -/
theorem congr {α : Type} (same : d.SameFindings e) (f : Device → α)
    (blind : ∀ d b, f { d.bare with started := b } = f d) : f e = f d :=
  calc f e = f { e.bare with started := e.started } := (blind e e.started).symm
    _ = f e.bare := rfl
    _ = f { d.bare with started := e.started } := by rw [same.bare]
    _ = f d := blind d e.started

end Device.SameFindings

/-- A run stands where another one stands; what its feeds hold may differ if they were fed. -/
def Run.SamePlace (fed : Prop) (r r' : Run) : Prop :=
  r' = r ∨ fed ∧ ∃ changes power, r' = { r with changes, power }

namespace Run.SamePlace

variable {fed : Prop} {r r' r'' : Run}

theorem trans (first : SamePlace fed r r') (second : SamePlace fed r' r'') : SamePlace fed r r'' := by
  rcases first with rfl | ⟨allowed, changes, power, rfl⟩
  · exact second
  · rcases second with rfl | ⟨-, changes', power', rfl⟩
    · exact .inr ⟨allowed, changes, power, rfl⟩
    · exact .inr ⟨allowed, changes', power', rfl⟩

theorem device (same : SamePlace fed r r') : r'.device = r.device := by
  rcases same with rfl | ⟨-, changes, power, rfl⟩ <;> rfl

theorem phase (same : SamePlace fed r r') : r'.phase = r.phase := by
  rcases same with rfl | ⟨-, changes, power, rfl⟩ <;> rfl

end Run.SamePlace

/-- Discovery does not go on: devices keep what was found out about them, and runs stand where they
stood. -/
structure Host.Rests (fed : Prop) (h h' : Host) : Prop where
  nextId_le : h.nextId ≤ h'.nextId
  kind : h'.transport.kind = h.transport.kind
  /-- a device was there before, or it is new and nothing is known of it -/
  device : ∀ id e, h'.device? id = some e →
    (∃ d, h.device? id = some d ∧ d.SameFindings e) ∨
      h.nextId ≤ id ∧ ∃ path g t, (Device.fresh path g t).SameFindings e
  /-- a run was there before, or it is the first of its device and has not begun -/
  run : ∀ x ∈ h'.runs.entries,
    (∃ y ∈ h.runs.entries, y.1 = x.1 ∧ y.2.SamePlace fed x.2) ∨
      ∃ label id, Run.SamePlace fed { label, device := id } x.2 ∧
        (h.nextId ≤ id ∨ ∃ d, h.device? id = some d ∧ d.started = false)

namespace Host

namespace Rests

variable {fed : Prop} {h h' h'' : Host}

theorem refl (h : Host) : Rests fed h h where
  nextId_le := Nat.le_refl _
  kind := rfl
  device _ e there := .inl ⟨e, there, .refl e⟩
  run x mem := .inl ⟨x, mem, rfl, .inl rfl⟩

theorem trans (first : Rests fed h h') (second : Rests fed h' h'') : Rests fed h h'' where
  nextId_le := Nat.le_trans first.nextId_le second.nextId_le
  kind := second.kind.trans first.kind
  device id f there := by
    rcases second.device id f there with ⟨e, there, same⟩ | ⟨new, fresh⟩
    · rcases first.device id e there with ⟨d, found, same'⟩ | ⟨new, path, g, t, same'⟩
      · exact .inl ⟨d, found, same'.trans same⟩
      · exact .inr ⟨new, path, g, t, same'.trans same⟩
    · exact .inr ⟨Nat.le_trans first.nextId_le new, fresh⟩
  run x mem := by
    rcases second.run x mem with ⟨y, mem, key, same⟩ | ⟨label, id, begins, unstarted⟩
    · rcases first.run y mem with ⟨z, mem, key', same'⟩ | ⟨label, id, begins, unstarted⟩
      · exact .inl ⟨z, mem, key'.trans key, same'.trans same⟩
      · exact .inr ⟨label, id, begins.trans same, unstarted⟩
    · refine .inr ⟨label, id, begins, ?_⟩
      rcases unstarted with new | ⟨e, there, first'⟩
      · exact .inl (Nat.le_trans first.nextId_le new)
      · rcases first.device id e there with ⟨d, found, same⟩ | ⟨new, -⟩
        · refine .inr ⟨d, found, Bool.eq_false_iff.2 fun was => ?_⟩
          exact absurd (same.started was) (by simp [first'])
        · exact .inl new

/-- What is behind the scene makes no difference. -/
theorem of_scene (scene : h'.scene = h.scene) (nextId_le : h.nextId ≤ h'.nextId) : Rests fed h h' where
  nextId_le := nextId_le
  kind := Transport.kind_of_bare (congrArg Scene.transport scene)
  device id e there := by
    have devices : (h'.device? id).map Device.bare = (h.device? id).map Device.bare :=
      congrFun (congrArg Scene.devices scene) id
    rw [there, Option.map_some, eq_comm, Option.map_eq_some_iff] at devices
    obtain ⟨d, found, same⟩ := devices
    exact .inl ⟨d, found, .of_bare same.symm⟩
  run x mem := by
    have runs : h'.runs = h.runs := congrArg Scene.runs scene
    rw [runs] at mem
    exact .inl ⟨x, mem, rfl, .inl rfl⟩

/-- Nothing but the feeds of runs, and what discovery does not look at, is touched. -/
theorem of_runs (devices : h'.devices = h.devices) (nextId : h'.nextId = h.nextId)
    (kind : h'.transport.kind = h.transport.kind)
    (run : ∀ x ∈ h'.runs.entries, ∃ y ∈ h.runs.entries, y.1 = x.1 ∧ y.2.SamePlace fed x.2) :
    Rests fed h h' where
  nextId_le := Nat.le_of_eq nextId.symm
  kind := kind
  device id e there := by
    rw [device?, devices] at there
    exact .inl ⟨e, there, .refl e⟩
  run x mem := .inl (run x mem)

/-- Neither devices nor runs are touched. -/
theorem of_same (devices : h'.devices = h.devices) (nextId : h'.nextId = h.nextId)
    (transport : h'.transport = h.transport) (runs : h'.runs = h.runs) : Rests fed h h' :=
  .of_runs devices nextId (congrArg _ transport) fun x mem =>
    ⟨x, runs ▸ mem, rfl, .inl rfl⟩

/-- Something is put into feeds, or they end. -/
theorem feed (h : Host) (allowed : fed) (changes : Run → Option (Feed PropertyBatch))
    (power : Run → Option (Feed Bool)) :
    Rests fed h { h with
      runs := h.runs.mapValues fun r => { r with changes := changes r, power := power r } } := by
  refine .of_runs rfl rfl rfl fun x mem => ?_
  obtain ⟨y, old, rfl⟩ := List.mem_map.1 mem
  exact ⟨y, old, rfl, .inr ⟨allowed, _, _, rfl⟩⟩

/-- A new device has no run of discovery yet. -/
theorem create (h : Host) (path : String) (g : Generation) (t : Timeouts) :
    Rests fed h (h.create (.fresh path g t)).1 where
  nextId_le := Nat.le_succ _
  kind := rfl
  device id e there := by
    rw [device?_create] at there
    rcases Core.eq_of_update_some there with ⟨rfl, rfl⟩ | ⟨-, kept⟩
    · exact .inr ⟨Nat.le_refl _, path, g, t, .refl _⟩
    · exact .inl ⟨e, kept, .refl e⟩
  run x mem := .inl ⟨x, mem, rfl, .inl rfl⟩

/-- A device that is dropped leaves its runs where they are; they end at their next turn. -/
theorem destroy (h : Host) (id : DeviceId) : Rests fed h (h.destroy id) where
  nextId_le := Nat.le_refl _
  kind := rfl
  device j e there := by
    rw [device?_destroy] at there
    rcases Core.eq_of_update there with ⟨-, gone⟩ | ⟨-, kept⟩
    · exact absurd gone (by simp)
    · exact .inl ⟨e, kept, .refl e⟩
  run x mem := .inl ⟨x, mem, rfl, .inl rfl⟩

/-- A run that starts is a new one, and stands at its first stage. -/
theorem startRun (h : Host) (id : DeviceId) (label : Option String) :
    Rests fed h (h.startRun id label) := by
  rw [Host.startRun]
  split
  · next d found =>
    split
    · exact .refl h
    · next first =>
      refine ⟨Nat.le_succ _, rfl, fun j e there => ?_, fun x mem => ?_⟩
      · have there : (h.setDevice id { d with started := true }).device? j = some e := there
        rw [device?_setDevice found] at there
        rcases Core.eq_of_update_some there with ⟨rfl, rfl⟩ | ⟨-, kept⟩
        · exact .inl ⟨d, found, rfl, fun _ => rfl⟩
        · exact .inl ⟨e, kept, .refl e⟩
      · rcases Table.mem_entries_set mem with mem | rfl
        · exact .inl ⟨x, mem, rfl, .inl rfl⟩
        · exact .inr ⟨label, id, .inl rfl, .inr ⟨d, found, Bool.eq_false_iff.2 first⟩⟩
  · exact .refl h

/-- Any number of devices may be dropped. -/
theorem destroyAll (h : Host) (es : List (String × DeviceId)) :
    Rests fed h (es.foldl (fun h e => h.destroy e.2) h) := by
  induction es generalizing h with
  | nil => exact .refl h
  | cons e es ih => exact (destroy h e.2).trans (ih _)

/-! ## Commands -/

/-- The manager creates a device, and runs its discovery. -/
theorem deviceAdded (h : Host) (path : String) : Rests fed h (h.deviceAdded path) := by
  rw [Host.deviceAdded]
  split
  · next m managed =>
    split
    · exact .refl h
    · refine (create h path h.generation m.timeouts).trans (.trans ?_ (startRun _ _ none))
      exact .of_same rfl rfl rfl rfl
  · exact .refl h

/-- The manager drops the device of a path. -/
theorem deviceRemoved (h : Host) (path : String) : Rests fed h (h.deviceRemoved path) := by
  rw [Host.deviceRemoved]
  split
  · split
    · exact (destroy h _).trans (.of_same rfl rfl rfl rfl)
    · exact .refl h
  · exact .refl h

/-- The manager takes up a number of devices. -/
theorem deviceAddedAll (h : Host) (paths : List String) :
    Rests fed h (paths.foldl Host.deviceAdded h) := by
  induction paths generalizing h with
  | nil => exact .refl h
  | cons path paths ih => exact (deviceAdded h path).trans (ih _)

/-- The manager drops its devices. -/
theorem shutdown (h : Host) : Rests fed h h.shutdown := by
  rw [Host.shutdown]
  split
  · exact (destroyAll h _).trans (.of_same rfl rfl rfl rfl)
  · exact .refl h

/-- A stub that is told other replies has found out nothing for anybody yet. -/
theorem changeStub (h : Host) (f : Stub → Stub) : Rests fed h (h.changeStub f) := by
  rw [Host.changeStub]
  split
  · next s there => exact .of_runs rfl rfl (by rw [there]; rfl) fun x mem => ⟨x, mem, rfl, .inl rfl⟩
  · exact .refl h
  · exact .refl h

/-- A feed of changed properties is filled or ended, which is allowed where feeds may be. -/
theorem onChanges (h : Host) (allowed : fed) (path : String)
    (f : Feed PropertyBatch → Feed PropertyBatch) : Rests fed h (h.onChanges path f) :=
  feed h allowed _ fun r => r.power

/-- A feed of power changes is filled or ended, likewise. -/
theorem onPower (h : Host) (allowed : fed) (path : String) (f : Feed Bool → Feed Bool) :
    Rests fed h (h.onPower path f) :=
  feed h allowed (fun r => r.changes) _

end Rests

end Host

/-- A command puts something into the feeds of runs, or ends them. -/
def Command.feeds : Command → Bool
  | .push .. | .power .. | .endChanges _ | .endPower _ => true
  | _ => false

/-- **A command leaves discovery where it is.** -/
theorem Host.Rests.obey {fed : Prop} (h : Host) {c : Command} (front : c.isBackstage = false)
    (allowed : c.feeds → fed) : Rests fed h (h.obey c) := by
  cases c with
  | request | get | profiles | subscribe | unsubscribe | dropWatcher | nothing | withDevice | unknown =>
    exact absurd front (by simp [Command.isBackstage])
  | hold | release | fail | unfail | setProperties | setPower => exact .changeStub h _
  | push path batch | endChanges path =>
    simp only [Host.obey]
    split
    · exact .onChanges h (allowed rfl) path _
    · exact .refl h
  | endPower path =>
    simp only [Host.obey]
    split
    · exact .onPower h (allowed rfl) path _
    · exact .refl h
  | power path on =>
    simp only [Host.obey]
    split
    · split
      · exact (Rests.changeStub h _).trans (.onPower _ (allowed rfl) path _)
      · exact .refl h
    · exact .refl h
  | drop handle =>
    simp only [Host.obey, Host.drop]
    split
    · exact (Rests.destroy h _).trans (.of_same rfl rfl rfl rfl)
    · exact .refl h
  | deviceAdded path =>
    simp only [Host.obey, deviceAddedAndHeard]
    split
    · exact .refl h
    · split
      · exact (Rests.deviceAdded h path).trans (.of_same rfl rfl rfl rfl)
      · exact .deviceAdded h path
  | deviceRemoved path => exact .deviceRemoved h path
  | shutdown => exact .shutdown h
  | dropManager => exact (Rests.shutdown h).trans (.of_same rfl rfl rfl rfl)

namespace Host.Rests

variable {fed : Prop} {h : Host}

/-! ## The monitor and signals -/

/-- The monitor has a device created or dropped. -/
theorem follow (h : Host) (m : Monitor) (branch : Monitor.Branch) : Rests fed h (h.follow m branch) := by
  rw [Host.follow]
  obtain ⟨m', request⟩ := m.take h.generation.deviceInterface branch
  have passed : Rests fed h { h with monitor := some m' } := .of_same rfl rfl rfl rfl
  cases request with
  | none => exact passed
  | some q =>
    cases q with
    | add path => exact passed.trans (.deviceAdded _ path)
    | remove path => exact passed.trans (.deviceRemoved _ path)

/-- To enumerate the objects of a peer uses up a reply and creates devices. -/
theorem startMonitor (h : Host) {p : Peer} (there : h.transport = .peer p) :
    Rests fed h (h.startMonitor p) := by
  have moved (q : Peer) (m : Option Monitor) :
      Rests fed h { h with transport := .peer q, monitor := m } :=
    .of_runs rfl rfl (by rw [there]; rfl) fun x mem => ⟨x, mem, rfl, .inl rfl⟩
  rw [Host.startMonitor]
  split
  · simp only
    split
    · next tree _ =>
      have asked : Rests fed h { h with transport := .peer p.managedObjects.1 } :=
        moved p.managedObjects.1 h.monitor
      exact (asked.trans (.deviceAddedAll _ (devicePaths h.generation tree))).trans (.of_same rfl rfl rfl rfl)
    · exact moved _ _
    · exact moved _ _
  · exact .of_same rfl rfl rfl rfl

/-- Each run whose adapter's power is read again stays at its place, with one more entry in its feed. -/
theorem mem_rereadAll (allowed : fed) {p : Peer} {follows? : Run → Option (Feed Bool)} {rs : List (RunId × Run)}
    {x : RunId × Run} (mem : x ∈ (rereadAll p follows? rs).2) :
    ∃ y ∈ rs, y.1 = x.1 ∧ y.2.SamePlace fed x.2 := by
  induction rs generalizing p with
  | nil => exact absurd mem (by simp [rereadAll])
  | cons e rs ih =>
    obtain ⟨id, r⟩ := e
    simp only [rereadAll] at mem
    split at mem
    · next f _ =>
      rcases List.mem_cons.1 mem with rfl | mem
      · exact ⟨(id, r), List.mem_cons_self, rfl, .inr ⟨allowed, r.changes, _, rfl⟩⟩
      · obtain ⟨y, mem, same⟩ := ih mem
        exact ⟨y, List.mem_cons_of_mem _ mem, same⟩
    · rcases List.mem_cons.1 mem with rfl | mem
      · exact ⟨(id, r), List.mem_cons_self, rfl, .inl rfl⟩
      · obtain ⟨y, mem, same⟩ := ih mem
        exact ⟨y, List.mem_cons_of_mem _ mem, same⟩

/-- What a signal says of an adapter's power is put into the feeds of its followers. -/
theorem announcePower (h : Host) (allowed : fed) {p : Peer} (there : h.transport = .peer p) (path : String)
    (entries : List (String × Bus.Value)) (invalidated : List String) :
    Rests fed h (h.announcePower p path entries invalidated) := by
  rw [Host.announcePower]
  split
  · next v _ =>
    cases v.flag? with
    | none => exact .refl h
    | some on => exact .onPower h allowed path _
  · split
    · exact .of_runs rfl rfl (by rw [there]; rfl) fun x mem => mem_rereadAll allowed mem
    · exact .refl h

/-- **A signal feeds the runs that follow**, and brings none of them on to another stage. -/
theorem receiveSignal (h : Host) (allowed : fed) (s : Signal) : Rests fed h (h.receiveSignal s) :=
  receiveSignal_induction s (.refl h) (fun _ _ => .onChanges h allowed _ _)
    (fun _ _ _ _ _ there held => held.trans (.announcePower _ allowed there _ _ _))
    fun _ _ _ held => held.trans (.of_same rfl rfl rfl rfl)

/-- The loss of the bus ends the feeds of all runs. -/
theorem loseBus (h : Host) (allowed : fed) : Rests fed h h.loseBus := by
  rw [Host.loseBus]
  split
  · next p there =>
    refine .of_runs rfl rfl (by rw [there]; rfl) fun x mem => ?_
    obtain ⟨y, old, rfl⟩ := List.mem_map.1 mem
    exact ⟨y, old, rfl, .inr ⟨allowed, _, _, rfl⟩⟩
  · exact .refl h
  · exact .refl h

end Host.Rests

/-! ## Moves -/

/-- A step puts something into the feeds of runs, or ends them. -/
def Step.feeds : Step → Bool
  | .command c => c.feeds
  | .signal _ | .closeBus => true
  | _ => false

namespace Bench

variable {law : Law} {b b' : Bench}

/-- Something comes into the feeds of runs in a move, or they end. -/
def Feeds (b : Bench) (m : Move) : Prop :=
  (b.command? m).any Command.feeds ∨ m.step?.any Step.feeds

instance (b : Bench) (m : Move) : Decidable (b.Feeds m) := inferInstanceAs (Decidable (_ ∨ _))

/-- A device that is created under a handle finds out nothing before its run has a turn. -/
theorem rests_newDevice (b : Bench) {fed : Prop} (handle path : String) (g : Generation) (t : Timeouts) :
    Host.Rests fed b.host (b.newDevice handle path g t).host := by
  change Host.Rests fed b.host ((b.host.handles.get? handle).elim _ (Host.destroy _))
  have placed (handles : Table String DeviceId) : Host.Rests fed b.host
      { (b.host.create (.fresh path g t)).1.receive handle (b.host.create (.fresh path g t)).2 with
        handles } :=
    (Host.Rests.create b.host path g t).trans (.of_same rfl rfl rfl rfl)
  cases b.host.handles.get? handle with
  | none => exact placed _
  | some old => exact (placed _).trans (.destroy _ old)

/-- **A step of a user finds out nothing for a device**; where runs may be fed, it may feed them. -/
theorem rests_doStep {fed : Prop} {s : Step} (front : s.isBackstage = false)
    (noCommand : ∀ c, s ≠ .command c) (allowed : s.feeds → fed) :
    Host.Rests fed b.host (b.doStep s).1.host := by
  have refused {α : Type} {found : Option α} {f : α → Bench × Step.Result}
      (each : ∀ a, found = some a → Host.Rests fed b.host (f a).1.host) :
      Host.Rests fed b.host (b.withSome found f).1.host := by
    cases found with
    | none => exact .refl _
    | some a => exact each a rfl
  cases s with
  | command c => exact absurd rfl (noCommand c)
  | newDevice handle path generation timeouts => exact b.rests_newDevice handle path _ timeouts
  | run device => exact refused fun id _ => .startRun b.host id _
  | stop device =>
    refine refused fun _ _ => .of_runs rfl rfl rfl fun x mem => ?_
    exact ⟨x, (List.mem_filter.1 mem).1, rfl, .inl rfl⟩
  | putObject path interfaces =>
    refine refused fun p there => .of_runs rfl rfl ?_ fun x mem => ⟨x, mem, rfl, .inl rfl⟩
    rw [transport_of_peer? there]
    rfl
  | signal s =>
    refine refused fun _ _ => ?_
    rw [Bench.receiveSignal]
    split
    · exact .refl _
    · exact .receiveSignal b.host (allowed rfl) s
  | monitor => exact refused fun p there => refused fun _ _ => .startMonitor b.host (transport_of_peer? there)
  | monitorStop => exact refused fun _ _ => .of_same rfl rfl rfl rfl
  | monitorResult =>
    refine refused fun m _ => ?_
    rw [Bench.monitorResult]
    split
    · exact .of_same rfl rfl rfl rfl
    · exact .refl _
    · exact .refl _
  | closeBus => exact refused fun _ _ => .loseBus b.host (allowed rfl)
  | _ => exact absurd front (by simp [Step.isBackstage])

/-- **Where no run is taken up discovery rests.** -/
theorem rests_make {m : Move} (reached : Reachable law b) (made : b.make m = some b')
    (still : b.pursued? m = none) : Host.Rests (b.Feeds m) b.host b'.host := by
  have runs : Core.Runs free b.host.core b'.host.core :=
    runs_make reached.pursuitsLast (fun _ _ _ => trivial) made
  have nextId_le : b.host.nextId ≤ b'.host.nextId :=
    runs.preserves
      (P := fun c => b.host.nextId ≤ c.nextId) (fun _ _ _ le step => Nat.le_trans le step.nextId_le)
      (Nat.le_refl _)
  cases plays_of_make made with
  | backstage same => exact .of_scene same nextId_le
  | command ds c given did =>
    have aside : Host.Rests (b.Feeds m) b.host (b.host.withAgenda ds) := .of_same rfl rfl rfl rfl
    cases front : c.isBackstage with
    | true =>
      refine .of_scene ?_ nextId_le
      rw [did]
      exact (b.host.withAgenda ds).scene_obey front
    | false =>
      rw [did]
      refine aside.trans (.obey _ front fun feeds => .inl ?_)
      rw [given]
      exact feeds
  | pursue ds run taken did => exact absurd (still.symm.trans taken) (by simp)
  | follow branch monitor turn next did =>
    rw [did]
    exact .follow b.host monitor branch
  | step s turn noCommand front did =>
    rw [did]
    exact rests_doStep front noCommand fun feeds => .inr (by rw [turn]; exact feeds)

end Bench

end Piconet
