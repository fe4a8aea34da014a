import Piconet.Proofs.DeliveryLedger

/-!
# Deliveries are heard

A ledger notes deliveries from the agenda. Here they are tied to what listeners see: a move notes a
delivery when it is a call of `Host.hear`, and whenever the listener is a watcher it has then recorded the
change among its sightings, with its kind and its UUID; no other move adds such a sighting
(`Bench.deliveries_are_heard`).

Most of what a host does is heard by nobody (`Host.Unheard`): no watcher goes, and no sighting of a change
comes. That an announcement names only watchers that are there (`Host.Attended`) holds in every run.
-/

namespace Piconet

/-- What a watcher recorded when it heard of a change: its name, the kind and the UUID. -/
def Sighting.hearing? : Sighting → Option (String × Registry.Notice.Kind × Option String)
  | .heard watcher kind uuid => some (watcher, kind, uuid)
  | .did .. => none

namespace Host

/-- The changes that watchers recorded since the last report, as they heard of them. -/
def hearings (h : Host) : List (String × Registry.Notice.Kind × Option String) :=
  h.sightings.filterMap Sighting.hearing?

/-- What a watcher records when it hears of a change. -/
def hearingOf (h : Host) (n : Registry.Notice) : Listener → List (String × Registry.Notice.Kind × Option String)
  | .watcher w => ((h.watcher? w).map fun x => (x.name, n.kind, n.profile?.map (·.uuid))).toList
  | .device _ => []

/-- One host comes from another without anybody hearing of a change, and no watcher goes. -/
structure Unheard (h h' : Host) : Prop where
  kept : ∀ w, (h.watcher? w).isSome → (h'.watcher? w).isSome
  silent : h'.hearings = h.hearings

namespace Unheard

variable {h h' h'' : Host}

theorem refl (h : Host) : h.Unheard h := ⟨fun _ there => there, rfl⟩

theorem trans (first : h.Unheard h') (second : h'.Unheard h'') : h.Unheard h'' :=
  ⟨fun w there => second.kept w (first.kept w there), second.silent.trans first.silent⟩

theorem of_same (watchers : h'.watchers = h.watchers) (sightings : h'.sightings = h.sightings) :
    h.Unheard h' where
  kept w there := by rwa [watcher?, watchers]
  silent := by rw [hearings, sightings, hearings]

end Unheard

variable (h : Host)

/-! ## What nobody hears -/

/-- The usability of a device is stored with it and published to its receivers, which are no watchers. -/
theorem unheard_setUsable (id : DeviceId) (usable : Bool) : h.Unheard (h.setUsable id usable) := by
  rw [setUsable]
  split
  · split
    · exact .refl h
    · exact .of_same rfl rfl
  · exact .refl h

/-- The registry announces a change by putting it on the agenda; nobody hears of it yet. -/
theorem unheard_request (q : Registry.Request) : h.Unheard (h.request q) := by
  rw [request]
  split <;> exact .of_same rfl rfl

/-- A device that is assessed may submit a profile, whose `Added` notification is then due. -/
theorem unheard_reassess (id : DeviceId) : h.Unheard (h.reassess id) := by
  rw [reassess]
  split
  · split
    · exact h.unheard_setUsable id _
    · split
      · rw [provision]
        split
        · refine .trans ?_ (unheard_request _ _)
          exact .of_same rfl rfl
        · refine .trans ?_ (unheard_request _ _)
          exact .of_same rfl rfl
      · exact .of_same rfl rfl
  · exact .refl h

/-- A device that takes a submitted profile as its own hears of nothing. -/
theorem unheard_adopt (id : DeviceId) (uuid : String) : h.Unheard (h.adopt id uuid) := by
  rw [adopt]
  split
  · exact .of_same rfl rfl
  · exact .refl h

/-- The usability of a device is settled after its submission. -/
theorem unheard_conclude (id : DeviceId) : h.Unheard (h.conclude id) := by
  rw [conclude]
  split
  · exact h.unheard_setUsable id _
  · exact .refl h

/-! ### Discovery -/

/-- The `Initialized` event goes to the receivers of the device's events. -/
theorem unheard_report (id : DeviceId) (success : Bool) : h.Unheard (h.report id success) := by
  rw [report]
  split
  · split
    · exact .refl h
    · exact .of_same rfl rfl
  · exact .refl h

/-- A discovery that failed is reported, and its device is assessed. -/
theorem unheard_abandon (run : RunId) (r : Run) : h.Unheard (h.abandon run r) := by
  rw [abandon, report_urge]
  refine .trans ?_ (unheard_report _ _ _)
  exact .of_same rfl rfl

/-- A first batch of properties changes the device and is published. -/
theorem unheard_edited (id : DeviceId) (d : Device) (b : PropertyBatch) : h.Unheard (h.edited id d b) := by
  rw [edited, emitAll_eq]
  exact .of_same rfl rfl

/-- After the first batch the run goes on, or is given up. -/
theorem unheard_fetched (run : RunId) (r : Run) (d : Device) (b : PropertyBatch) :
    h.Unheard (h.fetched run r d b) := by
  rcases h.fetched_eq run r d b with ⟨-, stage, entered⟩ | ⟨-, abandoned⟩
  · rw [entered]
    refine .trans ?_ (unheard_edited _ _ d b)
    exact .of_same rfl rfl
  · rw [abandoned]
    refine .trans (.trans ?_ (unheard_edited _ _ d b)) (unheard_report _ _ _)
    exact .of_same rfl rfl

/-- Whatever a stage of discovery has brought, no watcher hears of it. -/
theorem unheard_proceed (run : RunId) (r : Run) (d : Device) (stage : Stage) (a : stage.Yield) :
    h.Unheard (h.proceed run r d stage a) := by
  cases stage with
  | fetch => exact h.unheard_fetched run r d a
  | announce =>
    refine (h.unheard_report r.device true).trans ?_
    exact .of_same rfl rfl
  | acquire | bind | subscribe | bindAdapter | subscribePower | readPower => exact .of_same rfl rfl

/-- A stage waits, fails or has brought something. -/
theorem unheard_settleStage (run : RunId) (r : Run) (d : Device) (stage : Stage)
    (finding : Finding stage.Yield) : h.Unheard (h.settleStage run r d stage finding) := by
  cases finding with
  | waits => exact .of_same rfl rfl
  | failed => exact h.unheard_abandon run r
  | yields a => exact h.unheard_proceed run r d stage a

/-- A run makes the call of its stage. -/
theorem unheard_attempt (run : RunId) (r : Run) (d : Device) (stage : Stage) (progress : Progress) :
    h.Unheard (h.attempt run r d stage progress) := by
  have noted : h.Unheard (h.noteCall d.path stage progress) := by
    unfold noteCall
    split
    · exact .of_same rfl rfl
    · exact .refl h
  rw [attempt]
  split
  · exact noted.trans (unheard_settleStage _ run r d stage _)
  · refine .trans ?_ (unheard_settleStage _ run r d stage _)
    exact .of_same rfl rfl
  · exact h.unheard_abandon run r

/-- An update is merged into the device and published to its receivers. -/
theorem unheard_takeIn (id : DeviceId) (d : Device) (u : Update) : h.Unheard (h.takeIn id d u) := by
  cases u with
  | properties batch =>
    rw [takeIn, applyBatch_eq, emitAll_eq]
    exact .of_same rfl rfl
  | power on => exact .of_same rfl rfl

/-- A run that follows its device takes the next update of its feeds. -/
theorem unheard_followOn (run : RunId) (r : Run) (d : Device) : h.Unheard (h.followOn run r d) := by
  rw [followOn]
  split
  · refine .trans ?_ (unheard_takeIn _ _ d _)
    exact .of_same rfl rfl
  · split <;> exact .of_same rfl rfl

/-- **Discovery notifies no watcher**: what it finds out is published as events of the device. -/
theorem unheard_pursue (run : RunId) : h.Unheard (h.pursue run) := by
  rw [pursue]
  split
  · exact .refl h
  · next r _ =>
    split
    · exact .of_same rfl rfl
    · exact h.unheard_followOn run r _
    · exact .refl h
    · exact h.unheard_attempt run r _ _ _

/-! ### Commands -/

/-- A run of discovery is started and has its first turn later. -/
theorem unheard_startRun (id : DeviceId) (label : Option String) : h.Unheard (h.startRun id label) := by
  rw [startRun]
  split
  · split
    · exact .refl h
    · exact .of_same rfl rfl
  · exact .refl h

/-- The manager creates a device, which subscribes to the registry beside the watchers. -/
theorem unheard_deviceAdded (path : String) : h.Unheard (h.deviceAdded path) := by
  rw [deviceAdded]
  split
  · split
    · exact .refl h
    · refine .trans ?_ (unheard_startRun _ _ _)
      exact .of_same rfl rfl
  · exact .refl h

/-- The manager drops a device and with it the device's own subscription. -/
theorem unheard_deviceRemoved (path : String) : h.Unheard (h.deviceRemoved path) := by
  rw [deviceRemoved]
  split
  · split
    · exact .of_same rfl rfl
    · exact .refl h
  · exact .refl h

/-- The manager drops all of its devices. -/
theorem unheard_shutdown : h.Unheard h.shutdown := by
  have gone (g : Host) (es : List (String × DeviceId)) :
      g.Unheard (es.foldl (fun g e => g.destroy e.2) g) := by
    induction es generalizing g with
    | nil => exact .refl g
    | cons e es ih =>
      refine .trans ?_ (ih (g.destroy e.2))
      exact .of_same rfl rfl
  rw [shutdown]
  split
  · next m _ =>
    refine (gone h m.devices.entries).trans ?_
    exact .of_same rfl rfl
  · exact .refl h

/-- The stub is behind the host, and no watcher asks it. -/
theorem unheard_changeStub (f : Stub → Stub) : h.Unheard (h.changeStub f) := by
  rw [changeStub]
  split
  · exact .of_same rfl rfl
  · exact .refl h
  · exact .refl h

/-- The handle of a watcher is dropped; the watcher stays until nothing is due to it. -/
theorem unheard_dropWatcher (name : String) : h.Unheard (h.dropWatcher name) where
  kept w there := by
    rwa [watcher?, dropWatcher, Table.get?_mapValues, Option.isSome_map]
  silent := rfl

/-- **A command notifies nobody at once.** What it changes in the registry is put on the agenda. -/
theorem unheard_obey (c : Command) : h.Unheard (h.obey c) := by
  cases c with
  | request q => exact h.unheard_request q
  | subscribe name rules =>
    refine (h.unheard_dropWatcher name).trans ⟨fun w there => ?_, rfl⟩
    rw [watcher?, obey, subscribe, Table.get?_set]
    split
    · rfl
    · exact there
  | unsubscribe name =>
    simp only [obey, unsubscribe]
    split
    · exact .of_same rfl rfl
    · exact .refl h
  | dropWatcher name => exact h.unheard_dropWatcher name
  | hold | release | fail | unfail | setProperties | setPower => exact h.unheard_changeStub _
  | push | endChanges | endPower =>
    simp only [obey]
    split
    · exact .of_same rfl rfl
    · exact .refl h
  | power path on =>
    simp only [obey]
    split
    · split
      · refine (h.unheard_changeStub fun s =>
          { s with adapters := s.adapters.modify path fun _ => some on }).trans ?_
        exact .of_same rfl rfl
      · exact .refl h
    · exact .refl h
  | drop handle =>
    simp only [obey, drop]
    split
    · exact .of_same rfl rfl
    · exact .refl h
  | deviceAdded path =>
    simp only [obey, deviceAddedAndHeard]
    split
    · exact .refl h
    · split
      · refine (h.unheard_deviceAdded path).trans ?_
        exact .of_same rfl rfl
      · exact h.unheard_deviceAdded path
  | deviceRemoved path => exact h.unheard_deviceRemoved path
  | shutdown => exact h.unheard_shutdown
  | dropManager =>
    refine h.unheard_shutdown.trans ?_
    exact .of_same rfl rfl
  | get | profiles | withDevice | nothing | unknown => exact .refl h

/-! ### The bus -/

/-- A signal of the bus goes to the feeds of runs and to the monitor. -/
theorem unheard_receiveSignal (s : Signal) : h.Unheard (h.receiveSignal s) := by
  refine receiveSignal_induction (P := h.Unheard) s (.refl h) (fun _ _ => .of_same rfl rfl) ?_
    fun _ _ _ held => held.trans (.of_same rfl rfl)
  intro g p path entries invalidated _ held
  refine held.trans ?_
  rw [announcePower]
  split
  · next v _ => cases v.flag? <;> exact .of_same rfl rfl
  · split <;> exact .of_same rfl rfl

/-- The loss of the bus ends those feeds. -/
theorem unheard_loseBus : h.Unheard h.loseBus := by
  rw [loseBus]
  split
  · exact .of_same rfl rfl
  · exact .refl h
  · exact .refl h

/-- The monitor starts, and the manager takes up the devices of the enumeration. -/
theorem unheard_startMonitor (p : Peer) : h.Unheard (h.startMonitor p) := by
  have added (g : Host) (paths : List String) : g.Unheard (paths.foldl deviceAdded g) := by
    induction paths generalizing g with
    | nil => exact .refl g
    | cons path paths ih => exact (g.unheard_deviceAdded path).trans (ih _)
  rw [startMonitor]
  split
  · rcases p.managedObjects with ⟨p', tree | e | _⟩
    · let g : Host := { h with transport := .peer p' }
      have first : h.Unheard g := .of_same rfl rfl
      refine (first.trans (added g (devicePaths h.generation tree))).trans ?_
      exact .of_same rfl rfl
    · exact .of_same rfl rfl
    · exact .of_same rfl rfl
  · exact .of_same rfl rfl

/-- The monitor has a device created or dropped. -/
theorem unheard_follow (m : Monitor) (branch : Monitor.Branch) : h.Unheard (h.follow m branch) := by
  have heeded (g : Host) (q : Monitor.Request) : g.Unheard (g.heed q) := by
    cases q with
    | add path => exact g.unheard_deviceAdded path
    | remove path => exact g.unheard_deviceRemoved path
  rw [follow]
  rcases m.take h.generation.deviceInterface branch with ⟨m', _ | q⟩
  · exact .of_same rfl rfl
  · refine .trans ?_ (heeded { h with monitor := some m' } q)
    exact .of_same rfl rfl

/-! ## What a listener hears -/

/-- A rule of a watcher that applies puts its commands on the agenda, and has been heard before that. -/
theorem unheard_react (w : WatcherId) (n : Registry.Notice) (rule : Nat) : h.Unheard (h.react w n rule) := by
  rw [react]
  split
  · split
    · refine ⟨fun v there => ?_, rfl⟩
      rw [watcher?, urge, Table.get?_modify]
      split
      · next same => rwa [Option.isSome_map, ← same]
      · exact there
    · exact .of_same rfl rfl
  · exact .refl h

/-- The answer to a command is recorded, which is no notification. -/
theorem unheard_record (w : WatcherId) (a : Answer) : h.Unheard (h.record w a) := by
  rw [record]
  split
  · exact ⟨fun _ there => there, by simp [hearings, sight, Sighting.hearing?]⟩
  · exact .refl h

/-- **A listener that is called hears of the notice once**: for a watcher one more `Sighting.heard` is recorded,
for a device none, and no watcher is lost. -/
theorem hearings_hear (n : Registry.Notice) (l : Listener) :
    (∀ w, (h.watcher? w).isSome → ((h.hear n l).watcher? w).isSome) ∧
      (h.hear n l).hearings = h.hearings ++ h.hearingOf n l := by
  cases l with
  | device id =>
    simp only [hear, hearingOf, List.append_nil]
    split <;> exact ⟨fun _ there => there, rfl⟩
  | watcher w =>
    simp only [hear, hearingOf]
    split
    · next x found =>
      exact ⟨fun _ there => there, by simp [hearings, sight, urge, List.filterMap_append, Sighting.hearing?, found]⟩
    · next none => exact ⟨fun _ there => there, by simp [none]⟩

end Host

/-! ## What a step does that nobody hears -/

namespace Bench

/-- A session call concerns neither the watchers nor what they recorded. -/
theorem onlookers_sparedByCalls : SparedByCalls fun b => (b.host.watchers, b.host.sightings) where
  log _ _ _ := rfl
  peer _ _ := rfl
  scripts _ _ := rfl

variable {b c : Bench}

/-- What keeps the watchers and their records notifies nobody. -/
theorem unheard_of_spared (same : (c.host.watchers, c.host.sightings) = (b.host.watchers, b.host.sightings)) :
    b.host.Unheard c.host :=
  .of_same (Prod.mk.inj same).1 (Prod.mk.inj same).2

/-- An operation puts its device back. -/
theorem unheard_putDevice (b : Bench) (id : DeviceId) (after : Option Device) :
    b.host.Unheard (b.putDevice id after).host := by
  cases after <;> exact .of_same rfl rfl

/-- An operation ends and gives its result to its caller. -/
theorem unheard_finish (b : Bench) (name : String) (p : Pending) (r : SessionReply) :
    b.host.Unheard (b.finish name p r).1.host :=
  b.unheard_putDevice p.device (p.operation.finish r (b.host.device? p.device)).1

/-- An operation looks for its reply and its deadline. -/
theorem unheard_look (b : Bench) (name : String) (p : Pending) : b.host.Unheard (b.look name p).1.host := by
  rw [look]
  split
  · exact .refl _
  · split
    · exact b.unheard_finish name p _
    · split
      · exact b.unheard_finish name p _
      · exact .refl _

/-- An operation makes its session call. -/
theorem unheard_start (b : Bench) (name : String) (p : Pending) : b.host.Unheard (b.start name p).1.host := by
  rw [start]
  split
  · next d _ _ => exact b.unheard_putDevice p.device d
  · next d call started =>
    have put := b.unheard_putDevice p.device (some d)
    have called := unheard_of_spared (onlookers_sparedByCalls.call (b.putDevice p.device (some d)) d.path call)
    split
    · next c r hc =>
      rw [hc] at called
      exact (put.trans called).trans (c.unheard_finish name p _)
    · next c channel hc =>
      rw [hc] at called
      let q : Pending := { p with phase := .calling (c.clock + p.operation.limit d.timeouts) channel }
      exact (put.trans called).trans (unheard_look { c with operations := c.operations.set name q } name q)

/-- An operation is polled. -/
theorem unheard_poll (b : Bench) (name : String) (p : Pending) : b.host.Unheard (b.poll name p).1.host := by
  rw [poll]
  split
  · exact b.unheard_start name p
  · exact b.unheard_look name p

/-- The deadline of an operation comes. -/
theorem unheard_expire (b : Bench) (name : String) (p : Pending) : b.host.Unheard (b.expire name p).1.host := by
  have polled := b.unheard_poll name p
  rw [expire]
  split
  · next c outcome hc =>
    rw [hc] at polled
    exact polled
  · next c hc =>
    rw [hc] at polled
    split
    · next q _ =>
      split
      · next deadline _ _ =>
        exact polled.trans (unheard_look { c with clock := max c.clock deadline } name q)
      · exact polled
    · exact polled

/-- A session operation is created. -/
theorem unheard_operate (b : Bench) (id : DeviceId) (path : String) (operation : Operation) (name : String)
    (provision : Provision) (isLazy : Bool) (favors : Pending.Branch) :
    b.host.Unheard (b.operate id path operation name provision isLazy favors).1.host := by
  let p : Pending := { operation, device := id, favors }
  have begun (c : Bench) (same : c.host = b.host) :
      b.host.Unheard (if isLazy then ({ c with operations := c.operations.set name p }, .created)
        else progress (poll { c with operations := c.operations.set name p } name p)).1.host := by
    rw [← same]
    split
    · exact .refl _
    · rw [fst_progress]
      exact unheard_poll { c with operations := c.operations.set name p } name p
  cases provision with
  | usual => exact begun (b.setScript path none) rfl
  | reply r => exact begun (b.setScript path (some r)) rfl
  | hold => exact begun (b.holdScript path name) rfl

/-- A held reply to a session call comes in. -/
theorem unheard_reply (b : Bench) (name : String) (channel : ChannelId) (r : SessionReply) :
    b.host.Unheard (b.reply name channel r).1.host := by
  change b.host.Unheard ((b.give name channel r).pollIfThere name).1.host
  rw [pollIfThere]
  split
  · next p _ => exact unheard_poll (b.give name channel r) name p
  · exact .refl _

/-- A step that is refused notifies nobody, so it is enough that it does not where it is carried out. -/
theorem unheard_withSome {α : Type} {found : Option α} {f : α → Bench × Step.Result}
    (each : ∀ a, b.host.Unheard (f a).1.host) : b.host.Unheard (b.withSome found f).1.host := by
  cases found with
  | none => exact .refl _
  | some a => exact each a

/-- A signal also reaches those who watch an endpoint, and no watcher of the registry. -/
theorem unheard_receiveSignal (b : Bench) (s : Signal) : b.host.Unheard (b.receiveSignal s).host := by
  rw [receiveSignal]
  split
  · exact .refl _
  · exact b.host.unheard_receiveSignal s

/-- **Nobody hears of a change when a user does something**, though it may be announced from then on. -/
theorem unheard_doStep (b : Bench) (s : Step) : b.host.Unheard (b.doStep s).1.host := by
  cases s with
  | command x => exact b.host.unheard_obey x
  | newDevice handle path generation timeouts =>
    simp only [doStep, newDevice, onHost]
    cases b.host.handles.get? handle <;> exact .of_same rfl rfl
  | run device => exact unheard_withSome fun id => b.host.unheard_startRun id (some device)
  | operate device operation name provision isLazy favors =>
    exact unheard_withSome fun id => unheard_withSome fun d =>
      b.unheard_operate id d.path operation name provision isLazy favors
  | poll name =>
    exact unheard_withSome fun p => by
      rw [fst_progress]
      exact b.unheard_poll name p
  | reply name r => exact unheard_withSome fun channel => b.unheard_reply name channel r
  | expire name =>
    exact unheard_withSome fun p => by
      rw [fst_progress]
      exact b.unheard_expire name p
  | signal s => exact unheard_withSome fun _ => b.unheard_receiveSignal s
  | bindDevice | bindAdapter =>
    simp only [doStep, Bench.bind]
    split
    · exact .refl _
    · exact .refl _
    · split <;> exact .refl _
  | fetch name =>
    exact unheard_withSome fun p => unheard_withSome fun path => by
      rw [fst_ofReading, fetch]
      split <;> exact .of_same rfl rfl
  | connect | disconnect =>
    exact unheard_withSome fun p => unheard_withSome fun path => by
      rw [fst_ofReading]
      exact unheard_of_spared (onlookers_sparedByCalls.callEndpoint b p path _)
  | powered name =>
    exact unheard_withSome fun p => unheard_withSome fun a => by
      rw [fst_ofReading, powered]
      split <;> exact .of_same rfl rfl
  | monitor => exact unheard_withSome fun p => unheard_withSome fun _ => b.host.unheard_startMonitor p
  | monitorResult =>
    exact unheard_withSome fun m => by
      rw [monitorResult]
      split <;> exact .of_same rfl rfl
  | closeBus => exact unheard_withSome fun _ => b.host.unheard_loseBus
  | stop | listen | monitorStop | prepare => exact unheard_withSome fun _ => .of_same rfl rfl
  | putObject => exact unheard_withSome fun _ => .of_same rfl rfl
  | watch => exact unheard_withSome fun _ => unheard_withSome fun _ => .of_same rfl rfl
  | unlisten | cancel | unwatch => exact .of_same rfl rfl

/-! ## Moves -/

variable {m : Move} {L : Ledger}

/-- The change that a move has a listener hear of. -/
def hearing? (b : Bench) (m : Move) : Option (Registry.Notice × Listener) :=
  match b.announcing? m with
  | some (n, l :: _) => some (n, l)
  | _ => none

/-- What watchers record in a move that has a listener hear of a change. -/
def hearingsIn (b : Bench) (m : Move) : List (String × Registry.Notice.Kind × Option String) :=
  (b.hearing? m).elim [] fun x => b.host.hearingOf x.1 x.2

/-- A move has a listener hear of a change by the call of the listener, and by nothing else. -/
theorem hear_of_hearing? {n : Registry.Notice} {l : Listener} (made : b.make m = some c)
    (hears : b.hearing? m = some (n, l)) : ∃ ls ds, b.host.agenda = .announce n (l :: ls) :: ds ∧
      c.host = ((b.host.withAgenda ds).urge [.announce n ls]).hear n l := by
  rw [hearing?] at hears
  split at hears
  · next n' l' ls announcing =>
    obtain ⟨rfl, rfl⟩ := Prod.mk.inj (Option.some.inj hears)
    cases m with
    | act =>
      rw [announcing?] at announcing
      split at announcing
      · next ds next =>
        obtain ⟨rfl, rfl⟩ := Prod.mk.inj (Option.some.inj announcing)
        rw [make, next] at made
        obtain rfl := Option.some.inj made
        exact ⟨ls, _, next, rfl⟩
      · exact absurd announcing (by simp)
    | step | poll | follow | report => exact absurd announcing (by simp [announcing?])
  · exact absurd hears (by simp)

/-- In every other move nobody hears of a change. -/
theorem unheard_of_hearing? (made : b.make m = some c) (silent : b.hearing? m = none) (ongoing : m ≠ .report) :
    b.host.Unheard c.host := by
  cases m with
  | act =>
    rcases next : b.host.agenda with _ | ⟨duty, ds⟩
    · exact absurd made (by simp [make, next])
    · rw [make, next] at made
      obtain rfl := Option.some.inj made
      have taken : b.host.Unheard (b.host.withAgenda ds) := .of_same rfl rfl
      refine taken.trans ?_
      change (b.host.withAgenda ds).Unheard ((b.host.withAgenda ds).act duty)
      cases duty with
      | announce n ls =>
        cases ls with
        | nil => exact .refl _
        | cons l ls => exact absurd silent (by simp [hearing?, announcing?, next])
      | react w n rule => exact Host.unheard_react _ w n rule
      | perform w cs =>
        cases cs with
        | nil => exact .refl _
        | cons x xs =>
          refine .trans ?_ (Host.unheard_obey _ x)
          exact .of_same rfl rfl
      | record w a => exact Host.unheard_record _ w a
      | reassess id => exact Host.unheard_reassess _ id
      | adopt id uuid => exact Host.unheard_adopt _ id uuid
      | conclude id => exact Host.unheard_conclude _ id
      | pursue run => exact Host.unheard_pursue _ run
  | step s =>
    obtain ⟨-, made⟩ := Option.ite_none_right_eq_some.1 made
    obtain rfl := Option.some.inj made
    exact b.unheard_doStep s
  | poll run =>
    obtain ⟨-, made⟩ := Option.ite_none_right_eq_some.1 made
    obtain rfl := Option.some.inj made
    exact b.host.unheard_pursue run
  | follow branch =>
    obtain ⟨-, made⟩ := Option.ite_none_right_eq_some.1 made
    obtain ⟨monitor, -, rfl⟩ := Option.map_eq_some_iff.1 made
    exact b.host.unheard_follow monitor branch
  | report => exact absurd rfl ongoing

/-- **What watchers record in a move** is what they hear in it. -/
theorem hearings_of_make (made : b.make m = some c) (ongoing : m ≠ .report) :
    c.host.hearings = b.host.hearings ++ b.hearingsIn m := by
  cases hears : b.hearing? m with
  | none =>
    rw [(unheard_of_hearing? made hears ongoing).silent, hearingsIn, hears, Option.elim_none, List.append_nil]
  | some x =>
    obtain ⟨n, l⟩ := x
    obtain ⟨ls, ds, -, called⟩ := hear_of_hearing? made hears
    rw [called, (Host.hearings_hear _ n l).2, hearingsIn, hears]
    cases l <;> rfl

/-- No watcher goes in a move. -/
theorem isSome_watcher?_of_make (made : b.make m = some c) {w : WatcherId} (there : (b.host.watcher? w).isSome) :
    (c.host.watcher? w).isSome := by
  by_cases reports : m = .report
  · subst reports
    obtain ⟨-, made⟩ := Option.ite_none_right_eq_some.1 made
    obtain rfl := Option.some.inj made
    exact there
  · cases hears : b.hearing? m with
    | none => exact (unheard_of_hearing? made hears reports).kept w there
    | some x =>
      obtain ⟨ls, ds, -, called⟩ := hear_of_hearing? made hears
      rw [called]
      exact (Host.hearings_hear _ x.1 x.2).1 w there

end Bench

/-! ## Announcements name watchers that are there -/

/-- Watchers that are yet to hear of a change are there. -/
def Host.Attended (h : Host) : Prop :=
  ∀ a ∈ h.core.announcements, ∀ w, .watcher w ∈ a.2 → (h.watcher? w).isSome

namespace Bench

variable {b c : Bench} {m : Move} {L : Ledger}

/-- The state in which a request reaches the registry has the watchers of the state before it. -/
theorem watchers_of_request? {put : Host × Registry.Request} (asked : b.request? m = some put) :
    put.1.watchers = b.host.watchers := by
  cases m with
  | act =>
    rw [request?] at asked
    split at asked
    · obtain rfl := Option.some.inj asked
      rfl
    · exact absurd asked (by simp)
  | step s =>
    cases s with
    | command x =>
      cases x with
      | request q =>
        obtain rfl := Option.some.inj asked
        rfl
      | _ => exact absurd asked (by simp [request?])
    | _ => exact absurd asked (by simp [request?])
  | poll | follow | report => exact absurd asked (by simp [request?])

/-- A device that submits notes its attempt with its record. -/
theorem watchers_submitting (h : Host) (id : DeviceId) (d : Device) (p : Profile) :
    (h.submitting id d p).watchers = h.watchers := by
  rw [Host.submitting]
  split <;> rfl

/-- A request is put to the registry among the watchers that are there. -/
theorem watchers_of_put? {put : Host × Registry.Request} (puts : b.put? m = some put) :
    put.1.watchers = b.host.watchers := by
  unfold put? at puts
  split at puts
  · obtain ⟨due, -, rfl⟩ := Option.map_eq_some_iff.1 puts
    exact watchers_submitting _ _ _ _
  · exact watchers_of_request? puts

/-- Whoever is told of a change is there when it is made. -/
theorem isSome_watcher?_of_living {h : Host} {w : WatcherId}
    (told : .watcher w ∈ h.living.map (·.listener)) : (h.watcher? w).isSome := by
  obtain ⟨s, living, same⟩ := List.mem_map.1 told
  have lives := (List.mem_filter.1 living).2
  rw [same] at lives
  exact Option.isSome_of_any lives

/-- To subscribe adds a watcher under a new number and a listener of that number; whatever else is made loses no
watcher whose listener is still subscribed or still to be notified. -/
theorem attended_of_make (attended : b.host.Attended) (informs : b.Informs m c) (made : b.make m = some c) :
    c.host.Attended := by
  have kept {w : WatcherId} (there : (b.host.watcher? w).isSome) := isSome_watcher?_of_make made there
  intro a mem w listens
  cases informs with
  | hears n l ls rest next before after =>
    refine kept ?_
    rw [after] at mem
    rcases List.mem_cons.1 mem with rfl | mem
    · exact attended (n, l :: ls) (before ▸ List.mem_cons_self) w (List.mem_cons_of_mem _ listens)
    · exact attended a (before ▸ List.mem_cons_of_mem _ mem) w listens
  | closes n rest next before after =>
    refine kept (attended a ?_ w listens)
    rw [before]
    exact List.mem_cons_of_mem _ (after ▸ mem)
  | changes h n next change fewer after =>
    refine kept ?_
    rw [after] at mem
    rcases List.mem_cons.1 mem with rfl | mem
    · obtain ⟨put, puts, noted⟩ := Option.bind_eq_some_iff.1 change
      obtain ⟨_, -, same⟩ := Option.map_eq_some_iff.1 noted
      obtain ⟨rfl, -⟩ := Prod.mk.inj same
      rw [Host.watcher?, ← watchers_of_put? puts]
      exact isSome_watcher?_of_living listens
    · exact attended a mem w listens
  | aside next none hushed => exact kept (attended a (hushed.announcements ▸ mem) w listens)

/-- **In every run each watcher that is subscribed or still to be notified is there.** -/
theorem Reachable.attended {law : Law} (reached : Reachable law b) : b.host.Attended := by
  obtain ⟨g, t, isLoaded, manager, naming, run⟩ := reached
  induction run with
  | refl => exact fun a mem => absurd mem List.not_mem_nil
  | @move c d m run lawful made ih =>
    have reached : Reachable law c := ⟨g, t, isLoaded, manager, naming, run⟩
    exact attended_of_make ih (informs_of_make reached made) made

/-- **A delivery that is noted is a call of its listener**, and what watchers record in a move are these
deliveries. A move notes one delivery at most; the listener then hears of the change that is being
announced, and if it is a watcher it is there and records the kind and the UUID of the change. -/
theorem deliveries_are_heard (logged : b.Logged L) (made : b.make m = some c) (ongoing : m ≠ .report) :
    ∃ new, (L.note b m).deliveries = L.deliveries ++ new ∧ new.length ≤ 1 ∧
      c.host.hearings = b.host.hearings ++ new.flatMap (fun x => b.host.hearingOf x.notice x.listener) ∧
      ∀ x ∈ new, (∃ ls ds, b.host.agenda = .announce x.notice (x.listener :: ls) :: ds ∧
          c.host = ((b.host.withAgenda ds).urge [.announce x.notice ls]).hear x.notice x.listener) ∧
        ∀ w, x.listener = .watcher w → (b.host.watcher? w).isSome := by
  obtain ⟨reached, tallies⟩ := logged.tallies
  have recorded := hearings_of_make made ongoing
  cases informs_of_make reached made with
  | hears n l ls rest next before after =>
    have hears : b.hearing? m = some (n, l) := by rw [hearing?, next]
    obtain ⟨k, ks, turn, -⟩ := tallies.turn before
    refine ⟨[⟨k, n, l⟩], ?_, Nat.le_refl _, ?_, fun x mem => ?_⟩
    · simp only [Ledger.note, next, Ledger.deliver, turn]
    · rw [recorded, hearingsIn, hears]
      simp
    · obtain rfl := List.mem_singleton.1 mem
      refine ⟨hear_of_hearing? made hears, ?_⟩
      rintro w rfl
      exact reached.attended (n, .watcher w :: ls) (before ▸ List.mem_cons_self) w List.mem_cons_self
  | closes n rest next =>
    have silent : b.hearing? m = none := by rw [hearing?, next]
    refine ⟨[], by simp only [Ledger.note, next, Ledger.close, List.append_nil], Nat.zero_le _, ?_, by simp⟩
    rw [recorded, hearingsIn, silent]
    rfl
  | changes h n next change =>
    have silent : b.hearing? m = none := by rw [hearing?, next]
    refine ⟨[], by rw [Ledger.note_of_change next change, Ledger.record, List.append_nil], Nat.zero_le _, ?_, by simp⟩
    rw [recorded, hearingsIn, silent]
    rfl
  | aside next unmade =>
    have silent : b.hearing? m = none := by rw [hearing?, next]
    refine ⟨[], by rw [Ledger.note_of_none next unmade, List.append_nil], Nat.zero_le _, ?_, by simp⟩
    rw [recorded, hearingsIn, silent]
    rfl

end Bench

end Piconet
