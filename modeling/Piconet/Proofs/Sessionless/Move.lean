import Piconet.Proofs.Run
import Piconet.Proofs.Sessionless.Discovery

/-!
# Moves without sessions

Everything that a user of the bench does but to open and close sessions, and everything that goes on by
itself, is done in lockstep on a bench and on what is left of it without sessions (`Bench.sessionless`).
The peer may be told replies to session calls in the meantime; these are erased as well.
-/

namespace Piconet

namespace Host

variable (h : Host)

/-- To erase sessions twice is to erase them once. -/
theorem sessionless_sessionless : h.sessionless.sessionless = h.sessionless := by
  have transport : h.transport.sessionless.sessionless = h.transport.sessionless := by
    cases h.transport with
    | peer p => simp only [Transport.sessionless, Peer.sessionless, List.filter_filter, Bool.and_self]
    | stub | unreachable => rfl
  have answer (a : Answer) : a.sessionless.sessionless = a.sessionless := by
    cases a with
    | device view => cases view <;> rfl
    | _ => rfl
  have duties : (h.agenda.map Duty.sessionless).map Duty.sessionless = h.agenda.map Duty.sessionless := by
    rw [List.map_map]
    refine List.map_congr_left fun duty _ => ?_
    cases duty with
    | record w a => exact congrArg (Duty.record w) (answer a)
    | _ => rfl
  have sightings : (h.sightings.map Sighting.sessionless).map Sighting.sessionless =
      h.sightings.map Sighting.sessionless := by
    rw [List.map_map]
    refine List.map_congr_left fun s _ => ?_
    cases s with
    | did watcher a => exact congrArg (Sighting.did watcher) (answer a)
    | heard => rfl
  have devices : (h.devices.mapValues Device.sessionless).mapValues Device.sessionless =
      h.devices.mapValues Device.sessionless := Table.mapValues_mapValues ..
  simp only [sessionless, transport, duties, sightings, devices, List.filter_filter, Bool.and_self]

/-! ## The monitor -/

/-- The manager does what its monitor asks for. -/
theorem heed_sessionless (q : Monitor.Request) : h.sessionless.heed q = (h.heed q).sessionless := by
  cases q with
  | add path => exact h.deviceAdded_sessionless path
  | remove path => exact h.deviceRemoved_sessionless path

/-- **The monitor** takes a signal and has the manager create or drop a device, whatever sessions there are. -/
theorem follow_sessionless (m : Monitor) (branch : Monitor.Branch) :
    h.sessionless.follow m branch = (h.follow m branch).sessionless := by
  rw [follow, follow, show h.sessionless.generation = h.generation from rfl]
  rcases m.take h.generation.deviceInterface branch with ⟨m', _ | q⟩
  · rfl
  · exact heed_sessionless { h with monitor := some m' } q

/-- The devices that are there when the monitor starts are taken up one after the other. -/
theorem deviceAddedAll_sessionless (paths : List String) :
    paths.foldl deviceAdded h.sessionless = (paths.foldl deviceAdded h).sessionless := by
  induction paths generalizing h with
  | nil => rfl
  | cons path paths ih => rw [List.foldl_cons, List.foldl_cons, deviceAdded_sessionless, ih]

/-- The monitor enumerates the objects of the peer. -/
theorem startMonitor_sessionless (p : Peer) :
    h.sessionless.startMonitor p.sessionless = (h.startMonitor p).sessionless := by
  rw [startMonitor, startMonitor, Peer.managedObjects_sessionless,
    show h.sessionless.generation = h.generation from rfl]
  split
  · rcases p.managedObjects with ⟨p', tree | _ | _⟩
    · exact congrArg (fun g : Host => { g with monitor := some { stage := .following } })
        (deviceAddedAll_sessionless { h with transport := .peer p' } (devicePaths h.generation tree))
    · rfl
    · rfl
  · rfl

/-! ## Signals -/

/-- The peer is there or not, without regard to sessions. -/
theorem peer?_sessionless : h.sessionless.peer? = h.peer?.map Peer.sessionless := by
  rw [peer?, peer?, show h.sessionless.transport = h.transport.sessionless from rfl]
  cases h.transport with
  | peer p =>
    cases connected : p.connected <;>
      simp [Transport.sessionless, Peer.connected_sessionless, connected]
  | stub | unreachable => rfl

/-- To read the power of an adapter again makes no session call. -/
theorem rereadPower_sessionless (p : Peer) (f : Feed Bool) :
    rereadPower p.sessionless f = (rereadPower p f).map Peer.sessionless id := by
  rw [rereadPower, rereadPower, Peer.get_sessionless]
  rcases p.get f.source AdapterView.interface AdapterView.powerProperty with ⟨p', _ | _ | _⟩ <;> rfl

/-- So all followers of an adapter read the same. -/
theorem rereadAll_sessionless (p : Peer) (follows? : Run → Option (Feed Bool))
    (rs : List (RunId × Run)) :
    rereadAll p.sessionless follows? rs = (rereadAll p follows? rs).map Peer.sessionless id := by
  induction rs generalizing p with
  | nil => rfl
  | cons x rs ih =>
    obtain ⟨id, r⟩ := x
    rw [rereadAll, rereadAll]
    cases follows? r with
    | none => simp only [ih, Prod.map_fst, Prod.map_snd, id_eq, Prod.map_apply]
    | some f =>
      simp only [rereadPower_sessionless, ih, Prod.map_fst, Prod.map_snd, id_eq, Prod.map_apply]

/-- A run follows an adapter as long as its device is there. -/
theorem follows?_sessionless (path : String) : h.sessionless.follows? path = h.follows? path := by
  funext r
  rw [follows?, follows?, contains_devices_sessionless]

/-- What a signal says of the power of an adapter reaches its followers. -/
theorem announcePower_sessionless (p : Peer) (path : String) (entries : List (String × Bus.Value))
    (invalidated : List String) : h.sessionless.announcePower p.sessionless path entries invalidated =
      (h.announcePower p path entries invalidated).sessionless := by
  rw [announcePower, announcePower]
  cases entries.lookup AdapterView.powerProperty with
  | some v =>
    simp only
    cases v.flag? <;> rfl
  | none =>
    simp only [follows?_sessionless, show h.sessionless.runs = h.runs from rfl, rereadAll_sessionless]
    split <;> rfl

/-- **A signal** reaches the feeds of runs and the monitor, and no session. -/
theorem receiveSignal_sessionless (s : Signal) :
    h.sessionless.receiveSignal s = (h.receiveSignal s).sessionless := by
  rw [receiveSignal, receiveSignal, peer?_sessionless]
  cases h.peer? with
  | none => rfl
  | some p =>
    simp only [Option.map_some, show h.sessionless.generation = h.generation from rfl]
    cases s with
    | changed path interface entries invalidated =>
      simp only
      split
      · split
        · exact announcePower_sessionless (h.onChanges _ _) p path entries invalidated
        · exact h.announcePower_sessionless p path entries invalidated
      · split <;> rfl
    | property path name value =>
      simp only
      split <;> rfl
    | added | removed | malformed => rfl

/-- The connection to the bus is lost, for discovery and the monitor alike. -/
theorem loseBus_sessionless : h.sessionless.loseBus = h.loseBus.sessionless := by
  rw [loseBus, loseBus, show h.sessionless.transport = h.transport.sessionless from rfl]
  cases h.transport <;> rfl

/-! ## Whose turn it is -/

/-- Nobody is being notified in one if and only if nobody is in the other. -/
theorem isQuiet_sessionless : h.sessionless.core.isQuiet = h.core.isQuiet := by
  change (h.agenda.map Duty.sessionless).all Duty.isPursuit = h.agenda.all Duty.isPursuit
  rw [List.all_map]
  exact congrArg h.agenda.all (funext Duty.isPursuit_sessionless)

/-- A call of a user can come in on both or on none. -/
theorem isOpen_sessionless : h.sessionless.core.isOpen = h.core.isOpen := by
  have turn : h.sessionless.core.agenda.head?.any Duty.isWatch = h.core.agenda.head?.any Duty.isWatch := by
    change (h.agenda.map Duty.sessionless).head?.any Duty.isWatch = h.agenda.head?.any Duty.isWatch
    rw [List.head?_map, Option.any_map]
    exact congrArg h.agenda.head?.any (funext Duty.isWatch_sessionless)
  rw [Core.isOpen, Core.isOpen, isQuiet_sessionless, turn]

end Host

/-! ## The bench -/

/-- A step that has to do with the session of a device or of an endpoint: an operation is created,
polled, answered, waited for or dropped, or a session call is made on the bus. -/
def Step.isSession : Step → Bool
  | .operate .. | .poll _ | .reply .. | .expire _ | .cancel _ | .connect .. | .disconnect .. => true
  | _ => false

/-- A move is a session move when a user starts a session operation, goes on with one or answers it. -/
def Bench.Move.isSession : Bench.Move → Bool
  | .step s => s.isSession
  | .act | .poll _ | .follow _ | .report => false

namespace Bench

/-- What is left of a bench when sessions are erased from it: there are no operations, nor anything that
they wait for. -/
def sessionless (b : Bench) : Bench where
  host := b.host.sessionless
  endpoints := b.endpoints
  watches := b.watches

variable (b : Bench)

/-- A bench without sessions stays as it is when they are erased again. -/
theorem sessionless_sessionless : b.sessionless.sessionless = b.sessionless :=
  congrArg (fun h : Host => ({ host := h, endpoints := b.endpoints, watches := b.watches } : Bench))
    b.host.sessionless_sessionless

/-- What is done to the host in lockstep is done to the bench. -/
theorem onHost_sessionless {f g : Host → Host} (lockstep : g b.host.sessionless = (f b.host).sessionless) :
    b.sessionless.onHost g = (b.onHost f).sessionless :=
  congrArg (fun h : Host => ({ host := h, endpoints := b.endpoints, watches := b.watches } : Bench)) lockstep

/-- Without its replies to session calls the peer of a bench is the peer without them. -/
theorem peer?_sessionless : b.sessionless.peer? = b.peer?.map Peer.sessionless := by
  rw [peer?, peer?, show b.sessionless.host.transport = b.host.transport.sessionless from rfl]
  cases b.host.transport <;> rfl

/-- Whoever makes a call on the bus hands back a peer whose session replies are erased. -/
theorem setPeer_sessionless (p : Peer) : b.sessionless.setPeer p.sessionless = (b.setPeer p).sessionless :=
  rfl

/-- A new device comes up under a handle, and the old one goes. -/
theorem newDevice_sessionless (handle path : String) (g : Generation) (t : Timeouts) :
    b.sessionless.newDevice handle path g t = (b.newDevice handle path g t).sessionless := by
  refine b.onHost_sessionless ?_
  have created := b.host.create_sessionless (.fresh path g t)
  rw [show Device.sessionless (.fresh path g t) = .fresh path g t from rfl] at created
  simp only [created, show b.host.sessionless.handles = b.host.handles from rfl]
  cases b.host.handles.get? handle with
  | none => rfl
  | some old => exact Host.destroy_sessionless { (b.host.create _).1.receive handle _ with
      handles := _ } old

/-- An endpoint is bound by its path alone. -/
theorem bind_sessionless (name path : String) (endpoint : Endpoint) :
    (b.sessionless.bind name path endpoint).1 = (b.bind name path endpoint).1.sessionless := by
  rw [bind, bind, show b.sessionless.host.transport = b.host.transport.sessionless from rfl]
  cases b.host.transport with
  | peer p =>
    simp only [Transport.sessionless]
    split <;> rfl
  | stub | unreachable => rfl

/-- An endpoint reads the properties of its device without a session call. -/
theorem fetch_sessionless (p : Peer) (path : String) :
    (b.sessionless.fetch p.sessionless path).1 = (b.fetch p path).1.sessionless := by
  rw [fetch, fetch, Peer.fetch_sessionless,
    show b.sessionless.host.generation = b.host.generation from rfl]
  rcases p.fetch b.host.generation path with ⟨p', _ | _ | _⟩ <;> rfl

/-- An endpoint reads the power of an adapter without a session call. -/
theorem powered_sessionless (p : Peer) (name : String) (a : AdapterView) :
    (b.sessionless.powered p.sessionless name a).1 = (b.powered p name a).1.sessionless := by
  rw [powered, powered, AdapterView.load_sessionless]
  rcases a.load p with ⟨p', a' | _ | _⟩
  · simp only [Prod.map_apply, id_eq, AdapterView.current_sessionless]
    rfl
  · rfl
  · rfl

/-- A signal from the peer also reaches those who watch an endpoint. -/
theorem receiveSignal_sessionless (s : Signal) :
    b.sessionless.receiveSignal s = (b.receiveSignal s).sessionless := by
  rw [receiveSignal, receiveSignal, show b.sessionless.host = b.host.sessionless from rfl,
    Host.peer?_sessionless]
  cases b.host.peer? with
  | none => rfl
  | some p =>
    have heard := b.host.receiveSignal_sessionless s
    simp only [Option.map_some, onHost, sessionless, heard]
    rfl

/-- The watches of endpoints end with the connection to the bus. -/
theorem loseBus_sessionless : b.sessionless.loseBus = b.loseBus.sessionless := by
  have lost := b.host.loseBus_sessionless
  simp only [loseBus, onHost, sessionless, lost]

/-- The result of the monitor is taken, and the monitor is gone. -/
theorem monitorResult_sessionless (m : Monitor) :
    (b.sessionless.monitorResult m).1 = (b.monitorResult m).1.sessionless := by
  rw [monitorResult, monitorResult]
  cases m.stage <;> rfl

/-- What is done in lockstep comes to the same when sessions are erased afterwards. -/
theorem erased_of_lockstep {b c : Bench} (lockstep : c = b.sessionless) : c.sessionless = b.sessionless := by
  rw [lockstep, sessionless_sessionless]

/-- What is done in lockstep to whatever is found comes to the same. -/
theorem withSome_sessionless {α β : Type} {found : Option α} {found' : Option β}
    {f : α → Bench × Step.Result} {f' : β → Bench × Step.Result} (g : α → β) (same : found' = found.map g)
    (lockstep : ∀ a, (f' (g a)).1.sessionless = (f a).1.sessionless) :
    (b.sessionless.withSome found' f').1.sessionless = (b.withSome found f).1.sessionless := by
  subst same
  cases found with
  | none => exact b.sessionless_sessionless
  | some a => exact lockstep a

/-- Where the same is found as before, it does not even have to be changed. -/
theorem withSome_same_sessionless {α : Type} (found : Option α) {f f' : α → Bench × Step.Result}
    (lockstep : ∀ a, (f' a).1.sessionless = (f a).1.sessionless) :
    (b.sessionless.withSome found f').1.sessionless = (b.withSome found f).1.sessionless :=
  b.withSome_sessionless id (congrFun Option.map_id found).symm lockstep

/-- What is done to the peer. -/
theorem withPeer_sessionless {f f' : Peer → Bench × Step.Result}
    (lockstep : ∀ p, (f' p.sessionless).1.sessionless = (f p).1.sessionless) :
    (b.sessionless.withSome b.sessionless.peer? f').1.sessionless = (b.withSome b.peer? f).1.sessionless :=
  b.withSome_sessionless _ b.peer?_sessionless lockstep

/-- The peer may be told a reply to a session call as well, which is erased. -/
theorem prepare_sessionless (p : Peer) (told : List (String × Reply)) :
    ({ p.sessionless with replies := p.sessionless.replies ++ told } : Peer).sessionless =
      ({ p with replies := p.replies ++ told } : Peer).sessionless := by
  simp only [Peer.sessionless, List.filter_append, List.filter_filter, Bool.and_self]

/-- **A step is taken in lockstep**, unless it has to do with sessions. -/
theorem doStep_sessionless {s : Step} (other : s.isSession = false) :
    (b.sessionless.doStep s).1.sessionless = (b.doStep s).1.sessionless := by
  cases s with
  | operate | poll | reply | expire | cancel | connect | disconnect =>
    exact absurd other (by simp [Step.isSession])
  | command c =>
    exact erased_of_lockstep
      (b.onHost_sessionless (f := (·.obey c)) (g := (·.obey c)) (b.host.obey_sessionless c))
  | newDevice handle path g t => exact erased_of_lockstep (b.newDevice_sessionless handle path _ t)
  | run device =>
    exact b.withSome_same_sessionless (b.host.find? device) fun id => erased_of_lockstep
      (b.onHost_sessionless (f := (·.startRun id (some device))) (g := (·.startRun id (some device)))
        (b.host.startRun_sessionless id (some device)))
  | stop device =>
    exact b.withSome_same_sessionless (b.host.find? device) fun _ => erased_of_lockstep rfl
  | listen device receiver =>
    exact b.withSome_same_sessionless (b.host.find? device) fun _ => erased_of_lockstep rfl
  | unlisten | unwatch => exact erased_of_lockstep rfl
  | putObject path interfaces => exact b.withPeer_sessionless fun p => erased_of_lockstep rfl
  | prepare member reply =>
    refine b.withPeer_sessionless fun p => (b.sessionless.setPeer_sessionless _).symm.trans ?_
    rw [sessionless_sessionless, prepare_sessionless]
    exact b.setPeer_sessionless _
  | signal s => exact b.withPeer_sessionless fun _ => erased_of_lockstep (b.receiveSignal_sessionless s)
  | bindDevice name path => exact erased_of_lockstep (b.bind_sessionless name path _)
  | bindAdapter name path => exact erased_of_lockstep (b.bind_sessionless name path _)
  | fetch name =>
    refine b.withPeer_sessionless fun p => b.withSome_same_sessionless (b.devicePath? name) fun path => ?_
    rw [fst_ofReading, fst_ofReading]
    exact erased_of_lockstep (b.fetch_sessionless p path)
  | watch name =>
    exact b.withPeer_sessionless fun p =>
      b.withSome_same_sessionless (b.devicePath? name) fun path => erased_of_lockstep rfl
  | powered name =>
    refine b.withPeer_sessionless fun p => b.withSome_same_sessionless (b.adapter? name) fun a => ?_
    rw [fst_ofReading, fst_ofReading]
    exact erased_of_lockstep (b.powered_sessionless p name a)
  | monitor =>
    exact b.withPeer_sessionless fun p => b.withSome_same_sessionless b.host.manager fun _ =>
      erased_of_lockstep (b.onHost_sessionless (f := (·.startMonitor p))
        (g := (·.startMonitor p.sessionless)) (b.host.startMonitor_sessionless p))
  | monitorStop =>
    exact b.withSome_same_sessionless b.host.monitor fun m => erased_of_lockstep rfl
  | monitorResult =>
    exact b.withSome_same_sessionless b.host.monitor fun m =>
      erased_of_lockstep (b.monitorResult_sessionless m)
  | closeBus => exact b.withPeer_sessionless fun _ => erased_of_lockstep b.loseBus_sessionless

/-- **A move is made in lockstep**, unless it has to do with sessions. -/
theorem make_sessionless {m : Move} (other : m.isSession = false) :
    (b.sessionless.make m).map sessionless = (b.make m).map sessionless := by
  cases m with
  | act =>
    rw [make, make, show b.sessionless.host.agenda = b.host.agenda.map Duty.sessionless from rfl]
    cases b.host.agenda with
    | nil => rfl
    | cons duty ds =>
      exact congrArg some (erased_of_lockstep (b.onHost_sessionless (f := fun h => (h.withAgenda ds).act duty)
        (g := fun h => (h.withAgenda (ds.map Duty.sessionless)).act duty.sessionless)
        ((b.host.withAgenda ds).act_sessionless duty)))
  | step s =>
    rw [make, make, show b.sessionless.host.core.isOpen = b.host.core.isOpen from b.host.isOpen_sessionless]
    split
    · exact congrArg some (b.doStep_sessionless other)
    · rfl
  | poll run =>
    rw [make, make, show b.sessionless.host.core.isQuiet = b.host.core.isQuiet from b.host.isQuiet_sessionless]
    split
    · exact congrArg some (erased_of_lockstep (b.onHost_sessionless (f := (·.pursue run))
        (g := (·.pursue run)) (b.host.pursue_sessionless run)))
    · rfl
  | follow branch =>
    rw [make, make, show b.sessionless.host.core.isQuiet = b.host.core.isQuiet from b.host.isQuiet_sessionless,
      show b.sessionless.branch? branch = b.branch? branch from rfl]
    split
    · cases b.branch? branch with
      | none => rfl
      | some m =>
        exact congrArg some (erased_of_lockstep (b.onHost_sessionless (f := (·.follow m branch))
          (g := (·.follow m branch)) (b.host.follow_sessionless m branch)))
    · rfl
  | report =>
    rw [make, make, show b.sessionless.host.core.isQuiet = b.host.core.isQuiet from b.host.isQuiet_sessionless]
    split
    · exact congrArg some (erased_of_lockstep rfl)
    · rfl

end Bench

end Piconet
