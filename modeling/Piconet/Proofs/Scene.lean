import Piconet.Proofs.Operations
import Piconet.Proofs.Simulation.Move

/-!
# What happens outside the registry

`Host.core` is what devices and the registry see of a host. `Host.scene` is the other side: who keeps
which device, the manager and its monitor, the runs of discovery with their feeds, the transport, and
of a device what discovery has found out. Announcements, watchers and session operations go on
behind this scene (`Bench.Plays.backstage`): whatever they do, it looks as before. What is left are the
moves that a proof about the scene has to look into (`Bench.Plays`).
-/

namespace Piconet

open Function (update)

/-- A device without its profiles, what follows from them, and its session. -/
def Device.bare (d : Device) : Device :=
  { d with
    usable := false
    candidates := []
    provisioned := none
    attempted := false
    submitting := false
    session := .idle }

/-- A peer without the replies that it was told to give. -/
def Peer.bare (p : Peer) : Peer := { p with replies := [] }

/-- The remote side without the replies that the peer was told to give. -/
def Transport.bare : Transport → Transport
  | .peer p => .peer p.bare
  | .stub s => .stub s
  | .unreachable => .unreachable

/-- Whether calls are answered by a stub, by a peer or not at all. -/
inductive Transport.Kind where
  | peer
  | stub
  | unreachable
  deriving DecidableEq

/-- Whether there is a stub, a peer, or nothing to be reached. -/
def Transport.kind : Transport → Kind
  | peer _ => .peer
  | stub _ => .stub
  | unreachable => .unreachable

/-- Replies make no difference to the kind of a transport. -/
theorem Transport.kind_bare (t : Transport) : t.bare.kind = t.kind := by
  cases t <;> rfl

/-- Transports that differ in replies only are of one kind. -/
theorem Transport.kind_of_bare {t t' : Transport} (same : t.bare = t'.bare) : t.kind = t'.kind := by
  rw [← kind_bare, same, kind_bare]

/-- Nothing can be reached just when the kind says so. -/
theorem Transport.kind_eq_unreachable {t : Transport} : t.kind = .unreachable ↔ t = .unreachable := by
  cases t <;> simp [kind]

/-- What cannot be reached is told from all else without looking at replies. -/
theorem Transport.unreachable_of_bare {t t' : Transport} (same : t.bare = t'.bare) (gone : t = .unreachable) :
    t' = .unreachable := by
  exact kind_eq_unreachable.1 ((kind_of_bare same).symm.trans (kind_eq_unreachable.2 gone))

/-- What a host looks like apart from the registry and from sessions. -/
structure Scene where
  generation : Generation
  transport : Transport
  devices : DeviceId → Option Device
  handles : Table String DeviceId
  manager : Option Manager
  monitor : Option Monitor
  runs : Table RunId Run

/-- The scene of a host: what discovery, the monitor and the manager work on. -/
def Host.scene (h : Host) : Scene where
  generation := h.generation
  transport := h.transport.bare
  devices id := (h.device? id).map Device.bare
  handles := h.handles
  manager := h.manager
  monitor := h.monitor
  runs := h.runs

namespace Device

variable {d e : Device} {stored : List Profile} {n : Registry.Notice}

/-- To track a candidate is nothing that discovery finds out. -/
theorem bare_track (d : Device) (u : String) : (d.track u).bare = d.bare := by
  rw [track_eq]
  rfl

/-- A device that looks through the registry finds candidates, and nothing about itself. -/
theorem bare_survey (d : Device) (stored : List Profile) : (d.survey stored).bare = d.bare := by
  rw [survey_eq]
  rfl

/-- A notification of the registry changes the candidates of a device only. -/
theorem bare_hear (hears : d.hear stored n = some e) : e.bare = d.bare := by
  rw [hear_eq hears]
  rfl

/-- A session is nothing that discovery finds out. -/
theorem SameButSession.bare (same : d.SameButSession e) : e.bare = d.bare := by
  obtain ⟨s, rfl⟩ := same
  rfl

end Device

namespace Host

variable {h : Host} {id : DeviceId} {d e : Device}

/-! ## Duties behind the scene -/

/-- A record may be replaced by one in which discovery has found out the same. -/
theorem scene_setDevice (found : h.device? id = some d) (same : e.bare = d.bare) :
    (h.setDevice id e).scene = h.scene := by
  have devices : (fun j => ((h.setDevice id e).device? j).map Device.bare) =
      fun j => (h.device? j).map Device.bare := by
    funext j
    rw [device?_setDevice found, Function.update_apply]
    split
    · next here => rw [here, found, Option.map_some, Option.map_some, same]
    · rfl
  rw [scene, devices]
  rfl

/-- The registry handles a request off the scene. -/
theorem scene_request (h : Host) (q : Registry.Request) : (h.request q).scene = h.scene := by
  rw [request]
  rcases h.registry.handle q with ⟨r, _ | n⟩ <;> rfl

/-- A listener hears of a change off the scene. -/
theorem scene_hear (h : Host) (n : Registry.Notice) (l : Listener) : (h.hear n l).scene = h.scene := by
  cases l with
  | device id =>
    simp only [hear]
    split
    · next e heard =>
      obtain ⟨d, found, hears⟩ := Option.bind_eq_some_iff.1 heard
      exact scene_setDevice found (Device.bare_hear hears)
    · rfl
  | watcher w =>
    simp only [hear]
    split <;> rfl

/-- What follows from the rules of a watcher is put on the agenda, which is not on the scene. -/
theorem scene_react (h : Host) (w : WatcherId) (n : Registry.Notice) (rule : Nat) :
    (h.react w n rule).scene = h.scene := by
  rw [react]
  split
  · split <;> rfl
  · rfl

/-- What a watcher records of its own is off the scene. -/
theorem scene_record (h : Host) (w : WatcherId) (a : Answer) : (h.record w a).scene = h.scene := by
  rw [record]
  split <;> rfl

/-- Usability is stored with a device and published; discovery does not ask for it. -/
theorem scene_setUsable (h : Host) (id : DeviceId) (usable : Bool) :
    (h.setUsable id usable).scene = h.scene := by
  rw [setUsable]
  split
  · next d found =>
    split
    · rfl
    · exact scene_setDevice found rfl
  · rfl

/-- A submission notes the attempt with the device and puts a request to the registry. -/
theorem scene_provision (found : h.device? id = some d) (name : String) :
    (h.provision id d name).scene = h.scene := by
  rw [provision]
  simp only
  split
  · exact (scene_request _ _).trans (scene_setDevice found rfl)
  · exact (scene_request _ _).trans (scene_setDevice found rfl)

/-- **To assess a device** settles its usability or makes it submit a profile, and both go on behind the scene.
-/
theorem scene_reassess (h : Host) (id : DeviceId) : (h.reassess id).scene = h.scene := by
  rw [reassess]
  split
  · next d found =>
    split
    · exact scene_setUsable h id _
    · split
      · exact scene_provision found _
      · rfl
  · rfl

/-- A device takes a submitted profile as its own off the scene. -/
theorem scene_adopt (h : Host) (id : DeviceId) (uuid : String) : (h.adopt id uuid).scene = h.scene := by
  rw [adopt]
  split
  · next d found => exact scene_setDevice found (d.bare_track uuid)
  · rfl

/-- To settle the usability of a device after its submission happens off the scene. -/
theorem scene_conclude (h : Host) (id : DeviceId) : (h.conclude id).scene = h.scene := by
  rw [conclude]
  split
  · exact scene_setUsable h id _
  · rfl

/-- **A duty goes on behind the scene**, unless a run is taken up or a watcher gives a command. -/
theorem scene_act (h : Host) {duty : Duty} (noRun : duty.isPursuit = false)
    (noCommand : ∀ w c cs, duty ≠ .perform w (c :: cs)) : (h.act duty).scene = h.scene := by
  cases duty with
  | announce n listeners =>
    cases listeners with
    | nil => rfl
    | cons l ls => exact scene_hear (h.urge [.announce n ls]) n l
  | react w n rule => exact h.scene_react w n rule
  | perform w cs =>
    cases cs with
    | nil => rfl
    | cons c cs => exact absurd rfl (noCommand w c cs)
  | record w a => exact h.scene_record w a
  | reassess id => exact h.scene_reassess id
  | adopt id uuid => exact h.scene_adopt id uuid
  | conclude id => exact h.scene_conclude id
  | pursue run => exact absurd noRun (by simp [Duty.isPursuit])

end Host

/-- A command is about the registry and those who listen to it. -/
def Command.isBackstage : Command → Bool
  | .request _ | .get _ | .profiles | .subscribe .. | .unsubscribe _ | .dropWatcher _ | .nothing
  | .withDevice _ | .unknown => true
  | _ => false

/-- A command about the registry and its watchers is carried out behind the scene. -/
theorem Host.scene_obey (h : Host) {c : Command} (backstage : c.isBackstage) :
    (h.obey c).scene = h.scene := by
  cases c with
  | request q => exact h.scene_request q
  | unsubscribe name =>
    simp only [obey, unsubscribe]
    split <;> rfl
  | get | profiles | subscribe | dropWatcher | nothing | withDevice | unknown => rfl
  | _ => exact absurd backstage (by simp [Command.isBackstage])

/-! ## Calls on the bus -/

namespace Peer

/-- A call takes at most a reply that the peer was told to give. -/
theorem bare_call {α : Type} (p : Peer) (member : String) (served : Reply) (read : Reply → Option α) :
    (p.call member served read).1.bare = p.bare := by
  have replied : (p.reply member served).1.bare = p.bare := by
    rw [reply]
    split <;> rfl
  rw [call]
  split
  · simp only
    split
    · exact replied
    · exact replied
    · split <;> exact replied
  · rfl

/-- To read the properties of a device uses up replies of the peer, and nothing else of it. -/
theorem bare_fetch (p : Peer) (g : Generation) (path : String) : (p.fetch g path).1.bare = p.bare := by
  cases g <;> exact p.bare_call _ _ _

/-- The first reading of an adapter uses up replies as well. -/
theorem bare_load (a : AdapterView) (p : Peer) : (a.load p).1.bare = p.bare := by
  have called := p.bare_call "GetAll" (p.serveAll a.path AdapterView.interface) readDict
  rw [AdapterView.load]
  split
  · rfl
  · split
    all_goals
      next q _ got =>
      rw [getAll] at got
      rwa [got] at called

/-- So does every later reading of an adapter's power. -/
theorem bare_current (a : AdapterView) (p : Peer) : (a.current p).1.bare = p.bare := by
  rw [AdapterView.current]
  split
  · rfl
  · split
    · rfl
    · have called := p.bare_call "Get"
        (p.serveOne a.path AdapterView.interface AdapterView.powerProperty) readVariant
      split
      all_goals
        next got =>
        rw [get] at got
        rwa [got] at called
  · rfl

/-- To find out the power of an adapter is a number of such readings. -/
theorem bare_findPower (p : Peer) (path : String) : (p.findPower path).1.bare = p.bare := by
  have loaded := bare_load { path } p
  rw [findPower]
  split
  · next q a got =>
    rw [got] at loaded
    have current := bare_current a q
    split
    all_goals
      next got =>
      rw [got] at current
      exact current.trans loaded
  · next got => rwa [got] at loaded
  · next got => rwa [got] at loaded

/-- Followers of an adapter that read its power on their own use up replies. -/
theorem bare_rereadAll (follows? : Run → Option (Feed Bool)) (rs : List (RunId × Run)) (p : Peer) :
    (Host.rereadAll p follows? rs).1.bare = p.bare := by
  have reread (p : Peer) (f : Feed Bool) : (Host.rereadPower p f).1.bare = p.bare := by
    have called := p.bare_call "Get"
      (p.serveOne f.source AdapterView.interface AdapterView.powerProperty) readVariant
    rw [Host.rereadPower]
    split
    all_goals
      next got =>
      rw [get] at got
      rwa [got] at called
  induction rs generalizing p with
  | nil => rfl
  | cons e rs ih =>
    simp only [Host.rereadAll]
    split
    · next f _ => exact (ih _).trans (reread p f)
    · exact ih p

/-- The call of any stage of discovery uses up replies at most. -/
theorem bare_attempt (p : Peer) (g : Generation) (path : String) (stage : Stage) :
    (p.attempt g path stage).1.bare = p.bare := by
  cases stage with
  | acquire | bind | subscribe | bindAdapter | subscribePower | announce => rfl
  | fetch =>
    have fetched := p.bare_fetch g path
    rw [attempt]
    split
    all_goals
      next got =>
      rwa [got] at fetched
  | readPower adapter => exact p.bare_findPower adapter

/-- A session call of the bus uses up a reply at most. -/
theorem bare_session (p : Peer) (call : EndpointCall) : (p.session call).1.bare = p.bare := by
  cases call with
  | connect r => exact p.bare_call _ _ _
  | disconnect r interface =>
    have called := p.bare_call "Disconnect" .empty fun _ => some ()
    rw [session]
    split
    all_goals
      next got =>
      rw [disconnect] at got
      rwa [got] at called

end Peer

namespace Bench

variable {b b' : Bench}

/-! ## Session operations -/

/-- Whoever makes a call hands back a peer that is the same but for its replies. -/
theorem scene_setPeer {p q : Peer} (there : b.host.transport = .peer p) (same : q.bare = p.bare) :
    (b.setPeer q).host.scene = b.host.scene := by
  have transport : (Transport.peer q).bare = b.host.transport.bare := by
    rw [there]
    exact congrArg Transport.peer same
  change { b.host.scene with transport := (Transport.peer q).bare } = b.host.scene
  rw [transport]
  rfl

/-- A session call on the bus is noted and uses up a reply. -/
theorem scene_callPeer {p : Peer} (there : b.host.transport = .peer p) (path : String)
    (call : EndpointCall) : (b.callPeer p path call).1.host.scene = b.host.scene := by
  have session := p.bare_session call
  rw [callPeer]
  split
  · rfl
  · next interface _ =>
    -- the call is noted first, while the peer can be reached
    let c := if p.connected then b.log (.bus call.member path interface call.arguments) else b
    have noted : c.host.scene = b.host.scene ∧ c.host.transport = .peer p := by
      simp only [c]
      split <;> exact ⟨rfl, there⟩
    simp only
    split
    all_goals
      next got =>
      rw [got] at session
      exact (scene_setPeer noted.2 session).trans noted.1

/-- A session call on a stub uses up a script; where there is no bus it waits forever. -/
theorem scene_call (b : Bench) (path : String) (call : EndpointCall) :
    (b.call path call).1.host.scene = b.host.scene := by
  rw [Bench.call]
  split
  · rw [takeScript]
    split <;> rfl
  · next p there => exact scene_callPeer there path call
  · rfl

/-- An operation puts back a device that differs from the one it found by its session. -/
theorem scene_putDevice {id : DeviceId} {after : Option Device}
    (marked : ∀ e, after = some e → ∃ d, b.host.device? id = some d ∧ d.SameButSession e) :
    (b.putDevice id after).host.scene = b.host.scene := by
  cases after with
  | none => rfl
  | some e =>
    obtain ⟨d, found, same⟩ := marked e rfl
    exact Host.scene_setDevice found same.bare

/-- An operation that ends clears its mark from the session of its device, and does no more. -/
theorem scene_finish (b : Bench) (name : String) (p : Pending) (r : SessionReply) :
    (b.finish name p r).1.host.scene = b.host.scene := by
  change (b.putDevice p.device
    (p.operation.finish r (b.host.device? p.device)).1).host.scene = b.host.scene
  exact scene_putDevice fun e after => Operation.finish_marks after

/-- To look for the reply or the deadline of an operation does no more than to end it. -/
theorem scene_look (b : Bench) (name : String) (p : Pending) :
    (b.look name p).1.host.scene = b.host.scene := by
  rcases look_cases b name p with ⟨r, ends⟩ | waits
  · rw [ends]
    exact scene_finish b name p r
  · rw [waits]

/-- An operation marks the session of its device and makes its call. -/
theorem scene_start (b : Bench) (name : String) (p : Pending) :
    (b.start name p).1.host.scene = b.host.scene := by
  cases started : p.operation.start (b.host.device? p.device) with
  | ended after outcome =>
    rw [Bench.start, started]
    exact scene_putDevice fun e same => Operation.start_marks (by rw [started]; exact same)
  | calling after call =>
    obtain ⟨c, q, -, -, -, host, -, ends⟩ := start_calling name started
    have called : c.host.scene = b.host.scene := by
      rw [host, scene_call]
      exact scene_putDevice fun e same => Operation.start_marks (by rw [started]; exact same)
    rcases ends with ⟨r, ends⟩ | looks
    · rw [ends, scene_finish, called]
    · rw [looks, scene_look, called]

/-- To poll an operation starts it or looks for its reply. -/
theorem scene_poll (b : Bench) (name : String) (p : Pending) :
    (b.poll name p).1.host.scene = b.host.scene := by
  rw [Bench.poll]
  split
  · exact scene_start b name p
  · exact scene_look b name p

/-- To let an operation expire lets time pass, which nobody on the scene measures. -/
theorem scene_expire (b : Bench) (name : String) (p : Pending) :
    (b.expire name p).1.host.scene = b.host.scene := by
  have polled := scene_poll b name p
  rw [Bench.expire]
  split
  · next got => rwa [got] at polled
  · next c got =>
    rw [got] at polled
    split
    · split
      · exact (scene_look _ _ _).trans polled
      · exact polled
    · exact polled

/-- **An operation** is created, and started unless it is lazy, behind the scene. -/
theorem scene_operate (b : Bench) (id : DeviceId) (path : String) (operation : Operation)
    (name : String) (provision : Provision) (isLazy : Bool) (favors : Pending.Branch) :
    (b.operate id path operation name provision isLazy favors).1.host.scene = b.host.scene := by
  let p : Pending := { operation, device := id, favors }
  have begun (c : Bench) (same : c.host = b.host) :
      (if isLazy then ({ c with operations := c.operations.set name p }, Step.Result.created)
        else progress (Bench.poll { c with operations := c.operations.set name p } name p)).1.host.scene
        = b.host.scene := by
    rw [← same]
    split
    · rfl
    · rw [fst_progress]
      exact scene_poll { c with operations := c.operations.set name p } name p
  cases provision <;> exact begun _ rfl

/-- A reply that was held is handed over to its operation. -/
theorem scene_reply (b : Bench) (name : String) (channel : ChannelId) (r : SessionReply) :
    (b.reply name channel r).1.host.scene = b.host.scene := by
  change ((b.give name channel r).pollIfThere name).1.host.scene = b.host.scene
  rw [pollIfThere]
  split
  · exact scene_poll (b.give name channel r) name _
  · rfl

/-! ## Endpoints -/

/-- An endpoint reads properties, which uses up replies. -/
theorem scene_fetch {p : Peer} (there : b.host.transport = .peer p) (path : String) :
    (b.fetch p path).1.host.scene = b.host.scene := by
  have fetched := p.bare_fetch b.host.generation path
  rw [Bench.fetch]
  split
  all_goals
    next got =>
    rw [got] at fetched
    exact scene_setPeer there fetched

/-- An endpoint opens and closes sessions of its own, with no device of the host. -/
theorem scene_callEndpoint {p : Peer} (there : b.host.transport = .peer p) (path : String)
    (call : EndpointCall) : (b.callEndpoint p path call).1.host.scene = b.host.scene := by
  have called := scene_callPeer there path call
  rw [callEndpoint]
  split
  all_goals
    next got =>
    rwa [got] at called

/-- An endpoint reads the power of an adapter. -/
theorem scene_powered {p : Peer} (there : b.host.transport = .peer p) (name : String)
    (a : AdapterView) : (b.powered p name a).1.host.scene = b.host.scene := by
  have loaded := Peer.bare_load a p
  rw [powered]
  split
  · next q view got =>
    rw [got] at loaded
    exact scene_setPeer there ((Peer.bare_current view q).trans loaded)
  · next got =>
    rw [got] at loaded
    exact scene_setPeer there loaded
  · next got =>
    rw [got] at loaded
    exact scene_setPeer there loaded

/-! ## Moves behind the scene -/

end Bench

/-- A step is about the registry, sessions or endpoints, and about whose events are kept. -/
def Step.isBackstage : Step → Bool
  | .command c => c.isBackstage
  | .listen .. | .unlisten _ | .operate .. | .poll _ | .reply .. | .expire _ | .cancel _ | .prepare ..
  | .bindDevice .. | .bindAdapter .. | .fetch _ | .watch _ | .unwatch _ | .connect .. | .disconnect ..
  | .powered _ => true
  | _ => false

namespace Bench

variable {b b' : Bench}

/-- There is a peer only where the transport is one. -/
theorem transport_of_peer? {p : Peer} (there : b.peer? = some p) : b.host.transport = .peer p := by
  rw [peer?] at there
  split at there
  · next q same => rw [same, Option.some.inj there]
  · exact absurd there (by simp)
  · exact absurd there (by simp)

/-- What is refused leaves the scene as it is. -/
theorem scene_withSome {α : Type} {found : Option α} {f : α → Bench × Step.Result}
    (each : ∀ a, found = some a → (f a).1.host.scene = b.host.scene) :
    (b.withSome found f).1.host.scene = b.host.scene := by
  cases found with
  | none => rfl
  | some a => exact each a rfl

/-- **A step behind the scene** leaves the scene as it is. -/
theorem scene_doStep {s : Step} (backstage : s.isBackstage) :
    (b.doStep s).1.host.scene = b.host.scene := by
  cases s with
  | command c => exact b.host.scene_obey backstage
  | listen device receiver => exact scene_withSome fun id _ => rfl
  | watch name => exact scene_withSome fun p _ => scene_withSome fun path _ => rfl
  | unlisten | cancel | unwatch => rfl
  | operate device operation name provision isLazy favors =>
    exact scene_withSome fun id _ => scene_withSome fun d _ =>
      scene_operate b id d.path operation name provision isLazy favors
  | poll name =>
    exact scene_withSome fun p _ => by
      rw [fst_progress]
      exact scene_poll b name p
  | reply name r => exact scene_withSome fun channel _ => scene_reply b name channel r
  | expire name =>
    exact scene_withSome fun p _ => by
      rw [fst_progress]
      exact scene_expire b name p
  | prepare member reply =>
    exact scene_withSome fun p there => scene_setPeer (transport_of_peer? there) rfl
  | bindDevice name path | bindAdapter name path =>
    simp only [doStep, Bench.bind]
    split
    · rfl
    · rfl
    · split <;> rfl
  | fetch name =>
    exact scene_withSome fun p there => scene_withSome fun path _ => by
      rw [fst_ofReading]
      exact scene_fetch (transport_of_peer? there) path
  | connect name role | disconnect name role interface =>
    exact scene_withSome fun p there => scene_withSome fun path _ => by
      rw [fst_ofReading]
      exact scene_callEndpoint (transport_of_peer? there) path _
  | powered name =>
    exact scene_withSome fun p there => scene_withSome fun a _ => by
      rw [fst_ofReading]
      exact scene_powered (transport_of_peer? there) name a
  | _ => exact absurd backstage (by simp [Step.isBackstage])

/-! ## Moves -/

/-- The step of a user that a move is. -/
def Move.step? : Move → Option Step
  | .step s => some s
  | .act | .poll _ | .follow _ | .report => none

/-- The command that a move carries out. -/
def command? (b : Bench) : Move → Option Command
  | .act =>
    match b.host.agenda with
    | .perform _ (c :: _) :: _ => some c
    | _ => none
  | .step (.command c) => some c
  | .step _ | .poll _ | .follow _ | .report => none

/-- A move that carries out a command does nothing else to the host. -/
theorem obey_of_make {m : Move} {c : Command} (made : b.make m = some b') (given : b.command? m = some c) :
    ∃ ds, b'.host = (b.host.withAgenda ds).obey c := by
  cases m with
  | act =>
    rw [command?] at given
    split at given
    · next w c' cs ds next =>
      obtain rfl := Option.some.inj given
      rw [make, next] at made
      obtain rfl := Option.some.inj made
      exact ⟨.record w ((b.host.withAgenda ds).answerTo c') :: .perform w cs :: ds, rfl⟩
    · exact absurd given (by simp)
  | step s =>
    obtain ⟨-, made⟩ := Option.ite_none_right_eq_some.1 made
    obtain rfl := Option.some.inj made
    cases s with
    | command c' =>
      obtain rfl := Option.some.inj given
      exact ⟨b.host.agenda, rfl⟩
    | _ => exact absurd given (by simp [command?])
  | poll | follow | report => exact absurd given (by simp [command?])

/-- What a move does to the scene. -/
inductive Plays (b : Bench) (m : Move) (b' : Bench) : Prop
  | backstage (same : b'.host.scene = b.host.scene)
  | command (ds : List Duty) (c : Command) (given : b.command? m = some c)
      (did : b'.host = (b.host.withAgenda ds).obey c)
  | pursue (ds : List Duty) (run : RunId) (taken : b.pursued? m = some run)
      (did : b'.host = (b.host.withAgenda ds).pursue run)
  | follow (branch : Monitor.Branch) (monitor : Monitor) (turn : m = .follow branch)
      (next : b.branch? branch = some monitor) (did : b'.host = b.host.follow monitor branch)
  | step (s : Step) (turn : m = .step s) (noCommand : ∀ c, s ≠ .command c)
      (front : s.isBackstage = false) (did : b' = (b.doStep s).1)

/-- **A move goes on behind the scene**, carries out a command, goes on with a run or the monitor, or
is one of the other steps of a user. -/
theorem plays_of_make {m : Move} (made : b.make m = some b') : b.Plays m b' := by
  cases m with
  | act =>
    rw [make] at made
    split at made
    · next duty ds next =>
      obtain rfl := Option.some.inj made
      cases duty with
      | pursue run => exact .pursue ds run (by rw [pursued?, next]) rfl
      | perform w cs =>
        cases cs with
        | nil => exact .backstage rfl
        | cons c cs =>
          exact .command (.record w ((b.host.withAgenda ds).answerTo c) :: .perform w cs :: ds) c
            (by rw [command?, next]) rfl
      | announce | react | record | reassess | adopt | conclude =>
        exact .backstage ((b.host.withAgenda ds).scene_act rfl (by simp))
    · exact absurd made (by simp)
  | step s =>
    obtain ⟨-, made⟩ := Option.ite_none_right_eq_some.1 made
    obtain rfl := Option.some.inj made
    by_cases given : ∃ c, s = .command c
    · obtain ⟨c, rfl⟩ := given
      exact .command b.host.agenda c rfl rfl
    · cases front : s.isBackstage with
      | true => exact .backstage (scene_doStep front)
      | false => exact .step s rfl (not_exists.1 given) front rfl
  | poll run =>
    obtain ⟨-, made⟩ := Option.ite_none_right_eq_some.1 made
    obtain rfl := Option.some.inj made
    exact .pursue b.host.agenda run rfl rfl
  | follow branch =>
    obtain ⟨-, made⟩ := Option.ite_none_right_eq_some.1 made
    obtain ⟨monitor, next, rfl⟩ := Option.map_eq_some_iff.1 made
    exact .follow branch monitor rfl next rfl
  | report =>
    obtain ⟨-, made⟩ := Option.ite_none_right_eq_some.1 made
    obtain rfl := Option.some.inj made
    exact .backstage rfl

end Bench

end Piconet
