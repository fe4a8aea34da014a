import Piconet.Bench.Report
import Piconet.Proofs.Device
import Piconet.Proofs.Simulation.Basic

/-!
# Hosts without sessions

What is left of a host when all that has to do with sessions is erased from it: the records of devices
show that no session was ever opened, calls that open and close sessions are not noted, and the peer was
told no replies to them (`Host.sessionless`). Everything that a host does but to open and close sessions
is done in lockstep with what is left of it: to do it and erase sessions afterwards is to do it where they
were erased before.
-/

namespace Piconet

/-! ## What is left -/

/-- The record of a device without its session: no role, no interface, nothing in flight. -/
def Device.sessionless (d : Device) : Device := { d with session := .idle }

/-- A call of the bus that opens or closes a session. -/
def isSessionMember (member : String) : Bool := member = "Connect" || member = "Disconnect"

/-- A call that opens or closes a session. -/
def Call.isSession : Call → Bool
  | .session .. => true
  | .bus member .. => isSessionMember member
  | .stub .. | .submission _ => false

/-- The peer without the replies that it was told to give to session calls. -/
def Peer.sessionless (p : Peer) : Peer :=
  { p with replies := p.replies.filter fun r => !isSessionMember r.1 }

/-- Only a peer answers session calls of the bus, so a stub has nothing to erase. -/
def Transport.sessionless : Transport → Transport
  | .peer p => .peer p.sessionless
  | .stub s => .stub s
  | .unreachable => .unreachable

/-- An answer that shows a device shows it without the role of its session. -/
def Answer.sessionless : Answer → Answer
  | .device view => .device (view.map fun v => { v with role := none })
  | a => a

/-- A watcher may still have to record an answer that shows a device. -/
def Duty.sessionless : Duty → Duty
  | .record w a => .record w a.sessionless
  | duty => duty

/-- What a watcher recorded on hearing of a change shows no session. -/
def Sighting.sessionless : Sighting → Sighting
  | .did watcher a => .did watcher a.sessionless
  | .heard watcher kind uuid => .heard watcher kind uuid

/-- What is left of a host when sessions are erased from it. -/
def Host.sessionless (h : Host) : Host :=
  { h with
    transport := h.transport.sessionless
    devices := h.devices.mapValues Device.sessionless
    agenda := h.agenda.map Duty.sessionless
    calls := h.calls.filter fun c => !c.isSession
    sightings := h.sightings.map Sighting.sessionless }

/-! ## Devices -/

namespace Device

variable (d : Device)

/-- The candidates of a device do not depend on its session. -/
theorem track_sessionless (uuid : String) : d.sessionless.track uuid = (d.track uuid).sessionless := by
  have same : d.sessionless.tracks uuid = d.tracks uuid := rfl
  rw [track, track, same]
  split <;> rfl

/-- A candidate is dropped alike with and without a session. -/
theorem untrack_sessionless (uuid : String) :
    d.sessionless.untrack uuid = (d.untrack uuid).sessionless := by
  have same : d.sessionless.tracks uuid = d.tracks uuid := rfl
  rw [untrack, untrack, same]
  split <;> rfl

/-- Whether a profile of the registry is compatible with a device is asked of its address and its capabilities.
-/
theorem adopt?_sessionless (p : Profile) : d.sessionless.adopt? p = (d.adopt? p).map sessionless := by
  have same : (d.sessionless.accepts p && !d.sessionless.tracks p.uuid) =
      (d.accepts p && !d.tracks p.uuid) := rfl
  rw [adopt?, adopt?, same, track_sessionless]
  split <;> rfl

/-- A device drops a profile that was removed, whoever is connected. -/
theorem forget?_sessionless (p : Profile) : d.sessionless.forget? p = (d.forget? p).map sessionless := by
  have same : d.sessionless.tracks p.uuid = d.tracks p.uuid := rfl
  rw [forget?, forget?, same, untrack_sessionless]
  split <;> rfl

/-- A device looks through the registry without regard to its session. -/
theorem survey_sessionless (stored : List Profile) :
    d.sessionless.survey stored = (d.survey stored).sessionless := by
  rw [survey, survey]
  induction stored generalizing d with
  | nil => rfl
  | cons p ps ih =>
    rw [List.foldl_cons, List.foldl_cons, ← ih, adopt?_sessionless]
    cases d.adopt? p <;> rfl

/-- BlueZ says whether a device is connected as a property, which is not the session that was opened with it. -/
theorem merge_sessionless (b : PropertyBatch) : d.sessionless.merge b = (d.merge b).sessionless := by
  have offered : (b.uuids.elim d.sessionless d.sessionless.offerServices).capabilities =
      (b.uuids.elim d d.offerServices).capabilities := by
    cases b.uuids <;> rfl
  rw [merge, offered]
  rfl

/-- **A notification of the registry** is taken in alike with and without a session. -/
theorem hear_sessionless (stored : List Profile) (n : Registry.Notice) :
    d.sessionless.hear stored n = (d.hear stored n).map sessionless := by
  cases n with
  | added p =>
    have same : d.sessionless.submitting = d.submitting := rfl
    rw [hear, hear, same, adopt?_sessionless]
    split <;> rfl
  | removed p => exact d.forget?_sessionless p
  | updated p =>
    have same : d.sessionless.accepts p = d.accepts p := rfl
    rw [hear, hear, same, adopt?_sessionless, forget?_sessionless]
    split <;> rfl
  | loaded => exact congrArg some (d.survey_sessionless stored)

end Device

/-! ## Duties -/

/-- A watcher is kept alive by duties, which erasing sessions leaves in their places. -/
@[simp]
theorem Duty.involves_sessionless (id : WatcherId) (duty : Duty) :
    duty.sessionless.involves id = duty.involves id := by
  cases duty <;> rfl

/-- Erasing sessions leaves the kind of a duty as it is, so nobody comes to be notified by it or stops being
notified. -/
@[simp]
theorem Duty.isPursuit_sessionless (duty : Duty) : duty.sessionless.isPursuit = duty.isPursuit := by
  cases duty <;> rfl

/-- The turn of a watcher stays its turn. -/
@[simp]
theorem Duty.isWatch_sessionless (duty : Duty) : duty.sessionless.isWatch = duty.isWatch := by
  cases duty <;> rfl

namespace Host

variable (h : Host)

/-! ## Looking things up -/

/-- The devices are the same ones, each with its session erased. -/
theorem device?_sessionless (id : DeviceId) :
    h.sessionless.device? id = (h.device? id).map Device.sessionless :=
  Table.get?_mapValues h.devices Device.sessionless id

/-- So the same devices are there. -/
theorem contains_devices_sessionless (id : DeviceId) :
    h.sessionless.devices.contains id = h.devices.contains id := by
  rw [Table.contains, Table.contains]
  exact (congrArg Option.isSome (h.device?_sessionless id)).trans Option.isSome_map

/-- A watcher lives or not regardless of sessions. -/
theorem watcherLives_sessionless (id : WatcherId) :
    h.sessionless.watcherLives id = h.watcherLives id := by
  have involved : h.sessionless.agenda.any (·.involves id) = h.agenda.any (·.involves id) := by
    change (h.agenda.map Duty.sessionless).any (·.involves id) = _
    rw [List.any_map]
    exact congrArg h.agenda.any (funext fun duty => duty.involves_sessionless id)
  rw [watcherLives, watcherLives, involved]
  rfl

/-- The registry notifies the same listeners. -/
theorem listenerLives_sessionless (l : Listener) : h.sessionless.listenerLives l = h.listenerLives l := by
  cases l with
  | device id => exact h.contains_devices_sessionless id
  | watcher id => exact h.watcherLives_sessionless id

/-! ## Changing one thing -/

/-- To put duties on the agenda and to erase sessions commute. -/
theorem urge_sessionless (ds : List Duty) :
    h.sessionless.urge (ds.map Duty.sessionless) = (h.urge ds).sessionless := by
  simp only [urge, sessionless, List.map_append]

/-- So do changing the record of a device and erasing sessions, when the new record loses its session too. -/
theorem setDevice_sessionless (id : DeviceId) (d : Device) :
    h.sessionless.setDevice id d.sessionless = (h.setDevice id d).sessionless := by
  have devices : (h.devices.modify id fun _ => d).mapValues Device.sessionless =
      (h.devices.mapValues Device.sessionless).modify id fun _ => d.sessionless :=
    Table.mapValues_modify h.devices id _ _ fun _ _ => rfl
  simp only [setDevice, sessionless, devices]

/-- A call is noted with and without sessions, unless it opens or closes one. -/
theorem log_sessionless {c : Call} (other : c.isSession = false) :
    h.sessionless.log c = (h.log c).sessionless := by
  simp [log, sessionless, List.filter_append, other]

/-- What a watcher records is kept, without the roles in it. -/
theorem sight_sessionless (s : Sighting) : h.sessionless.sight s.sessionless = (h.sight s).sessionless := by
  simp only [sight, sessionless, List.map_append, List.map_cons, List.map_nil]

/-! ## Devices come and go -/

/-- A new device has no session yet. -/
theorem create_sessionless (d : Device) :
    h.sessionless.create d.sessionless = ((h.create d).1.sessionless, (h.create d).2) := by
  have devices := Table.mapValues_set h.devices h.nextId d Device.sessionless
  simp only [create, sessionless, devices]

/-- Discovery starts whether or not a session was opened. -/
theorem startRun_sessionless (id : DeviceId) (label : Option String) :
    h.sessionless.startRun id label = (h.startRun id label).sessionless := by
  rw [startRun, startRun, device?_sessionless]
  cases h.device? id with
  | none => rfl
  | some d =>
    simp only [Option.map_some, show d.sessionless.started = d.started from rfl]
    split
    · rfl
    · have marked := h.setDevice_sessionless id { d with started := true }
      exact congrArg (fun g : Host => { g with
        runs := h.runs.set h.nextId { label, device := id }
        nextId := h.nextId + 1 }) marked

/-- A device that is dropped goes with its session. -/
theorem destroy_sessionless (id : DeviceId) :
    h.sessionless.destroy id = (h.destroy id).sessionless := by
  have devices : (h.devices.mapValues Device.sessionless).erase id =
      (h.devices.erase id).mapValues Device.sessionless := by
    simp only [Table.mapValues, Table.erase, List.filter_map]
    rfl
  simp only [destroy, sessionless, devices]

/-! ## Announcements -/

/-- An announcement goes to the same listeners. -/
theorem announce_sessionless (n : Registry.Notice) :
    h.sessionless.announce n = (h.announce n).sessionless := by
  have living : (h.subscriptions.filter fun s : Subscription => h.sessionless.listenerLives s.listener) =
      h.subscriptions.filter fun s : Subscription => h.listenerLives s.listener :=
    List.filter_congr fun s _ => h.listenerLives_sessionless s.listener
  rw [announce, announce, show h.sessionless.subscriptions = h.subscriptions from rfl, living]
  exact urge_sessionless
    { h with subscriptions := h.subscriptions.filter fun s : Subscription => h.listenerLives s.listener }
    [.announce n _]

/-- **The registry** handles requests and notifies its listeners alike with and without sessions. -/
theorem request_sessionless (q : Registry.Request) :
    h.sessionless.request q = (h.request q).sessionless := by
  rw [request, request, show h.sessionless.registry = h.registry from rfl]
  rcases h.registry.handle q with ⟨r, _ | n⟩
  · rfl
  · exact announce_sessionless { h with registry := r } n

/-! ## Usability -/

/-- A device's usability is stored and published alike. -/
theorem setUsable_sessionless (id : DeviceId) (usable : Bool) :
    h.sessionless.setUsable id usable = (h.setUsable id usable).sessionless := by
  rw [setUsable, setUsable, device?_sessionless]
  cases h.device? id with
  | none => rfl
  | some d =>
    simp only [Option.map_some, show d.sessionless.usable = d.usable from rfl]
    split
    · rfl
    · exact congrArg (·.emit id (.usable usable)) (h.setDevice_sessionless id { d with usable })

/-- A submission takes the device's address and name, and its session plays no part in it. -/
theorem provision_sessionless (id : DeviceId) (d : Device) (name : String) :
    h.sessionless.provision id d.sessionless name = (h.provision id d name).sessionless := by
  let p := Profile.forAccessPoint (h.nextProfileUuid d.binAddress) name d.binAddress
  let g : Host := { h.log (.submission p) with submitted := h.submitted ++ [d.binAddress] }
  have noted : { h.sessionless.log (.submission p) with submitted := h.submitted ++ [d.binAddress] } =
      g.sessionless :=
    congrArg (fun g : Host => { g with submitted := h.submitted ++ [d.binAddress] })
      (h.log_sessionless (c := .submission p) rfl)
  -- what follows is said of the host on which the submission is noted
  have asks (e : Device) (ds : List Duty) : ((g.sessionless.setDevice id e.sessionless).urge
      (ds.map Duty.sessionless)).request (.submit p) =
        (((g.setDevice id e).urge ds).request (.submit p)).sessionless := by
    rw [setDevice_sessionless, urge_sessionless, request_sessionless]
  cases rejection : h.registry.rejection with
  | some why =>
    have refused : h.sessionless.registry.rejection = some why := rejection
    have first := asks { d with attempted := true } [.conclude id]
    rw [← noted] at first
    simp only [provision, log] at first ⊢
    simp only [rejection, refused]
    exact first
  | none =>
    have accepted : h.sessionless.registry.rejection = none := rejection
    have first := asks { d with attempted := true, submitting := true } [.adopt id p.uuid, .conclude id]
    rw [← noted] at first
    simp only [provision, log] at first ⊢
    simp only [rejection, accepted]
    exact first

/-- **Usability** is assessed from what discovery has found and from the candidates alone, so an open or a
broken session never changes it, nor does it make a device submit a profile or keep it from that. -/
theorem reassess_sessionless (id : DeviceId) :
    h.sessionless.reassess id = (h.reassess id).sessionless := by
  rw [reassess, reassess, device?_sessionless]
  cases h.device? id with
  | none => rfl
  | some d =>
    simp only [Option.map_some, show d.sessionless.gate = d.gate from rfl,
      show h.sessionless.registry = h.registry from rfl,
      show d.sessionless.dueProfileName? h.registry.loaded = d.dueProfileName? h.registry.loaded from rfl]
    cases d.gate.decision with
    | decided usable => exact h.setUsable_sessionless id usable
    | provision =>
      cases d.dueProfileName? h.registry.loaded with
      | some name => exact h.provision_sessionless id d name
      | none => exact h.urge_sessionless [.conclude id]

/-- A device takes the profile that it submitted as its own. -/
theorem adopt_sessionless (id : DeviceId) (uuid : String) :
    h.sessionless.adopt id uuid = (h.adopt id uuid).sessionless := by
  rw [adopt, adopt, device?_sessionless]
  cases h.device? id with
  | none => rfl
  | some d =>
    simp only [Option.map_some, Device.track_sessionless]
    exact h.setDevice_sessionless id { d.track uuid with submitting := false, provisioned := some uuid }

/-- It settles its usability after the submission. -/
theorem conclude_sessionless (id : DeviceId) :
    h.sessionless.conclude id = (h.conclude id).sessionless := by
  rw [conclude, conclude, device?_sessionless]
  cases h.device? id with
  | none => rfl
  | some d => exact h.setUsable_sessionless id d.provisioned.isSome

/-! ## Hearing of a change -/

/-- One listener hears of a change: a device takes it in, and a watcher records it. -/
theorem hear_sessionless (n : Registry.Notice) (l : Listener) :
    h.sessionless.hear n l = (h.hear n l).sessionless := by
  cases l with
  | device id =>
    have hears : (h.sessionless.device? id).bind (·.hear h.registry.profiles n) =
        ((h.device? id).bind (·.hear h.registry.profiles n)).map Device.sessionless := by
      rw [device?_sessionless]
      cases h.device? id with
      | none => rfl
      | some d => exact d.hear_sessionless h.registry.profiles n
    simp only [hear]
    rw [show h.sessionless.registry = h.registry from rfl, hears]
    cases (h.device? id).bind (·.hear h.registry.profiles n) with
    | none => rfl
    | some d =>
      simp only [Option.map_some]
      rw [setDevice_sessionless]
      exact (h.setDevice id d).urge_sessionless [.reassess id]
  | watcher id =>
    simp only [hear]
    rw [show h.sessionless.watcher? id = h.watcher? id from rfl]
    cases h.watcher? id with
    | none => rfl
    | some w =>
      have sighted := h.sight_sessionless (.heard w.name n.kind (n.profile?.map (·.uuid)))
      exact (congrArg (·.urge [.react id n 0]) sighted).trans (urge_sessionless _ [.react id n 0])

/-- The rules of a watcher look at the notification only. -/
theorem react_sessionless (id : WatcherId) (n : Registry.Notice) (rule : Nat) :
    h.sessionless.react id n rule = (h.react id n rule).sessionless := by
  rw [react, react, show h.sessionless.watcher? id = h.watcher? id from rfl]
  cases (h.watcher? id).bind fun w : Watcher => w.rules[rule]? with
  | none => rfl
  | some r =>
    simp only
    split
    · exact urge_sessionless { h with watchers := h.watchers.modify id (·.spend rule) }
        [.perform id r.steps, .react id n (rule + 1)]
    · exact h.urge_sessionless [.react id n (rule + 1)]

end Host

end Piconet
