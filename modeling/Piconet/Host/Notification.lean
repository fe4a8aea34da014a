import Piconet.Host.Basic

/-!
# Announcements of the registry

A change of the registry is announced to everybody who was subscribed when it was made. A device
follows the change and, if it concerned it, is assessed anew; this may make it submit a profile,
which is a change of the registry in its turn. A watcher records the change and goes through its
rules.
-/

namespace Piconet

/-- A duty that keeps a watcher alive. -/
def Duty.involves (id : WatcherId) : Duty → Bool
  | announce _ listeners => listeners.contains (.watcher id)
  | react w _ _ | perform w _ | record w _ => w = id
  | _ => false

namespace Host

/-! ## Who is notified -/

/-- A watcher lasts while somebody keeps it or it is being notified. -/
def watcherLives (h : Host) (id : WatcherId) : Bool :=
  (h.watcher? id).any fun w : Watcher => w.kept || h.agenda.any (·.involves id)

def listenerLives (h : Host) : Listener → Bool
  | .device id => h.devices.contains id
  | .watcher id => h.watcherLives id

/-- The number of listeners that are there. -/
def listenerCount (h : Host) : Nat := h.subscriptions.countP fun s : Subscription => h.listenerLives s.listener

/-- Puts the announcement of a change on the agenda, for all who listen now. Subscriptions of
listeners that are gone are given up. -/
def announce (h : Host) (n : Registry.Notice) : Host :=
  let living := h.subscriptions.filter fun s : Subscription => h.listenerLives s.listener
  { h with subscriptions := living }.urge [.announce n (living.map Subscription.listener)]

/-- Has the registry handle a request. -/
def request (h : Host) (q : Registry.Request) : Host :=
  match h.registry.handle q with
  | (r, some n) => { h with registry := r }.announce n
  | (r, none) => { h with registry := r }

/-! ## Usability -/

/-- Notes whether a device is usable; a change is an event. -/
def setUsable (h : Host) (id : DeviceId) (usable : Bool) : Host :=
  match h.device? id with
  | some d =>
    if d.usable = usable then h
    else (h.setDevice id { d with usable }).emit id (.usable usable)
  | none => h

/-- The UUID of the next profile that is submitted for an address. -/
def nextProfileUuid (h : Host) (a : HwAddress) : String := h.naming.uuid a (h.submitted.count a + 1)

/-- Submits the profile of a device that is due. -/
def provision (h : Host) (id : DeviceId) (d : Device) (name : String) : Host :=
  let p := Profile.forAccessPoint (h.nextProfileUuid d.binAddress) name d.binAddress
  let h := { h.log (.submission p) with submitted := h.submitted ++ [d.binAddress] }
  -- the attempt is noted first, as the device may be assessed again before the registry answers
  match h.registry.rejection with
  | some _ =>
    ((h.setDevice id { d with attempted := true }).urge [.conclude id]).request (.submit p)
  | none =>
    ((h.setDevice id { d with attempted := true, submitting := true }).urge
      [.adopt id p.uuid, .conclude id]).request (.submit p)

/-- Finds out again whether a device is usable, which may make it submit a profile. -/
def reassess (h : Host) (id : DeviceId) : Host :=
  match h.device? id with
  | some d =>
    match d.gate.decision with
    | .decided usable => h.setUsable id usable
    | .provision =>
      match d.dueProfileName? h.registry.loaded with
      | some name => h.provision id d name
      | none => h.urge [.conclude id]
  | none => h

/-- Takes an accepted profile as the device's own. -/
def adopt (h : Host) (id : DeviceId) (uuid : String) : Host :=
  match h.device? id with
  | some d =>
    h.setDevice id { d.track uuid with submitting := false, provisioned := some uuid }
  | none => h

/-- Settles usability after an attempt to have a profile. -/
def conclude (h : Host) (id : DeviceId) : Host :=
  match h.device? id with
  | some d => h.setUsable id d.provisioned.isSome
  | none => h

/-! ## Hearing of a change -/

/-- One listener hears of a change. -/
def hear (h : Host) (n : Registry.Notice) : Listener → Host
  | .device id =>
    match (h.device? id).bind (·.hear h.registry.profiles n) with
    | some d => (h.setDevice id d).urge [.reassess id]
    | none => h
  | .watcher id =>
    match h.watcher? id with
    | some w => (h.sight (.heard w.name n.kind (n.profile?.map (·.uuid)))).urge [.react id n 0]
    | none => h

/-- A watcher comes to one of its rules. -/
def react (h : Host) (id : WatcherId) (n : Registry.Notice) (rule : Nat) : Host :=
  match (h.watcher? id).bind fun w : Watcher => w.rules[rule]? with
  | some r =>
    if r.applies n then
      { h with watchers := h.watchers.modify id (·.spend rule) }.urge
        [.perform id r.steps, .react id n (rule + 1)]
    else h.urge [.react id n (rule + 1)]
  | none => h

end Host

end Piconet
