import Mathlib.Logic.Function.Basic
import Mathlib.Logic.Relation
import Piconet.Host.Step

/-!
# What devices and the registry see of a host

A host does many things that neither its devices nor its registry ever notice: it makes calls,
keeps handles, passes signals on, counts its watchers' rules. `Host.core` leaves all of that out,
and `Core.Change` is the list of what can happen to the rest: one entry for each way in which a
device, the registry, the subscriptions or the agenda change. Invariants are shown once for each
entry; that a host makes no other changes is shown in `Piconet.Proofs.Simulation`.

What only some moves of a host do, such as marking the session of a device, is up to the scope of a
change (`Core.Scope`). What is shown of a `Core.Step`, whose scope is the widest, is shown of all.

Three states of the agenda matter. It is **quiet** when nothing is left on it but runs of discovery
that can go on: nobody is being notified. It is **open** when it is quiet or a watcher has the
turn: this is when anything can come in from outside. And a reassessment is first on it while a
device is being edited by its run.
-/

namespace Piconet

open Function (update)

/-! ## Kinds of duties -/

/-- Going on with a run of discovery, which can be put off for as long as anybody likes. -/
def Duty.isPursuit : Duty → Bool
  | .pursue _ => true
  | _ => false

/-- What a watcher still has to do with a change that it heard of. -/
def Duty.isWatch : Duty → Bool
  | .react .. | .perform .. | .record .. => true
  | _ => false

theorem Duty.eq_of_isPursuit {duty : Duty} (pursuit : duty.isPursuit) : ∃ run, duty = .pursue run := by
  cases duty with
  | pursue run => exact ⟨run, rfl⟩
  | announce | react | perform | record | reassess | adopt | conclude => exact absurd pursuit Bool.false_ne_true

theorem Duty.eq_of_isWatch {duty : Duty} (watch : duty.isWatch) :
    (∃ w n rule, duty = .react w n rule) ∨ (∃ w cs, duty = .perform w cs) ∨ ∃ w a, duty = .record w a := by
  cases duty with
  | react w n rule => exact .inl ⟨w, n, rule, rfl⟩
  | perform w cs => exact .inr (.inl ⟨w, cs, rfl⟩)
  | record w a => exact .inr (.inr ⟨w, a, rfl⟩)
  | announce | reassess | adopt | conclude | pursue => exact absurd watch Bool.false_ne_true

/-- The device that a duty is to assess, or to settle something for. -/
def Duty.about? : Duty → Option DeviceId
  | .reassess id | .adopt id _ | .conclude id => some id
  | _ => none

/-! ## The core -/

/-- Where a run of discovery stands. -/
structure Standing where
  device : DeviceId
  /-- the device is up, and the run follows its changes -/
  following : Bool
  deriving DecidableEq, Repr

def Run.standing (r : Run) : Standing := ⟨r.device, decide (r.phase = .follow)⟩

/-- What devices and the registry see of a host. -/
structure Core where
  devices : DeviceId → Option Device
  /-- where the UUIDs of submitted profiles come from -/
  naming : Naming
  registry : Registry
  subscriptions : List Subscription
  /-- the latest subscription made under a name -/
  latest : String → Option Nat
  /-- the addresses for which profiles were submitted -/
  submitted : List HwAddress
  /-- the profiles that devices submitted since the last report -/
  submissions : List Profile
  nextId : Nat
  agenda : List Duty
  receivers : List Receiver
  standing : Table RunId Standing

/-- The profile of a call that submits one. -/
def Call.submission? : Call → Option Profile
  | .submission p => some p
  | .stub .. | .session .. | .bus .. => none

/-- The profiles that devices submitted since the last report. -/
def Host.submissions (h : Host) : List Profile := h.calls.filterMap Call.submission?

def Host.core (h : Host) : Core where
  devices := h.device?
  naming := h.naming
  registry := h.registry
  subscriptions := h.subscriptions
  latest := h.latest.get?
  submitted := h.submitted
  submissions := h.submissions
  nextId := h.nextId
  agenda := h.agenda
  receivers := h.receivers
  standing := h.runs.mapValues Run.standing

namespace Core

/-- What a core is at first. -/
def opening (isLoaded : Bool) (naming : Naming := .byAddress) : Core where
  devices _ := none
  naming
  registry := { loaded := isLoaded }
  subscriptions := []
  latest _ := none
  submitted := []
  submissions := []
  nextId := 0
  agenda := []
  receivers := []
  standing := {}

/-- Nobody is being notified: nothing is left on the agenda but runs of discovery that can go on. -/
def isQuiet (c : Core) : Bool := c.agenda.all Duty.isPursuit

/-- Nobody is being notified, or a watcher has the turn. -/
def isOpen (c : Core) : Bool := c.isQuiet || c.agenda.head?.any Duty.isWatch

/-- Nothing but pursuits comes after a pursuit. -/
def PursuitsLast (c : Core) : Prop := c.agenda.Pairwise fun a b => a.isPursuit → b.isPursuit

end Core

/-- The profile that a device hands in under a name. -/
def Core.profileFor (c : Core) (d : Device) (name : String) : Profile :=
  .forAccessPoint (c.naming.uuid d.binAddress (c.submitted.count d.binAddress + 1)) name d.binAddress

/-- No device will come up with the UUID: the profiles that devices submit have new ones. -/
def Core.Old (c : Core) (u : String) : Prop := ∀ a n, u = c.naming.uuid a n → n ≤ c.submitted.count a

/-- The events of a device, as its receivers get them. -/
def tell (id : DeviceId) (es : List Event) (rs : List Receiver) : List Receiver :=
  es.foldl (fun rs e => rs.map fun r =>
    if r.device = id then { r with events := r.events ++ [e] } else r) rs

/-! ## Steps -/

/-- How a run of discovery edits the device that it is about, and the events that report it. -/
inductive Device.Edit (stored : List Profile) (d : Device) : Device → List Event → Prop
  /-- the bus is there -/
  | bus : Edit stored d { d with busPresent := true } []
  /-- a batch of properties came -/
  | batch (b : PropertyBatch) :
      Edit stored d
        (if (d.changes (d.merge b)).identity then (d.merge b).survey stored else d.merge b)
        ((d.merge b).eventsFor (d.changes (d.merge b)))
  /-- all properties were read for the first time -/
  | fetch (b : PropertyBatch) :
      Edit stored d { (d.merge b).survey stored with bound := true }
        ((d.merge b).eventsFor (d.changes (d.merge b)))
  /-- the adapter was switched on or off -/
  | power (on : Bool) : Edit stored d { d with adapter := .resolved on } []
  /-- discovery ended -/
  | report (success : Bool) (first : d.reported = false) :
      Edit stored d { d with reported := true, initialized := d.initialized || success }
        [.initialized success]

namespace Core

/-- What some changes of a core have leave to do. -/
structure Scope where
  /-- session operations go on -/
  sessions : Prop
  /-- receivers of a name come and go, or hand their events on -/
  roster : String → Prop
  /-- discovery of a device goes on -/
  discovery : DeviceId → Prop
  /-- listeners hear what is announced -/
  hearing : Prop

namespace Scope

/-- Everything may be done. -/
def wide : Scope := ⟨True, fun _ => True, fun _ => True, True⟩

/-- Whoever keeps within one scope keeps within the other. -/
structure Within (scope scope' : Scope) : Prop where
  sessions : scope.sessions → scope'.sessions
  roster : ∀ name, scope.roster name → scope'.roster name
  discovery : ∀ id, scope.discovery id → scope'.discovery id
  hearing : scope.hearing → scope'.hearing

theorem within_wide (scope : Scope) : scope.Within wide :=
  ⟨fun _ => trivial, fun _ _ => trivial, fun _ _ => trivial, fun _ => trivial⟩

end Scope

/-- A change of a core, and the device that submits a profile in it, if one does. Requests that come
from outside obey a `law`, and what is not left to all changes keeps within a `scope`. -/
inductive Change (law : Core → Registry.Request → Prop) (scope : Scope) (c : Core) :
    Option (DeviceId × Profile) → Core → Prop
  /-- a device comes -/
  | create (path : String) (g : Generation) (t : Timeouts) :
      Change law scope c none { c with
        devices := update c.devices c.nextId (some (.fresh path g t))
        subscriptions := c.subscriptions ++ [{ id := c.nextId, listener := .device c.nextId }]
        nextId := c.nextId + 1 }
  /-- a device goes -/
  | destroy (id : DeviceId) :
      Change law scope c none { c with
        devices := update c.devices id none
        subscriptions := c.subscriptions.filter (·.listener ≠ .device id) }
  /-- a watcher subscribes under a name -/
  | enlist (name : String) :
      Change law scope c none { c with
        subscriptions := c.subscriptions ++ [{ id := c.nextId, listener := .watcher c.nextId }]
        latest := update c.latest name (some c.nextId)
        nextId := c.nextId + 1 }
  /-- the latest subscription of a name is cancelled -/
  | cancel (name : String) (i : Nat) (found : c.latest name = some i) :
      Change law scope c none { c with subscriptions := c.subscriptions.filter (·.id ≠ i) }
  /-- receivers come and go, or hand their events on -/
  | receivers (rs : List Receiver)
      (kept : ∀ name, scope.roster name ∨
        rs.find? (·.name = name) = c.receivers.find? (·.name = name))
      (noNews : ∀ r ∈ rs, r ∈ c.receivers ∨ r.events = []) :
      Change law scope c none { c with receivers := rs }
  /-- what was submitted is reported -/
  | reported : Change law scope c none { c with submissions := [] }
  /-- discovery of a device starts -/
  | startRun (id : DeviceId) (d : Device) (found : c.devices id = some d)
      (first : d.started = false) :
      Change law scope c none { c with
        devices := update c.devices id (some { d with started := true })
        standing := c.standing.set c.nextId ⟨id, false⟩
        nextId := c.nextId + 1 }
  /-- runs of discovery end -/
  | endRuns (t : Table RunId Standing) (fewer : t.entries.Sublist c.standing.entries) :
      Change law scope c none { c with standing := t }
  /-- a run of discovery has brought its device up -/
  | comeUp (run : RunId) (id : DeviceId) (found : c.standing.get? run = some ⟨id, false⟩) :
      Change law scope c none { c with standing := c.standing.modify run fun _ => ⟨id, true⟩ }
  /-- a session operation makes its mark on a device -/
  | session (id : DeviceId) (d : Device) (s : Session) (found : c.devices id = some d)
      (allowed : scope.sessions) :
      Change law scope c none { c with
        devices := update c.devices id (some { d with session := s }) }
  /-- runs of discovery are taken up or put off -/
  | defer (ds : List Duty) (quiet : c.isQuiet) (pursuits : ds.all Duty.isPursuit) :
      Change law scope c none { c with agenda := ds }
  /-- a run has its device assessed anew -/
  | summon (id : DeviceId) (d : Device) (quiet : c.isQuiet) (found : c.devices id = some d)
      (allowed : scope.discovery id) :
      Change law scope c none { c with agenda := .reassess id :: c.agenda }
  /-- a run edits its device, which is assessed anew after it -/
  | edit (id : DeviceId) (d e : Device) (es : List Event) (ds : List Duty)
      (next : c.agenda = .reassess id :: ds) (quiet : ds.all Duty.isPursuit)
      (found : c.devices id = some d) (edit : d.Edit c.registry.profiles e es)
      (up : e.initialized = true → d.initialized = true ∨
        ∃ run, c.standing.get? run = some ⟨id, true⟩)
      (allowed : scope.discovery id) :
      Change law scope c none { c with
        devices := update c.devices id (some e)
        receivers := tell id es c.receivers }
  /-- a run that brings its device up finds out about the adapter -/
  | findPower (run : RunId) (id : DeviceId) (d : Device) (on : Bool) (quiet : c.isQuiet)
      (found : c.devices id = some d) (rising : c.standing.get? run = some ⟨id, false⟩)
      (allowed : scope.discovery id) :
      Change law scope c none { c with
        devices := update c.devices id (some { d with adapter := .resolved on }) }
  /-- the registry handles a request, which changes nothing that listeners know of -/
  | requestUnheard (q : Registry.Request) (r : Registry) (isOpen : c.isOpen) (lawful : law c q)
      (handled : c.registry.handle q = (r, none)) : Change law scope c none { c with registry := r }
  /-- the registry handles a request and announces the change to all listeners that are there -/
  | request (q : Registry.Request) (r : Registry) (n : Registry.Notice) (lives : Listener → Bool)
      (isOpen : c.isOpen) (lawful : law c q) (handled : c.registry.handle q = (r, some n))
      (living : ∀ id, lives (.device id) = (c.devices id).isSome) :
      Change law scope c none { c with
        registry := r
        subscriptions := c.subscriptions.filter fun s => lives s.listener
        agenda := .announce n ((c.subscriptions.filter fun s => lives s.listener).map (·.listener))
          :: c.agenda }
  /-- an announcement is over -/
  | heardByAll (n : Registry.Notice) (ds : List Duty) (next : c.agenda = .announce n [] :: ds)
      (allowed : scope.hearing) :
      Change law scope c none { c with agenda := ds }
  /-- a watcher hears of a change -/
  | watched (n : Registry.Notice) (w : WatcherId) (ls : List Listener) (ds ws : List Duty)
      (next : c.agenda = .announce n (.watcher w :: ls) :: ds) (watch : ws.all Duty.isWatch)
      (allowed : scope.hearing) :
      Change law scope c none { c with agenda := ws ++ .announce n ls :: ds }
  /-- a watcher goes on -/
  | turn (duty : Duty) (ds ws : List Duty) (next : c.agenda = duty :: ds) (isWatch : duty.isWatch)
      (watch : ws.all Duty.isWatch) : Change law scope c none { c with agenda := ws ++ ds }
  /-- a change does not concern a device, or the device is gone -/
  | unmoved (n : Registry.Notice) (id : DeviceId) (ls : List Listener) (ds : List Duty)
      (next : c.agenda = .announce n (.device id :: ls) :: ds)
      (deaf : ∀ d, c.devices id = some d → d.hear c.registry.profiles n = none)
      (allowed : scope.hearing) :
      Change law scope c none { c with agenda := .announce n ls :: ds }
  /-- a device follows a change, and is assessed anew -/
  | moved (n : Registry.Notice) (id : DeviceId) (ls : List Listener) (ds : List Duty) (d e : Device)
      (next : c.agenda = .announce n (.device id :: ls) :: ds) (found : c.devices id = some d)
      (hears : d.hear c.registry.profiles n = some e) (allowed : scope.hearing) :
      Change law scope c none { c with
        devices := update c.devices id (some e)
        agenda := .reassess id :: .announce n ls :: ds }
  /-- a duty is about a device that is gone -/
  | late (duty : Duty) (id : DeviceId) (ds : List Duty) (next : c.agenda = duty :: ds)
      (about : duty = .reassess id ∨ (∃ uuid, duty = .adopt id uuid) ∨ duty = .conclude id)
      (gone : c.devices id = none) : Change law scope c none { c with agenda := ds }
  /-- the gate settles whether a device is usable -/
  | decide (id : DeviceId) (d : Device) (ds : List Duty) (usable : Bool)
      (next : c.agenda = .reassess id :: ds) (found : c.devices id = some d)
      (decided : d.gate.decision = .decided usable) :
      Change law scope c none { c with
        devices := update c.devices id (some { d with usable })
        receivers := if d.usable = usable then c.receivers else tell id [.usable usable] c.receivers
        agenda := ds }
  /-- a device lacks a profile and is not to have one submitted -/
  | concede (id : DeviceId) (d : Device) (ds : List Duty) (next : c.agenda = .reassess id :: ds)
      (found : c.devices id = some d) (lacks : d.gate.decision = .provision)
      (due : d.dueProfileName? c.registry.loaded = none) :
      Change law scope c none { c with agenda := .conclude id :: ds }
  /-- the profile of a device is turned down -/
  | turnedDown (id : DeviceId) (d : Device) (ds : List Duty) (name why : String)
      (next : c.agenda = .reassess id :: ds) (found : c.devices id = some d)
      (lacks : d.gate.decision = .provision)
      (due : d.dueProfileName? c.registry.loaded = some name)
      (refused : c.registry.rejection = some why) :
      Change law scope c (some (id, c.profileFor d name)) { c with
        devices := update c.devices id (some { d with attempted := true })
        registry := c.registry.countSubmission
        submitted := c.submitted ++ [d.binAddress]
        submissions := c.submissions ++ [c.profileFor d name]
        agenda := .conclude id :: ds }
  /-- the profile of a device is stored and announced -/
  | handedIn (id : DeviceId) (d : Device) (ds : List Duty) (name : String) (lives : Listener → Bool)
      (next : c.agenda = .reassess id :: ds) (found : c.devices id = some d)
      (lacks : d.gate.decision = .provision)
      (due : d.dueProfileName? c.registry.loaded = some name)
      (accepted : c.registry.rejection = none)
      (living : ∀ id, lives (.device id) = (c.devices id).isSome) :
      Change law scope c (some (id, c.profileFor d name)) { c with
        devices := update c.devices id (some { d with attempted := true, submitting := true })
        registry := c.registry.countSubmission.insert (c.profileFor d name)
        subscriptions := c.subscriptions.filter fun s => lives s.listener
        submitted := c.submitted ++ [d.binAddress]
        submissions := c.submissions ++ [c.profileFor d name]
        agenda :=
          .announce (.added (c.profileFor d name))
              ((c.subscriptions.filter fun s => lives s.listener).map (·.listener))
            :: .adopt id (c.profileFor d name).uuid :: .conclude id :: ds }
  /-- a device takes its accepted profile as its own -/
  | adopt (id : DeviceId) (d : Device) (uuid : String) (ds : List Duty)
      (next : c.agenda = .adopt id uuid :: ds) (found : c.devices id = some d) :
      Change law scope c none { c with
        devices := update c.devices id
          (some { d.track uuid with submitting := false, provisioned := some uuid })
        agenda := ds }
  /-- an attempt to have a profile settles whether the device is usable -/
  | conclude (id : DeviceId) (d : Device) (ds : List Duty) (next : c.agenda = .conclude id :: ds)
      (found : c.devices id = some d) :
      Change law scope c none { c with
        devices := update c.devices id (some { d with usable := d.provisioned.isSome })
        receivers := if d.usable = d.provisioned.isSome then c.receivers
          else tell id [.usable d.provisioned.isSome] c.receivers
        agenda := ds }

/-- A change that obeys a law and keeps within a scope obeys every weaker law and keeps within every
wider scope. -/
theorem Change.mono {law law' : Core → Registry.Request → Prop} {scope scope' : Scope} {c c' : Core}
    {s : Option (DeviceId × Profile)} (weaker : ∀ c q, law c q → law' c q)
    (within : scope.Within scope') (change : Change law scope c s c') :
    Change law' scope' c s c' := by
  cases change with
  | create path g t => exact .create path g t
  | destroy id => exact .destroy id
  | enlist name => exact .enlist name
  | cancel name i found => exact .cancel name i found
  | receivers rs kept noNews =>
    exact .receivers rs (fun name => (kept name).imp_left (within.roster name)) noNews
  | reported => exact .reported
  | startRun id d found first => exact .startRun id d found first
  | endRuns t fewer => exact .endRuns t fewer
  | comeUp run id found => exact .comeUp run id found
  | session id d s found allowed => exact .session id d s found (within.sessions allowed)
  | defer ds quiet pursuits => exact .defer ds quiet pursuits
  | summon id d quiet found allowed => exact .summon id d quiet found (within.discovery id allowed)
  | edit id d e es ds next quiet found edit up allowed =>
    exact .edit id d e es ds next quiet found edit up (within.discovery id allowed)
  | findPower run id d on quiet found rising allowed =>
    exact .findPower run id d on quiet found rising (within.discovery id allowed)
  | requestUnheard q r isOpen lawful handled =>
    exact .requestUnheard q r isOpen (weaker c q lawful) handled
  | request q r n lives isOpen lawful handled living =>
    exact .request q r n lives isOpen (weaker c q lawful) handled living
  | heardByAll n ds next allowed => exact .heardByAll n ds next (within.hearing allowed)
  | watched n w ls ds ws next watch allowed =>
    exact .watched n w ls ds ws next watch (within.hearing allowed)
  | turn duty ds ws next isWatch watch => exact .turn duty ds ws next isWatch watch
  | unmoved n id ls ds next deaf allowed =>
    exact .unmoved n id ls ds next deaf (within.hearing allowed)
  | moved n id ls ds d e next found hears allowed =>
    exact .moved n id ls ds d e next found hears (within.hearing allowed)
  | late duty id ds next about gone => exact .late duty id ds next about gone
  | decide id d ds usable next found decided => exact .decide id d ds usable next found decided
  | concede id d ds next found lacks due => exact .concede id d ds next found lacks due
  | turnedDown id d ds name why next found lacks due refused =>
    exact .turnedDown id d ds name why next found lacks due refused
  | handedIn id d ds name lives next found lacks due accepted living =>
    exact .handedIn id d ds name lives next found lacks due accepted living
  | adopt id d uuid ds next found => exact .adopt id d uuid ds next found
  | conclude id d ds next found => exact .conclude id d ds next found

/-- UUIDs keep coming from the same source. -/
theorem Change.naming {law : Core → Registry.Request → Prop} {scope : Scope} {c c' : Core}
    {s : Option (DeviceId × Profile)} (change : Change law scope c s c') : c'.naming = c.naming := by
  cases change <;> rfl

/-- A change of a core in which everything may be done. -/
abbrev Step (law : Core → Registry.Request → Prop) (c : Core) (s : Option (DeviceId × Profile))
    (c' : Core) : Prop :=
  Change law .wide c s c'

theorem Change.step {law : Core → Registry.Request → Prop} {scope : Scope} {c c' : Core}
    {s : Option (DeviceId × Profile)} (change : Change law scope c s c') : Step law c s c' :=
  change.mono (fun _ _ => id) scope.within_wide

/-- A step that obeys a law obeys every weaker one. -/
theorem Step.weaken {law law' : Core → Registry.Request → Prop} {c c' : Core}
    {s : Option (DeviceId × Profile)} (weaker : ∀ c q, law c q → law' c q)
    (step : Step law c s c') : Step law' c s c' :=
  step.mono weaker (Scope.within_wide _)

/-- Any number of changes of a core in which no device submits a profile. -/
abbrev Changes (law : Core → Registry.Request → Prop) (scope : Scope) : Core → Core → Prop :=
  Relation.ReflTransGen fun c c' => Change law scope c none c'

/-- Any number of steps of a core in which no device submits a profile. -/
abbrev Steps (law : Core → Registry.Request → Prop) : Core → Core → Prop :=
  Relation.ReflTransGen fun c c' => Step law c none c'

/-- Any number of steps of a core. -/
abbrev Runs (law : Core → Registry.Request → Prop) : Core → Core → Prop :=
  Relation.ReflTransGen fun c c' => ∃ s, Step law c s c'

theorem Changes.steps {law : Core → Registry.Request → Prop} {scope : Scope} {c c' : Core}
    (changes : Changes law scope c c') : Steps law c c' := by
  induction changes with
  | refl => exact .refl
  | tail _ change ih => exact ih.tail change.step

end Core

end Piconet
