import Piconet.Proofs.DiscoveryVerdicts
import Piconet.Proofs.DroppedDevices
import Piconet.Proofs.Notification
import Piconet.Proofs.Streams

/-!
# What is done and what follows

What happens to devices and the registry is of two kinds. Some of it is done to them from outside:
devices come and go, discovery tells a device something, somebody asks the registry for something
(`Deed`). The rest follows by itself: who listens hears of a change, a device is assessed and submits
a profile, and so on, until nobody is being notified any longer (`Core.Proceeds`).

When listeners do not call back, everything is done while nobody is being notified, so a run of a
bench is told by its deeds in their order (`Bench.Aloof.unfolds`), together with what a device says
of itself on the way.
-/

namespace Piconet

open Function (update)
open Bench (free shut)

/-! ## Deeds -/

/-- What discovery tells a device. -/
inductive Tiding where
  /-- the bus is there -/
  | bus
  /-- properties have changed -/
  | batch (b : PropertyBatch)
  /-- all properties, when they are read for the first time -/
  | fetch (b : PropertyBatch)
  /-- the adapter is on or off -/
  | power (on : Bool)
  /-- discovery is over -/
  | report (success : Bool)

/-- The properties that a tiding brings. -/
def Tiding.batch? : Tiding → Option PropertyBatch
  | .batch b | .fetch b => some b
  | .bus | .power _ | .report _ => none

namespace Device

variable {stored : List Profile} {d e : Device} {es : List Event}

/-- What a device becomes when it is told something, and the events that report it. -/
def learn (d : Device) (stored : List Profile) : Tiding → Device × List Event
  | .bus => ({ d with busPresent := true }, [])
  | .batch b =>
    (if (d.changes (d.merge b)).identity then (d.merge b).survey stored else d.merge b,
      (d.merge b).eventsFor (d.changes (d.merge b)))
  | .fetch b =>
    ({ (d.merge b).survey stored with bound := true }, (d.merge b).eventsFor (d.changes (d.merge b)))
  | .power on => ({ d with adapter := .resolved on }, [])
  | .report success =>
    ({ d with reported := true, initialized := d.initialized || success }, [.initialized success])

/-- Whatever a run does to its device it does by telling it something. -/
theorem Edit.learn (edit : d.Edit stored e es) : ∃ t, d.learn stored t = (e, es) := by
  cases edit with
  | bus => exact ⟨.bus, rfl⟩
  | batch b => exact ⟨.batch b, rfl⟩
  | fetch b => exact ⟨.fetch b, rfl⟩
  | power on => exact ⟨.power on, rfl⟩
  | report success => exact ⟨.report success, rfl⟩

/-- A device knows the first address that it was told. -/
theorem address_learn (d : Device) (stored : List Profile) (t : Tiding) :
    (d.learn stored t).1.address =
      d.address.or ((t.batch?.bind (·.address)).bind KnownAddress.ofText?) := by
  have merged (b : PropertyBatch) :
      (d.merge b).address = d.address.or (b.address.bind KnownAddress.ofText?) := by
    rw [merge, offerAddress]
    cases d.address <;> rfl
  cases t with
  | bus | power | report => exact Option.or_none.symm
  | batch b =>
    rw [learn]
    split
    · rw [survey_eq]
      exact merged b
    · exact merged b
  | fetch b =>
    rw [learn, survey_eq]
    exact merged b

/-- What a device says of it when it comes to be usable or stops being so. -/
def remark (d : Device) (usable : Bool) : List Event :=
  if d.usable = usable then [] else [.usable usable]

end Device

/-- What is done to devices and the registry from outside. -/
inductive Deed where
  /-- a device comes -/
  | create (device : DeviceId) (path : String) (generation : Generation) (timeouts : Timeouts)
  /-- a device goes -/
  | destroy (device : DeviceId)
  /-- discovery of a device starts -/
  | start (device : DeviceId)
  /-- a session operation makes its mark on a device -/
  | session (device : DeviceId) (s : Session)
  /-- a device that is brought up finds out about the adapter -/
  | power (device : DeviceId) (on : Bool)
  /-- discovery has something to tell a device, which will be assessed after it -/
  | summon (device : DeviceId)
  | tell (device : DeviceId) (t : Tiding)
  /-- a device that was told something is assessed -/
  | assess (device : DeviceId)
  /-- somebody asks the registry for something -/
  | request (q : Registry.Request)

namespace Deed

/-- The device that a deed is about. -/
def device? : Deed → Option DeviceId
  | create id .. | destroy id | start id | session id _ | power id _ | summon id | tell id _ | assess id =>
    some id
  | request _ => none

/-- The deed about a device that goes by another name. -/
def rename (f : DeviceId → DeviceId) : Deed → Deed
  | create id path g t => create (f id) path g t
  | destroy id => destroy (f id)
  | start id => start (f id)
  | session id s => session (f id) s
  | power id on => power (f id) on
  | summon id => summon (f id)
  | tell id t => tell (f id) t
  | assess id => assess (f id)
  | request q => request q

/-- The request that a deed is. -/
def request? : Deed → Option Registry.Request
  | request q => some q
  | _ => none

/-- The address that a deed tells a device. -/
def address? (id : DeviceId) : Deed → Option KnownAddress
  | tell j t => if j = id then (t.batch?.bind (·.address)).bind KnownAddress.ofText? else none
  | _ => none

end Deed

/-! ## What deeds do -/

variable {law : Core → Registry.Request → Prop} {scope : Core.Scope} {c c' : Core}
  {s : Option (DeviceId × Profile)} {id : DeviceId} {deed : Deed} {ds : List Deed} {es : List Event}
  {roster : String → Prop}

namespace Core

/-- What a deed does to a core. Nobody is being notified when it is done. -/
inductive Does (c : Core) : Deed → Core → Prop
  | create (path : String) (g : Generation) (t : Timeouts) (quiet : c.isQuiet) :
      Does c (.create c.nextId path g t) { c with
        devices := update c.devices c.nextId (some (.fresh path g t))
        subscriptions := c.subscriptions ++ [{ id := c.nextId, listener := .device c.nextId }]
        nextId := c.nextId + 1 }
  | destroy (id : DeviceId) (quiet : c.isQuiet) :
      Does c (.destroy id) { c with
        devices := update c.devices id none
        subscriptions := c.subscriptions.filter (·.listener ≠ .device id) }
  | start (id : DeviceId) (d : Device) (quiet : c.isQuiet) (found : c.devices id = some d)
      (first : d.started = false) :
      Does c (.start id) { c with
        devices := update c.devices id (some { d with started := true })
        standing := c.standing.set c.nextId ⟨id, false⟩
        nextId := c.nextId + 1 }
  | session (id : DeviceId) (d : Device) (s : Session) (quiet : c.isQuiet)
      (found : c.devices id = some d) :
      Does c (.session id s) { c with
        devices := update c.devices id (some { d with session := s }) }
  | power (run : RunId) (id : DeviceId) (d : Device) (on : Bool) (quiet : c.isQuiet)
      (found : c.devices id = some d) (rising : c.standing.get? run = some ⟨id, false⟩) :
      Does c (.power id on) { c with
        devices := update c.devices id (some { d with adapter := .resolved on }) }
  | summon (id : DeviceId) (d : Device) (quiet : c.isQuiet) (found : c.devices id = some d) :
      Does c (.summon id) { c with agenda := .reassess id :: c.agenda }
  | tell (id : DeviceId) (d e : Device) (es : List Event) (ds : List Duty) (t : Tiding)
      (next : c.agenda = .reassess id :: ds) (quiet : ds.all Duty.isPursuit)
      (found : c.devices id = some d) (edit : d.Edit c.registry.profiles e es)
      (learns : d.learn c.registry.profiles t = (e, es))
      (up : e.initialized = true → d.initialized = true ∨
        ∃ run, c.standing.get? run = some ⟨id, true⟩) :
      Does c (.tell id t) { c with
        devices := update c.devices id (some e)
        receivers := Piconet.tell id es c.receivers }
  | requestUnheard (q : Registry.Request) (r : Registry) (quiet : c.isQuiet)
      (handled : c.registry.handle q = (r, none)) : Does c (.request q) { c with registry := r }
  | request (q : Registry.Request) (r : Registry) (n : Registry.Notice) (lives : Listener → Bool)
      (quiet : c.isQuiet) (handled : c.registry.handle q = (r, some n))
      (living : ∀ id, lives (.device id) = (c.devices id).isSome) :
      Does c (.request q) { c with
        registry := r
        subscriptions := c.subscriptions.filter fun s => lives s.listener
        agenda := .announce n ((c.subscriptions.filter fun s => lives s.listener).map (·.listener))
          :: c.agenda }

theorem isOpen_of_quiet (quiet : c.isQuiet) : c.isOpen := by
  rw [isOpen, quiet]
  rfl

/-- A deed is a step. -/
theorem Does.step (does : c.Does deed c') (lawful : ∀ q, deed = .request q → law c q) :
    Step law c none c' := by
  cases does with
  | create path g t => exact .create path g t
  | destroy id => exact .destroy id
  | start id d _ found first => exact .startRun id d found first
  | session id d s _ found => exact .session id d s found trivial
  | power run id d on quiet found rising => exact .findPower run id d on quiet found rising trivial
  | summon id d quiet found => exact .summon id d quiet found trivial
  | tell id d e es ds t next quiet found edit _ up =>
    exact .edit id d e es ds next quiet found edit up trivial
  | requestUnheard q r quiet handled =>
    exact .requestUnheard q r (isOpen_of_quiet quiet) (lawful q rfl) handled
  | request q r n lives quiet handled living =>
    exact .request q r n lives (isOpen_of_quiet quiet) (lawful q rfl) handled living

theorem Does.free (does : c.Does deed c') : Step Bench.free c none c' := does.step fun _ _ => trivial

/-! ## What follows -/

/-- What goes on by itself may do: listeners hear of changes, and receivers of some names come and go. -/
def Scope.inward (roster : String → Prop) : Scope := ⟨False, roster, fun _ => False, True⟩

/-- Something follows by itself: nobody asks the registry for anything, no session and no discovery
goes on, and no device comes, goes or is started. -/
structure Proceeds (roster : String → Prop) (c : Core) (s : Option (DeviceId × Profile)) (c' : Core) :
    Prop where
  change : Change shut (.inward roster) c s c'
  there : ∀ id, (c'.devices id).isSome = (c.devices id).isSome
  /-- no identifier is given out to a device or to a run -/
  known : c'.nextId = c.nextId ∨ c'.devices = c.devices

/-- A device was told something, or is to be told something, and is still to be assessed. -/
def Summoned (c : Core) (id : DeviceId) : Prop :=
  ∃ ds, c.agenda = .reassess id :: ds ∧ ds.all Duty.isPursuit

/-- What a device says of itself when a deed is done. -/
def told (c : Core) (id : DeviceId) : Deed → List Event
  | .tell j t => if j = id then (c.devices id).elim [] fun d => (d.learn c.registry.profiles t).2 else []
  | _ => []

/-- What a device says of itself from one core to the next, while no deed is done. -/
def remarked (c c' : Core) (id : DeviceId) : List Event :=
  match c.devices id, c'.devices id with
  | some d, some e => d.remark e.usable
  | _, _ => []

/-- A device says nothing of itself as long as it is as usable as it was. -/
theorem remarked_eq_nil (same : ∀ d e, c.devices id = some d → c'.devices id = some e → e.usable = d.usable) :
    c.remarked c' id = [] := by
  rw [remarked]
  split
  · next d e found there => rw [Device.remark, if_pos (same d e found there).symm]
  · rfl

theorem remarked_of_device (same : c'.devices id = c.devices id) : c.remarked c' id = [] := by
  refine remarked_eq_nil fun d e found there => ?_
  rw [same, found] at there
  rw [Option.some.inj there]

theorem remarked_of_devices (same : c'.devices = c.devices) : c.remarked c' id = [] :=
  remarked_of_device (congrFun same id)

/-- A device that changes says nothing of it if it is as usable as it was. -/
theorem remarked_of_update {j : DeviceId} {d e : Device} (found : c.devices j = some d)
    (devices : c'.devices = update c.devices j (some e)) (same : e.usable = d.usable) :
    c.remarked c' id = [] := by
  refine remarked_eq_nil fun x y before after => ?_
  rw [devices] at after
  rcases eq_of_update_some after with ⟨rfl, rfl⟩ | ⟨-, kept⟩
  · rw [same, Option.some.inj (found.symm.trans before)]
  · rw [Option.some.inj (kept.symm.trans before)]

/-- A device whose usability is settled says of itself what has changed, and no other one does. -/
theorem remarked_of_settled {j : DeviceId} {d : Device} {usable : Bool} (found : c.devices j = some d)
    (devices : c'.devices = update c.devices j (some { d with usable })) :
    c.remarked c' id = if j = id then d.remark usable else [] := by
  by_cases mine : j = id
  · subst mine
    rw [if_pos rfl, remarked, found, devices, Function.update_self]
  · rw [if_neg mine]
    refine remarked_eq_nil fun x y before after => ?_
    rw [devices, Function.update_of_ne (Ne.symm mine)] at after
    rw [Option.some.inj (after.symm.trans before)]

/-- Everything that can become of a core, with the deeds that were done in their order and what a
device has said of itself meanwhile. Receivers come and go under names of the roster. -/
inductive Unfolds (roster : String → Prop) (id : DeviceId) (c : Core) :
    List Deed → List Event → Core → Prop
  | refl : Unfolds roster id c [] [] c
  | deed {ds : List Deed} {es : List Event} {c₁ c₂ : Core} (deed : Deed)
      (run : Unfolds roster id c ds es c₁) (does : c₁.Does deed c₂) :
      Unfolds roster id c (ds ++ [deed]) (es ++ c₁.told id deed) c₂
  /-- a device that discovery has told something is assessed -/
  | assess {ds : List Deed} {es : List Event} {c₁ c₂ : Core} {s : Option (DeviceId × Profile)}
      (j : DeviceId) (run : Unfolds roster id c ds es c₁) (summoned : c₁.Summoned j)
      (proceeds : Proceeds roster c₁ s c₂) (turn : c₂.agenda ≠ c₁.agenda) :
      Unfolds roster id c (ds ++ [.assess j]) (es ++ c₁.remarked c₂ id) c₂
  | proceed {ds : List Deed} {es : List Event} {c₁ c₂ : Core} {s : Option (DeviceId × Profile)}
      (run : Unfolds roster id c ds es c₁) (proceeds : Proceeds roster c₁ s c₂)
      (waits : ∀ j, c₁.Summoned j → c₂.agenda = c₁.agenda) :
      Unfolds roster id c ds (es ++ c₁.remarked c₂ id) c₂

namespace Unfolds

variable {c₁ : Core} {ds' : List Deed} {es' : List Event}

theorem trans (first : Unfolds roster id c ds es c₁) (second : Unfolds roster id c₁ ds' es' c') :
    Unfolds roster id c (ds ++ ds') (es ++ es') c' := by
  induction second with
  | refl =>
    rw [List.append_nil, List.append_nil]
    exact first
  | deed deed _ does ih =>
    rw [← List.append_assoc, ← List.append_assoc]
    exact ih.deed deed does
  | assess j _ summoned proceeds turn ih =>
    rw [← List.append_assoc, ← List.append_assoc]
    exact ih.assess j summoned proceeds turn
  | proceed _ proceeds waits ih =>
    rw [← List.append_assoc]
    exact ih.proceed proceeds waits

theorem of_does (does : c.Does deed c') : Unfolds roster id c [deed] (c.told id deed) c' :=
  Unfolds.refl.deed deed does

theorem of_proceeds (proceeds : Proceeds roster c s c') : ∃ ds es, Unfolds roster id c ds es c' := by
  by_cases turn : ∃ j, c.Summoned j ∧ c'.agenda ≠ c.agenda
  · obtain ⟨j, summoned, turn⟩ := turn
    exact ⟨_, _, Unfolds.refl.assess j summoned proceeds turn⟩
  · refine ⟨_, _, Unfolds.refl.proceed proceeds fun j summoned => ?_⟩
    by_contra turned
    exact turn ⟨j, summoned, turned⟩

/-- More names may be on the roster. -/
theorem mono {roster' : String → Prop} (more : ∀ name, roster name → roster' name)
    (run : Unfolds roster id c ds es c') : Unfolds roster' id c ds es c' := by
  have within : Scope.Within (.inward roster) (.inward roster') :=
    ⟨fun none => none, more, fun _ none => none, fun _ => trivial⟩
  have wider {c c' : Core} {s : Option (DeviceId × Profile)} (proceeds : Proceeds roster c s c') :
      Proceeds roster' c s c' :=
    ⟨proceeds.change.mono (fun _ _ none => none) within, proceeds.there, proceeds.known⟩
  induction run with
  | refl => exact .refl
  | deed deed _ does ih => exact ih.deed deed does
  | assess j _ summoned proceeds turn ih => exact ih.assess j summoned (wider proceeds) turn
  | proceed _ proceeds waits ih => exact ih.proceed (wider proceeds) waits

end Unfolds

/-! ## What receivers are told -/

section Receivers

variable {name : String} {r : Receiver}

theorem Does.heard (does : c.Does deed c') (found : c.receivers.find? (·.name = name) = some r)
    (mine : r.device = id) :
    c'.receivers.find? (·.name = name) = some (r.append (c.told id deed)) := by
  have silent : some r = some (r.append []) := by
    rw [Receiver.append_nil]
  cases does with
  | tell j d e es ds t next quiet there edit learns =>
    change (Piconet.tell j es c.receivers).find? _ = _
    rw [find?_tell, found, Option.map_some, told, mine]
    by_cases same : id = j
    · subst same
      rw [if_pos rfl, if_pos rfl, there, Option.elim_some, learns]
    · rw [if_neg same, if_neg (Ne.symm same), silent]
  | _ => exact found.trans silent

theorem Proceeds.heard (proceeds : Proceeds roster c s c') (off : ¬ roster name)
    (found : c.receivers.find? (·.name = name) = some r) (mine : r.device = id) :
    c'.receivers.find? (·.name = name) = some (r.append (c.remarked c' id)) := by
  have silent (receivers : c'.receivers.find? (·.name = name) = c.receivers.find? (·.name = name))
      (nothing : c.remarked c' id = []) :
      c'.receivers.find? (·.name = name) = some (r.append (c.remarked c' id)) := by
    rw [receivers, found, nothing, Receiver.append_nil]
  have settled {j : DeviceId} {d : Device} {usable : Bool} (there : c.devices j = some d)
      (devices : c'.devices = update c.devices j (some { d with usable }))
      (receivers : c'.receivers = if d.usable = usable then c.receivers
        else Piconet.tell j [.usable usable] c.receivers) :
      c'.receivers.find? (·.name = name) = some (r.append (c.remarked c' id)) := by
    rw [remarked_of_settled there devices, receivers, Device.remark]
    by_cases same : d.usable = usable
    · rw [if_pos same, if_pos same, ite_self, found, Receiver.append_nil]
    · rw [if_neg same, if_neg same, find?_tell, found, Option.map_some, mine]
      by_cases own : id = j
      · rw [if_pos own, if_pos own.symm]
      · rw [if_neg own, if_neg (Ne.symm own), Receiver.append_nil]
  obtain ⟨change, there, known⟩ := proceeds
  cases change with
  | enlist | cancel | reported | endRuns | comeUp | defer | heardByAll | watched | turn | unmoved | late
  | concede => exact silent rfl (remarked_of_devices rfl)
  | receivers rs kept =>
    exact silent ((kept name).resolve_left off) (remarked_of_devices rfl)
  | create path g t =>
    rcases known with known | same
    · exact absurd known (Nat.succ_ne_self _)
    · exact silent rfl (remarked_of_devices same)
  | destroy j =>
    refine silent rfl (remarked_eq_nil fun d e before after => ?_)
    rcases eq_of_update after with ⟨-, none⟩ | ⟨-, kept⟩
    · exact absurd none (by simp)
    · rw [Option.some.inj (kept.symm.trans before)]
  | startRun j d before => exact silent rfl (remarked_of_update before rfl rfl)
  | session _ _ _ _ allowed | summon _ _ _ _ allowed | edit _ _ _ _ _ _ _ _ _ _ allowed
  | findPower _ _ _ _ _ _ _ allowed => exact allowed.elim
  | requestUnheard _ _ _ lawful | request _ _ _ _ _ lawful => exact lawful.elim
  | moved n j ls ds d e next before hears =>
    refine silent rfl (remarked_of_update before rfl ?_)
    rw [Device.hear_eq hears]
  | turnedDown j d ds name why next before => exact silent rfl (remarked_of_update before rfl rfl)
  | handedIn j d ds name lives next before => exact silent rfl (remarked_of_update before rfl rfl)
  | adopt j d uuid ds next before =>
    refine silent rfl (remarked_of_update before rfl ?_)
    rw [Device.track_eq]
  | decide j d ds usable next before => exact settled before rfl rfl
  | conclude j d ds next before => exact settled before rfl rfl

/-- **What a device says of itself is what its receivers are told**, if they stay where they are. -/
theorem Unfolds.heard (run : Unfolds roster id c ds es c') (off : ¬ roster name)
    (found : c.receivers.find? (·.name = name) = some r) (mine : r.device = id) :
    c'.receivers.find? (·.name = name) = some (r.append es) := by
  induction run with
  | refl => rw [found, Receiver.append_nil]
  | deed deed _ does ih => rw [does.heard ih mine, Receiver.append_append]
  | assess j _ _ proceeds _ ih => rw [proceeds.heard off ih mine, Receiver.append_append]
  | proceed _ proceeds _ ih => rw [proceeds.heard off ih mine, Receiver.append_append]

end Receivers

/-! ## What a change is -/

/-- No identifier is given out, no device goes and no session goes on. -/
structure Still (scope : Scope) (c c' : Core) : Prop where
  silent : ¬ scope.sessions
  known : c'.nextId = c.nextId
  there : ∀ id, (c'.devices id).isSome = (c.devices id).isSome

/-- **A change is a deed, or it follows by itself**: devices come and go while nobody is being
notified, or they do not at all. -/
theorem Change.unfolds (change : Change shut scope c s c') (left : c.isQuiet ∨ Still scope c c')
    (id : DeviceId) : ∃ ds es, Unfolds scope.roster id c ds es c' := by
  have deed {deed : Deed} (does : c.Does deed c') : ∃ ds es, Unfolds scope.roster id c ds es c' :=
    ⟨_, _, .of_does does⟩
  have follows (change : Change shut (.inward scope.roster) c s c') (known : c'.nextId = c.nextId)
      (there : ∀ id, (c'.devices id).isSome = (c.devices id).isSome) :
      ∃ ds es, Unfolds scope.roster id c ds es c' :=
    Unfolds.of_proceeds ⟨change, there, .inl known⟩
  have same {j : DeviceId} {d : Device} (e : Device) (found : c.devices j = some d) (i : DeviceId) :
      (update c.devices j (some e) i).isSome = (c.devices i).isSome := by
    rw [Function.update_apply]
    split
    · next same => rw [same, found]; rfl
    · rfl
  cases change with
  | create path g t =>
    rcases left with quiet | still
    · exact deed (.create path g t quiet)
    · exact absurd still.known (Nat.succ_ne_self _)
  | destroy j =>
    rcases left with quiet | still
    · exact deed (.destroy j quiet)
    · exact follows (.destroy j) rfl still.there
  | startRun j d found first =>
    rcases left with quiet | still
    · exact deed (.start j d quiet found first)
    · exact absurd still.known (Nat.succ_ne_self _)
  | session j d t found allowed =>
    rcases left with quiet | still
    · exact deed (.session j d t quiet found)
    · exact absurd allowed still.silent
  | findPower run j d on quiet found rising => exact deed (.power run j d on quiet found rising)
  | summon j d quiet found => exact deed (.summon j d quiet found)
  | edit j d e es ds next quiet found edit up =>
    obtain ⟨t, learns⟩ := edit.learn
    exact deed (.tell j d e es ds t next quiet found edit learns up)
  | requestUnheard _ _ _ lawful | request _ _ _ _ _ lawful => exact lawful.elim
  | enlist name => exact Unfolds.of_proceeds ⟨.enlist name, fun _ => rfl, .inr rfl⟩
  | cancel name i found => exact follows (.cancel name i found) rfl fun _ => rfl
  | receivers rs kept noNews =>
    exact follows (.receivers rs kept noNews) rfl fun _ => rfl
  | reported => exact follows .reported rfl fun _ => rfl
  | endRuns t fewer => exact follows (.endRuns t fewer) rfl fun _ => rfl
  | comeUp run j found => exact follows (.comeUp run j found) rfl fun _ => rfl
  | defer ds quiet pursuits => exact follows (.defer ds quiet pursuits) rfl fun _ => rfl
  | heardByAll n ds next => exact follows (.heardByAll n ds next trivial) rfl fun _ => rfl
  | watched n w ls ds ws next watch =>
    exact follows (.watched n w ls ds ws next watch trivial) rfl fun _ => rfl
  | turn duty ds ws next isWatch watch =>
    exact follows (.turn duty ds ws next isWatch watch) rfl fun _ => rfl
  | unmoved n j ls ds next deaf =>
    exact follows (.unmoved n j ls ds next deaf trivial) rfl fun _ => rfl
  | moved n j ls ds d e next found hears =>
    exact follows (.moved n j ls ds d e next found hears trivial) rfl (same e found)
  | late duty j ds next about gone => exact follows (.late duty j ds next about gone) rfl fun _ => rfl
  | decide j d ds usable next found decided =>
    exact follows (.decide j d ds usable next found decided) rfl (same _ found)
  | concede j d ds next found lacks due =>
    exact follows (.concede j d ds next found lacks due) rfl fun _ => rfl
  | turnedDown j d ds name why next found lacks due refused =>
    exact follows (.turnedDown j d ds name why next found lacks due refused) rfl (same _ found)
  | handedIn j d ds name lives next found lacks due accepted living =>
    exact follows (.handedIn j d ds name lives next found lacks due accepted living) rfl (same _ found)
  | adopt j d uuid ds next found => exact follows (.adopt j d uuid ds next found) rfl (same _ found)
  | conclude j d ds next found => exact follows (.conclude j d ds next found) rfl (same _ found)

/-- As long as no discovery goes on nobody comes to be notified, unless somebody asks the registry for
something. -/
theorem Change.quiet (change : Change shut scope c s c') (aside : ∀ id, ¬ scope.discovery id)
    (quiet : c.isQuiet) : c'.isQuiet := by
  have busy {duty : Duty} {ds : List Duty} (next : c.agenda = duty :: ds) : duty.isPursuit := by
    rw [isQuiet, next] at quiet
    exact (Bool.and_eq_true_iff.1 quiet).1
  cases change with
  | create | destroy | enlist | cancel | receivers | reported | startRun | endRuns | comeUp | session
  | findPower => exact quiet
  | defer ds _ pursuits => exact pursuits
  | summon j _ _ _ allowed => exact absurd allowed (aside j)
  | edit j _ _ _ _ _ _ _ _ _ allowed => exact absurd allowed (aside j)
  | requestUnheard _ _ _ lawful | request _ _ _ _ _ lawful => exact lawful.elim
  | heardByAll _ _ next | watched _ _ _ _ _ next | unmoved _ _ _ _ next | moved _ _ _ _ _ _ next
  | decide _ _ _ _ next | concede _ _ _ next | turnedDown _ _ _ _ _ next | handedIn _ _ _ _ _ next
  | adopt _ _ _ _ next | conclude _ _ _ next => exact absurd (busy next) (by simp [Duty.isPursuit])
  | turn duty ds ws next isWatch =>
    obtain ⟨run, rfl⟩ := Duty.eq_of_isPursuit (busy next)
    exact absurd isWatch Bool.false_ne_true
  | late duty j ds next about =>
    have pursuit := busy next
    rcases about with rfl | ⟨u, rfl⟩ | rfl <;> exact absurd pursuit (by simp [Duty.isPursuit])

/-- Any number of changes are deeds and what follows by itself, if nobody is being notified and no
discovery goes on. -/
theorem Changes.unfolds_of_quiet (changes : Changes shut scope c c') (aside : ∀ id, ¬ scope.discovery id)
    (quiet : c.isQuiet) (id : DeviceId) :
    c'.isQuiet ∧ ∃ ds es, Unfolds scope.roster id c ds es c' := by
  induction changes with
  | refl => exact ⟨quiet, _, _, .refl⟩
  | tail _ change ih =>
    obtain ⟨quiet, ds, es, run⟩ := ih
    obtain ⟨ds', es', last⟩ := change.unfolds (.inl quiet) id
    exact ⟨change.quiet aside quiet, _, _, run.trans last⟩

/-- What each change keeps in which no identifier is given out, no device goes and no session goes on
is kept by any number of changes of which the same can be said together. -/
theorem Changes.still_induction {P : Core → Prop} (changes : Changes shut scope c c') (upkeep : c.Upkeep)
    (still : Still scope c c') (start : P c)
    (next : ∀ c₁ c₂, Change shut scope c₁ none c₂ → c₁.Upkeep → Still scope c₁ c₂ → P c₁ → P c₂) : P c' := by
  induction changes with
  | refl => exact start
  | @tail c₁ c₂ changes change ih =>
    have steps : Steps shut c c₁ := Changes.steps changes
    have upkeep₁ := steps.upkeep upkeep
    -- identifiers are never taken back, so none is given out on the way
    have known : c₁.nextId = c.nextId := by
      refine Nat.le_antisymm ?_ steps.runs.nextId_le
      rw [← still.known]
      exact change.step.nextId_le
    have there (j : DeviceId) : (c₁.devices j).isSome = (c.devices j).isSome := by
      rw [Bool.eq_iff_iff]
      constructor
      · intro there
        obtain ⟨e, found⟩ := Option.isSome_iff_exists.1 there
        have old : j < c.nextId := known ▸ upkeep₁.known j e found
        obtain ⟨d, before⟩ := steps.runs.alive old found
        exact Option.isSome_of_eq_some before
      · intro before
        rw [← still.there] at before
        obtain ⟨e, found⟩ := Option.isSome_iff_exists.1 before
        have old : j < c₁.nextId := by
          rw [known, ← still.known]
          exact (change.step.upkeep upkeep₁).known j e found
        obtain ⟨d, found⟩ := change.step.alive old found
        exact Option.isSome_of_eq_some found
    have last : Still scope c₁ c₂ :=
      ⟨still.silent, still.known.trans known.symm, fun j => (still.there j).trans (there j).symm⟩
    exact next c₁ c₂ change upkeep₁ last (ih ⟨still.silent, known, there⟩)

/-- So they are if no identifier is given out, no device goes and no session goes on. -/
theorem Changes.unfolds_of_still (changes : Changes shut scope c c') (upkeep : c.Upkeep)
    (still : Still scope c c') (id : DeviceId) : ∃ ds es, Unfolds scope.roster id c ds es c' := by
  refine changes.still_induction (P := fun c₁ => ∃ ds es, Unfolds scope.roster id c ds es c₁) upkeep still
    ⟨_, _, .refl⟩ fun c₁ c₂ change _ last unfolds => ?_
  obtain ⟨ds, es, run⟩ := unfolds
  obtain ⟨ds', es', last⟩ := change.unfolds (.inr last) id
  exact ⟨_, _, run.trans last⟩

end Core

/-! ## Runs of a bench -/

namespace Host

variable {h : Host} {duty : Duty}

theorem nextId_setUsable (h : Host) (id : DeviceId) (usable : Bool) :
    (h.setUsable id usable).nextId = h.nextId := by
  rw [setUsable]
  split
  · split <;> rfl
  · rfl

theorem nextId_request (h : Host) (q : Registry.Request) : (h.request q).nextId = h.nextId := by
  rw [request]
  split <;> rfl

theorem nextId_reassess (h : Host) (id : DeviceId) : (h.reassess id).nextId = h.nextId := by
  rw [reassess]
  split
  · split
    · exact nextId_setUsable h id _
    · split
      · rw [provision]
        split <;> exact nextId_request _ _
      · rfl
  · rfl

/-- What is done without a command and without discovery gives no identifier out. -/
theorem nextId_act (h : Host) (noRun : duty.isPursuit = false)
    (noCommand : ∀ w c cs, duty ≠ .perform w (c :: cs)) : (h.act duty).nextId = h.nextId := by
  cases duty with
  | announce n listeners =>
    cases listeners with
    | nil => rfl
    | cons l ls => exact (Bench.hear_spares (h.urge [.announce n ls]) n l).2.2.2
  | react w n rule =>
    simp only [act, react]
    split
    · split <;> rfl
    · rfl
  | perform w cs =>
    cases cs with
    | nil => rfl
    | cons c cs => exact absurd rfl (noCommand w c cs)
  | record w a =>
    simp only [act, record]
    split <;> rfl
  | reassess id => exact nextId_reassess h id
  | adopt id uuid =>
    simp only [act, adopt]
    split <;> rfl
  | conclude id =>
    simp only [act, conclude]
    split
    · exact nextId_setUsable h id _
    · rfl
  | pursue run => exact absurd noRun (by simp [Duty.isPursuit])

/-- The scene shows what discovery knows of the devices that are there. -/
theorem bare_of_scene {h h' : Host} (scene : h'.scene = h.scene) {id : DeviceId} {d : Device}
    (found : h.device? id = some d) : ∃ e, h'.device? id = some e ∧ e.bare = d.bare := by
  have shown := congrFun (congrArg Scene.devices scene) id
  have shown : (h'.device? id).map Device.bare = (h.device? id).map Device.bare := shown
  rw [found, Option.map_some] at shown
  exact Option.map_eq_some_iff.1 shown

/-- So it shows which devices are there. -/
theorem isSome_of_scene {h h' : Host} (scene : h'.scene = h.scene) (id : DeviceId) :
    (h'.device? id).isSome = (h.device? id).isSome := by
  have kept {h h' : Host} (scene : h'.scene = h.scene) (there : (h.device? id).isSome) :
      (h'.device? id).isSome := by
    obtain ⟨d, found⟩ := Option.isSome_iff_exists.1 there
    obtain ⟨e, there, -⟩ := bare_of_scene scene found
    exact Option.isSome_of_eq_some there
  exact Bool.eq_iff_iff.2 ⟨kept scene.symm, kept scene⟩

end Host

namespace Bench

variable {b c c' : Bench} {m : Move} {names : String → Prop}

/-- Everything that can become of a bench, with the deeds that were done in their order and what a
device has said of itself meanwhile. Receivers come and go under some names only. -/
inductive Unfolds (names : String → Prop) (id : DeviceId) (b : Bench) : List Deed → List Event → Bench → Prop
  | refl : Unfolds names id b [] [] b
  | move {ds ds' : List Deed} {es es' : List Event} {c c' : Bench} (m : Move)
      (run : Unfolds names id b ds es c) (made : c.make m = some c')
      (within : ∀ name, (c.scopeOf m).roster name → names name)
      (unfolds : Core.Unfolds (c.scopeOf m).roster id c.host.core ds' es' c'.host.core) :
      Unfolds names id b (ds ++ ds') (es ++ es') c'

theorem Unfolds.core (run : b.Unfolds names id ds es c) :
    Core.Unfolds names id b.host.core ds es c.host.core := by
  induction run with
  | refl => exact .refl
  | move m _ _ within unfolds ih => exact ih.trans (unfolds.mono within)

/-- The runs in which no listener calls back when it is notified: what comes from outside comes when nobody is
being notified, and watchers only record what they hear. Receivers come and go under some names only. -/
inductive Aloof (names : String → Prop) (b : Bench) : Bench → Prop
  | refl : Aloof names b b
  | move {c c' : Bench} (m : Move) (run : Aloof names b c)
      (left : c.host.core.isQuiet ∨ m = .act ∧ c.command? m = none) (made : c.make m = some c')
      (within : ∀ name, (c.scopeOf m).roster name → names name) : Aloof names b c'

theorem Aloof.reaches (run : b.Aloof names c) : Reaches free b c := by
  induction run with
  | refl => exact .refl
  | move m _ _ made _ ih => exact ih.move m (fun _ _ _ => trivial) made

/-- Runs of discovery are gone on with by themselves. -/
theorem still_of_pursued {run : RunId} (made : c.make m = some c') (pursued : c.pursued? m = some run) :
    Core.Still (c.scopeOf m) c.host.core c'.host.core := by
  obtain ⟨ds, -, did⟩ := pursue_of_make made pursued
  have alone : ∃ id, Host.Apart run id (c.host.withAgenda ds) c'.host := by
    rw [did]
    cases running : (c.host.withAgenda ds).run? run with
    | some r => exact ⟨r.device, Host.apart_pursue running⟩
    | none =>
      have same : (c.host.withAgenda ds).pursue run = c.host.withAgenda ds := by
        rw [Host.pursue, running]
      exact ⟨0, by rw [same]; exact .refl _⟩
  obtain ⟨id, apart⟩ := alone
  refine ⟨?_, apart.nextId, apart.there⟩
  rintro ⟨s, rfl, -⟩
  exact absurd pursued (by simp [pursued?])

/-- What is done while no discovery goes on and no watcher gives a command. -/
theorem of_act (made : c.make .act = some c') (noRun : c.pursued? .act = none)
    (noCommand : c.command? .act = none) : ∃ duty ds, c.host.agenda = duty :: ds ∧
      duty.isPursuit = false ∧ (∀ w x xs, duty ≠ .perform w (x :: xs)) ∧
      c'.host = (c.host.withAgenda ds).act duty := by
  rw [make] at made
  split at made
  · next duty ds next =>
    obtain rfl := Option.some.inj made
    refine ⟨duty, ds, next, ?_, ?_, rfl⟩
    · cases duty with
      | pursue run => exact absurd noRun (by simp [pursued?, next])
      | _ => rfl
    · rintro w x xs rfl
      exact absurd noCommand (by simp [command?, next])
  · exact absurd made (by simp)

/-- It is done behind the scene. -/
theorem scene_of_act (made : c.make .act = some c') (noRun : c.pursued? .act = none)
    (noCommand : c.command? .act = none) : c'.host.scene = c.host.scene := by
  obtain ⟨duty, ds, -, run, command, did⟩ := of_act made noRun noCommand
  rw [did]
  exact (c.host.withAgenda ds).scene_act run command

/-- So is what is done while somebody is being notified, as long as no watcher gives a command. -/
theorem still_of_act (made : c.make .act = some c') (noRun : c.pursued? .act = none)
    (noCommand : c.command? .act = none) : Core.Still (c.scopeOf .act) c.host.core c'.host.core := by
  obtain ⟨duty, ds, -, run, command, did⟩ := of_act made noRun noCommand
  refine ⟨?_, ?_, Host.isSome_of_scene (scene_of_act made noRun noCommand)⟩
  · rintro ⟨s, same, -⟩
    exact absurd same (by simp)
  · change c'.host.nextId = c.host.nextId
    rw [did]
    exact (c.host.withAgenda ds).nextId_act run command

/-- **A move in which nobody who is notified calls back** is a number of deeds, and what follows. -/
theorem unfolds_make (reached : Reachable free c) (left : c.host.core.isQuiet ∨ m = .act ∧ c.command? m = none)
    (made : c.make m = some c') (id : DeviceId) :
    ∃ ds es, Core.Unfolds (c.scopeOf m).roster id c.host.core ds es c'.host.core := by
  cases asked : c.request? m with
  | some x =>
    -- somebody asks the registry for something, from outside
    obtain ⟨h, q⟩ := x
    cases m with
    | act =>
      simp only [request?] at asked
      split at asked
      · next w q' cs ds next =>
        rcases left with quiet | ⟨-, noCommand⟩
        · rw [Core.isQuiet, show c.host.core.agenda = _ from next] at quiet
          exact absurd quiet (by simp [Duty.isPursuit])
        · exact absurd noCommand (by simp [command?, next])
      · exact absurd asked (by simp)
    | step s =>
      obtain ⟨-, made⟩ := Option.ite_none_right_eq_some.1 made
      obtain rfl := Option.some.inj made
      have quiet : c.host.core.isQuiet := left.resolve_right (by simp)
      cases s with
      | command x =>
        cases x with
        | request q' =>
          change ∃ ds es, Core.Unfolds _ id c.host.core ds es (c.host.request q').core
          rw [Host.request]
          rcases handled : c.host.registry.handle q' with ⟨r, n⟩
          cases n with
          | none => exact ⟨_, _, .of_does (.requestUnheard q' r quiet handled)⟩
          | some n =>
            exact ⟨_, _, .of_does (.request q' r n ({ c.host with registry := r } : Host).listenerLives
              quiet handled fun _ => rfl)⟩
        | _ => exact absurd asked (by simp [request?])
      | _ => exact absurd asked (by simp [request?])
    | poll | follow | report => exact absurd asked (by simp [request?])
  | none =>
    cases pursued : c.pursued? m with
    | some run =>
      have still := still_of_pursued made pursued
      rcases reached.changes_unasked asked made with changes | ⟨-, s, change⟩
      · exact changes.unfolds_of_still reached.upkeep still id
      · exact change.unfolds (.inr still) id
    | none =>
      have aside (j : DeviceId) : ¬ (c.scopeOf m).discovery j := by
        rintro ⟨run, r, going, -⟩
        exact absurd (pursued.symm.trans going) (by simp)
      rcases reached.changes_unasked asked made with changes | ⟨rfl, s, change⟩
      · rcases left with quiet | ⟨rfl, noCommand⟩
        · exact (changes.unfolds_of_quiet aside quiet id).2
        · exact changes.unfolds_of_still reached.upkeep (still_of_act made pursued noCommand) id
      · rcases left with quiet | ⟨-, noCommand⟩
        · exact change.unfolds (.inl quiet) id
        · exact change.unfolds (.inr (still_of_act made pursued noCommand)) id

/-- **Every run in which nobody who is notified calls back is told by its deeds.** -/
theorem Aloof.unfolds (reached : Reachable free b) (run : b.Aloof names c) (id : DeviceId) :
    ∃ ds es, b.Unfolds names id ds es c := by
  induction run with
  | refl => exact ⟨_, _, .refl⟩
  | move m run left made within ih =>
    obtain ⟨ds, es, unfolds⟩ := ih
    obtain ⟨ds', es', last⟩ := unfolds_make (reached.trans run.reaches) left made id
    exact ⟨_, _, unfolds.move m made within last⟩

end Bench

end Piconet
