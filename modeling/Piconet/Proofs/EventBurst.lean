import Piconet.Proofs.Deeds
import Piconet.Proofs.Initialization
import Piconet.Proofs.Merging
import Piconet.Proofs.DeviceSlice
import Piconet.Proofs.UsabilityChanges

/-!
# One burst of events for each step

Something comes in from outside: a batch of properties, a change of an adapter's power, a request to
the registry. What follows goes on by itself until nobody is being notified any longer, if no watcher
calls back (`Bench.Subsides`). All that a device says of it is said at once: one event for each
property that has come to differ, in a fixed order, and whether it is usable comes last
(`Device.burst`).

Other properties are settled before anything follows. Whether the device is usable is settled once:
what comes in stirs the device once at most, and nothing that follows stirs it again
(`Core.Change.stirring_le`).
-/

namespace Piconet

open Function (update)
open Bench (free shut)

variable {scope : Core.Scope} {c c' : Core} {s : Option (DeviceId × Profile)} {id : DeviceId}
  {d e x : Device} {name : String} {r : Receiver}

/-! ## What a device says when it has changed -/

namespace Device

/-- What a device says when it has changed into another: what has become of each property whose event
is not what it was, in the order of the properties. -/
def burst (d e : Device) : List Event :=
  Property.all.filterMap fun p => if d.event? p = e.event? p then none else e.event? p

/-- How the first reading of its properties ends discovery of a device, if it does: an adapter has to be
named where one is needed. -/
def ending (d : Device) (batch : PropertyBatch) : List Event :=
  if d.generation.requiresAdapter && batch.adapter.isNone then [.initialized false] else []

/-- Two records show the same of every property that is published, but for their usability. -/
def Resembles (d e : Device) : Prop := ∀ p, p ≠ .usable → d.event? p = e.event? p

theorem resembles_of_bare (same : e.bare = d.bare) : d.Resembles e := by
  have address : e.address = d.address := (congrArg Device.address same :)
  have name : e.name = d.name := (congrArg Device.name same :)
  have rssi : e.rssi = d.rssi := (congrArg Device.rssi same :)
  have capabilities : e.capabilities = d.capabilities := (congrArg Device.capabilities same :)
  have connected : e.connected = d.connected := (congrArg Device.connected same :)
  intro p other
  cases p with
  | usable => exact absurd rfl other
  | _ => simp only [event?, address, name, rssi, capabilities, connected]

theorem Resembles.trans (first : d.Resembles x) (second : x.Resembles e) : d.Resembles e :=
  fun p other => (first p other).trans (second p other)

/-- The events that the changes of a device are reported with. -/
theorem eventsFor_changes (d e : Device) : e.eventsFor (d.changes e) = d.burst e := by
  rw [eventsFor, Changes.toList, List.filterMap_filter, burst]
  refine List.filterMap_congr fun p _ => ?_
  have changed := has_changes d e p
  by_cases same : d.event? p = e.event? p
  · rw [if_pos same, if_neg fun has => changed.1 has same]
  · rw [if_neg same, if_pos (changed.2 same)]

/-- A device that changes its mind at most once says so at most once. -/
theorem remark_append (settled : x.usable = d.usable ∨ e.usable = x.usable) :
    d.remark x.usable ++ x.remark e.usable = d.remark e.usable := by
  rcases settled with same | same
  · rw [remark, if_pos same.symm, List.nil_append, remark, remark, same]
  · rw [same, remark, remark, if_pos rfl, List.append_nil]

/-- Whether it is usable a device says last. -/
theorem burst_eq_append (d e : Device) :
    d.burst e = d.burst { e with usable := d.usable } ++ d.remark e.usable := by
  have all : Property.all = [.address, .name, .rssi, .capabilities, .connected] ++ [.usable] := rfl
  have last : ([.usable] : List Property).filterMap
      (fun p => if d.event? p = e.event? p then none else e.event? p) = d.remark e.usable := by
    by_cases same : d.usable = e.usable <;> simp [event?, remark, same]
  have silent : ([.usable] : List Property).filterMap (fun p =>
      if d.event? p = ({ e with usable := d.usable } : Device).event? p then none
      else ({ e with usable := d.usable } : Device).event? p) = [] := by
    simp [event?]
  rw [burst, burst, all, List.filterMap_append, List.filterMap_append, last, silent, List.append_nil]
  rfl

/-- A device says the same of two that nobody can tell apart. -/
theorem burst_congr (alike : x.Resembles e) (usable : x.usable = e.usable) : d.burst x = d.burst e := by
  refine List.filterMap_congr fun p _ => ?_
  have same : x.event? p = e.event? p := by
    by_cases other : p = .usable
    · rw [other, event?, event?, usable]
    · exact alike p other
  rw [same]

/-- What is told of a device at once, and whether it is usable when that is settled, make one burst. -/
theorem burst_append_remark (alike : x.Resembles e) (usable : x.usable = d.usable) :
    d.burst x ++ x.remark e.usable = d.burst e := by
  have first : d.burst x = d.burst { e with usable := d.usable } := by
    refine burst_congr (alike.trans fun p other => ?_) usable
    cases p with
    | usable => exact absurd rfl other
    | _ => rfl
  rw [d.burst_eq_append e, first, remark, remark, usable]

/-- Whether it is usable a device finds out later. -/
theorem usable_takeIn (d : Device) (stored : List Profile) (u : Update) :
    (d.takeIn stored u).usable = d.usable := by
  cases u with
  | power on => rfl
  | properties batch =>
    rw [takeIn]
    split
    · rw [survey_eq]
      rfl
    · rfl

/-- The first reading is there for everyone to see, and changes nothing else for the moment. -/
theorem takeFirst_alike (d : Device) (stored : List Profile) (batch : PropertyBatch) :
    (d.merge batch).Resembles (d.takeFirst stored batch) ∧ (d.takeFirst stored batch).usable = d.usable ∧
      (d.takeFirst stored batch).initialized = d.initialized := by
  rw [takeFirst, survey_eq]
  refine ⟨fun p _ => ?_, rfl, rfl⟩
  cases p <;> rfl

/-- Discovery that fails leaves no trace on what a device shows. -/
theorem endDiscovery_alike (d : Device) :
    d.Resembles (d.endDiscovery false) ∧ (d.endDiscovery false).usable = d.usable ∧
      (d.endDiscovery false).initialized = d.initialized := by
  rw [endDiscovery]
  split
  · exact ⟨fun _ _ => rfl, rfl, rfl⟩
  · refine ⟨fun p _ => ?_, rfl, Bool.or_false _⟩
    cases p <;> rfl

theorem burst_of_resembles (alike : d.Resembles e) : d.burst e = d.remark e.usable := by
  have same : d.burst d = [] := List.filterMap_eq_nil_iff.2 fun p _ => if_pos rfl
  rw [← burst_append_remark alike rfl, same, List.nil_append]

end Device

/-! ## What follows by itself -/

namespace Core

/-- What goes on while nobody asks the registry for anything, no discovery and no session goes on and
receivers stay where they are follows by itself. -/
theorem Change.proceeds (change : Change shut scope c s c') (aside : ∀ j, ¬ scope.discovery j)
    (off : ∀ name, ¬ scope.roster name) (still : Still scope c c') :
    Proceeds (fun _ => False) c s c' where
  change := change.mono (fun _ _ none => none)
    ⟨still.silent, off, aside, fun _ => trivial⟩
  there := still.there
  known := .inl still.known

/-- The receiver of a name was told what a device makes of it that it is usable or not. Either it has
not changed its mind yet, or there is nothing left that could make it do so again. -/
structure Minds (name : String) (r : Receiver) (id : DeviceId) (d : Device) (c : Core) : Prop where
  layered : Layered c.devices c.agenda
  device : ∃ x, c.devices id = some x ∧ stirring id x c.agenda ≤ 1 ∧
    (x.usable = d.usable ∨ stirring id x c.agenda = 0) ∧
    c.receivers.find? (·.name = name) = some (r.append (d.remark x.usable))

/-- **A device changes its mind once at most**, step by step. -/
theorem Proceeds.minds (proceeds : Proceeds (fun _ => False) c s c') (minds : c.Minds name r id d)
    (upkeep : c.Upkeep) (once : c.Once) (mine : r.device = id)
    (foreign : ∀ x, c.devices id = some x → ∀ j p, s = some (j, p) → j ≠ id → x.accepts p = false) :
    c'.Minds name r id d := by
  obtain ⟨layered, x, found, few, settled, told⟩ := minds
  have change := proceeds.change
  have there := (proceeds.there id).trans (Option.isSome_of_eq_some found)
  obtain ⟨e, there⟩ := Option.isSome_iff_exists.1 there
  have weaker : Core.Step Bench.orderly c s c' := change.step.weaken fun _ _ none => none.elim
  have fewer := change.stirring_le not_false (upkeep.known id x found) layered once found there
    (foreign x found)
  have heard := proceeds.heard not_false told mine
  rw [remarked, found, there] at heard
  refine ⟨weaker.layered upkeep layered, e, there, by omega, ?_, ?_⟩
  · by_cases same : e.usable = x.usable
    · rw [if_pos same] at fewer
      exact settled.imp same.trans fun none => by omega
    · -- it changes its mind now, so what there was to stir it is used up
      rw [if_neg same] at fewer
      exact .inr (by omega)
  · rw [heard, Receiver.append_append, Device.remark_append]
    exact settled.imp_right fun none => by_contra fun other => by rw [if_neg other] at fewer; omega

end Core

/-! ## What comes in -/

namespace Host

/-- An update is told of at once, and has the device assessed. -/
theorem takeIn_told (h : Host) (id : DeviceId) (d : Device) (u : Update) :
    (h.takeIn id d u).agenda = .reassess id :: h.agenda ∧
      (h.takeIn id d u).receivers = tell id (d.burst (d.amend u)) h.receivers := by
  cases u with
  | power on =>
    have silent : d.burst (d.amend (.power on)) = [] := by
      rw [Device.burst_of_resembles fun p _ => by cases p <;> rfl]
      exact if_pos rfl
    rw [silent]
    exact ⟨rfl, rfl⟩
  | properties batch =>
    rw [takeIn, applyBatch]
    simp only [emitAll_eq, Device.eventsFor_changes]
    exact ⟨rfl, rfl⟩

/-- A failure is told of at once, the first time, and has the device assessed. -/
theorem abandon_told {h : Host} (run : RunId) {r : Run} (found : h.device? r.device = some d)
    (first : d.reported = false) :
    (h.abandon run r).agenda = .reassess r.device :: h.agenda ∧
      (h.abandon run r).receivers = tell r.device [.initialized false] h.receivers := by
  have found' : (h.endRun run).device? r.device = some d := found
  simp only [abandon, report, found', first]
  exact ⟨rfl, rfl⟩

/-- The first reading of its properties is told of at once, and has the device assessed. If it names no
adapter where one is needed, discovery has failed, which is told as well. -/
theorem fetched_told {h : Host} (run : RunId) {r : Run} (found : h.device? r.device = some d)
    (first : d.reported = false) (batch : PropertyBatch) :
    (∃ ds, ds.all Duty.isPursuit ∧
      (h.fetched run r d batch).agenda = .reassess r.device :: (ds ++ h.agenda)) ∧
      (h.fetched run r d batch).receivers =
        tell r.device (d.burst (d.merge batch) ++ d.ending batch) h.receivers := by
  rw [fetched, Device.ending, emitAll_eq, Device.eventsFor_changes]
  cases requires : d.generation.requiresAdapter with
  | false =>
    simp only [Bool.false_eq_true, if_false, Bool.false_and, List.append_nil]
    exact ⟨⟨[.pursue run], rfl, rfl⟩, rfl⟩
  | true =>
    cases named : batch.adapter with
    | some adapter =>
      simp only [if_true, Bool.true_and, Option.isNone_some, Bool.false_eq_true, if_false, List.append_nil]
      exact ⟨⟨[.pursue run], rfl, rfl⟩, rfl⟩
    | none =>
      simp only [if_true, Bool.true_and, Option.isNone_none]
      have told : ({ h with receivers := tell r.device (d.burst (d.merge batch)) h.receivers } : Host).device?
          r.device = some d := found
      have same : ((d.merge batch).survey h.registry.profiles).reported = false := by
        rw [Device.survey_eq]
        exact first
      obtain ⟨agenda, receivers⟩ := abandon_told run (device?_setDevice_self told
        { (d.merge batch).survey h.registry.profiles with bound := true }) same
      rw [tell_append]
      exact ⟨⟨[], rfl, agenda⟩, receivers⟩

end Host

namespace Bench

variable {b b' c c' : Bench} {m : Move}

/-- The runs in which a bench goes on by itself while somebody is being notified, as long as no watcher calls
back. They end when nobody is being notified any longer. -/
inductive Subsides (c : Bench) : Bench → Prop
  | refl : Subsides c c
  | act {c₁ c₂ : Bench} (run : Subsides c c₁) (busy : c₁.host.core.isQuiet = false)
      (calm : c₁.command? .act = none) (made : c₁.make .act = some c₂) : Subsides c c₂

namespace Subsides

theorem reaches (run : c.Subsides b') : Reaches free c b' := by
  induction run with
  | refl => exact .refl
  | act _ _ _ made ih => exact ih.move .act (fun _ _ _ => trivial) made

theorem trans (first : b.Subsides c) (second : c.Subsides b') : b.Subsides b' := by
  induction second with
  | refl => exact first
  | act _ busy calm made ih => exact ih.act busy calm made

end Subsides

/-- **It does come to an end**, unless a watcher has something to say. -/
theorem exists_subsides (c : Bench) :
    ∃ b', c.Subsides b' ∧ (b'.host.core.isQuiet ∨ (b'.command? .act).isSome) := by
  cases next : c.host.agenda with
  | nil => exact ⟨c, .refl, .inl (by rw [Core.isQuiet, show c.host.core.agenda = _ from next]; rfl)⟩
  | cons duty ds =>
    by_cases quiet : c.host.core.isQuiet
    · exact ⟨c, .refl, .inl quiet⟩
    cases calm : c.command? .act with
    | some command => exact ⟨c, .refl, .inr (by rw [calm]; rfl)⟩
    | none =>
      have made : c.make .act = some (c.onHost fun h => (h.withAgenda ds).act duty) := by
        rw [make, next]
      obtain ⟨b', run, ended⟩ := exists_subsides (c.onHost fun h => (h.withAgenda ds).act duty)
      exact ⟨b', (Subsides.refl.act (Bool.eq_false_iff.2 quiet) calm made).trans run, ended⟩
termination_by (c.host.credit, c.host.effort, c.host.chores)
decreasing_by exact (Host.nearer_act next).lex

/-- What has become of a bench by itself after a number of duties, or when that has come to an end. -/
def subside (c : Bench) : Nat → Bench
  | 0 => c
  | n + 1 =>
    if c.host.core.isQuiet || (c.command? .act).isSome then c
    else (c.make .act).elim c fun c' => c'.subside n

theorem subsides_subside (c : Bench) (n : Nat) : c.Subsides (c.subside n) := by
  induction n generalizing c with
  | zero => exact .refl
  | succ n ih =>
    rw [subside]
    split
    · exact .refl
    · next goesOn =>
      obtain ⟨busy, calm⟩ : c.host.core.isQuiet = false ∧ c.command? .act = none := by
        simpa using goesOn
      cases made : c.make .act with
      | none => exact .refl
      | some c' => exact (Subsides.refl.act busy calm made).trans (ih c')

/-- Where no watcher calls back nobody asks the registry for anything. -/
theorem unasked_of_calm (calm : c.command? .act = none) : c.request? .act = none := by
  rw [request?]
  split
  · next w q xs ds agenda => exact absurd calm (by simp [command?, agenda])
  · rfl

/-- While somebody is being notified no discovery goes on. -/
theorem not_pursued (reached : Reachable free c) (busy : c.host.core.isQuiet = false)
    (made : c.make .act = some c') : c.pursued? .act = none :=
  Option.eq_none_iff_forall_ne_some.2 fun _ going =>
    absurd (quiet_of_pursued reached made going) (by simp [busy])

/-- **What follows by itself** is a number of changes that follow by themselves, in the last of which a
device may submit a profile. -/
theorem act_induction {P : Core → Prop} (reached : Reachable free c) (busy : c.host.core.isQuiet = false)
    (calm : c.command? .act = none) (made : c.make .act = some c') (start : P c.host.core)
    (next : ∀ c₁ s c₂, Core.Proceeds (fun _ => False) c₁ s c₂ → c₁.Upkeep →
      (∀ j p, s = some (j, p) → Submits j p c c' ∧ c₁ = c.host.core) → P c₁ → P c₂) : P c'.host.core := by
  have noRun := not_pursued reached busy made
  have still := still_of_act made noRun calm
  have aside (j : DeviceId) : ¬ (c.scopeOf .act).discovery j := by
    rintro ⟨run, r, going, -⟩
    exact absurd (noRun.symm.trans going) (by simp)
  have off (name : String) : ¬ (c.scopeOf .act).roster name := by
    rintro (same | listed)
    · exact absurd same (by simp)
    · rw [receiver?] at listed
      split at listed
      · next w x xs ds agenda => exact absurd calm (by simp [command?, agenda])
      · exact absurd listed (by simp)
  rcases reached.changes_unasked (unasked_of_calm calm) made with changes | ⟨-, s, change⟩
  · exact changes.still_induction reached.upkeep still start fun c₁ c₂ change upkeep last holds =>
      next c₁ none c₂ (change.proceeds aside off last) upkeep (by simp) holds
  · refine next _ s _ (change.proceeds aside off still) reached.upkeep (fun j p submits => ⟨?_, rfl⟩) start
    subst submits
    obtain ⟨head, noted, -⟩ := change.step.submits
    exact ⟨head, made, noted⟩

/-- While things go on by themselves no other device submits a profile that the device accepts. -/
def Unrivalled (id : DeviceId) (c : Bench) : Prop :=
  ∀ c₁ c₂ j p, c.Subsides c₁ → Submits j p c₁ c₂ → j ≠ id →
    ∀ x, c₁.host.device? id = some x → x.accepts p = false

namespace Subsides

/-- The scene stays as it is. -/
theorem scene (reached : Reachable free c) (run : c.Subsides b') : b'.host.scene = c.host.scene := by
  induction run with
  | refl => rfl
  | act run busy calm made ih =>
    have noRun := not_pursued (reached.trans run.reaches) busy made
    exact (scene_of_act made noRun calm).trans ih

theorem minds (reached : Reachable free c) (unrivalled : c.Unrivalled id) (mine : r.device = id)
    (minds : c.host.core.Minds name r id d) (run : c.Subsides b') : b'.host.core.Minds name r id d := by
  induction run with
  | refl => exact minds
  | @act c₁ c₂ run busy calm made ih =>
    have reached₁ := reached.trans run.reaches
    suffices both : c₂.host.core.Once ∧ c₂.host.core.Minds name r id d from both.2
    refine act_induction (P := fun c => c.Once ∧ c.Minds name r id d) reached₁ busy calm made
      ⟨reached₁.once, ih⟩ fun x s y proceeds upkeep handsIn holds => ?_
    refine ⟨proceeds.change.step.once holds.1, proceeds.minds holds.2 upkeep holds.1 mine ?_⟩
    intro d found j p same other
    obtain ⟨submits, rfl⟩ := handsIn j p same
    exact unrivalled c₁ c₂ j p run submits other d found

end Subsides

/-- Where nobody else has reason to submit a profile nobody does. -/
theorem unrivalled_of_sole (reached : Reachable free c) (sole : c.host.core.Sole id) : c.Unrivalled id := by
  intro c₁ c₂ j p run submits other
  have sole₁ : c₁.host.core.Sole id := by
    clear submits
    induction run with
    | refl => exact sole
    | act run busy calm made ih =>
      exact act_induction (P := fun c => c.Sole id) (reached.trans run.reaches) busy calm made ih
        fun x s y proceeds upkeep _ sole => proceeds.change.sole (fun _ => not_false) sole upkeep
  obtain ⟨head, -, d, e, found, -, may, -⟩ := (submits.step (reached.trans run.reaches)).submits
  have due : .reassess j ∈ c₁.host.core.agenda := List.mem_of_mem_head? head
  exact absurd may.alone (sole₁.matched j other due d found)

/-- Neither does anybody submit a profile for the device's address who has another one. -/
theorem unrivalled_of_address (reached : Reachable free c) (found : c.host.device? id = some d)
    (alone : ∀ j y, j ≠ id → c.host.device? j = some y → y.binAddress ≠ d.binAddress) : c.Unrivalled id := by
  intro c₁ c₂ j p run submits other x there
  -- addresses are part of the scene
  have kept {i : DeviceId} {y : Device} (there : c₁.host.device? i = some y) :
      ∃ z, c.host.device? i = some z ∧ z.binAddress = y.binAddress := by
    obtain ⟨z, before, same⟩ := Host.bare_of_scene (run.scene reached).symm there
    have address : z.address = y.address := (congrArg Device.address same :)
    exact ⟨z, before, by rw [Device.binAddress, Device.binAddress, address]⟩
  obtain ⟨-, -, y, e, found', -, may, -⟩ := (submits.step (reached.trans run.reaches)).submits
  obtain ⟨z, before, same⟩ := kept found'
  obtain ⟨d', before', same'⟩ := kept there
  obtain rfl := Option.some.inj (found.symm.trans before')
  obtain ⟨a, known, bound⟩ := may.address
  refine Bool.eq_false_iff.2 fun accepts => alone j z other before ?_
  obtain ⟨-, -, bt, about, address, -⟩ := Device.accepts_iff.1 accepts
  obtain rfl := Option.some.inj (bound.symm.trans about)
  have bytes : y.binAddress = a.bytes := by rw [Device.binAddress, known]
  rw [same, same', bytes]
  exact HwAddress.toList_injective address

/-! ## What is published -/

/-- From one bench to another a device comes to a record that resembles the one given, and its receivers get the
events that are given in terms of the record that it has come to. -/
def Publishes (id : DeviceId) (x : Device) (news : Device → List Event) (b b' : Bench) : Prop :=
  ∃ e, b'.host.device? id = some e ∧ x.Resembles e ∧
    ∀ name r, b.host.receiver? name = some r → r.device = id →
      b'.host.receiver? name = some (r.append (news e))

/-- **Whatever follows by itself** has a device say whether it is usable, if that has changed, and
nothing else; as long as nothing but one duty stirs it and nobody submits a profile in its stead. -/
theorem Subsides.publishes (reached : Reachable free c) (run : c.Subsides b')
    (layered : Layered c.host.core.devices c.host.core.agenda) (found : c.host.device? id = some x)
    (few : stirring id x c.host.agenda ≤ 1) (unrivalled : c.Unrivalled id) :
    c.Publishes id x (fun e => x.remark e.usable) b' := by
  obtain ⟨e, there, same⟩ := Host.bare_of_scene (run.scene reached) found
  refine ⟨e, there, Device.resembles_of_bare same, fun name r told mine => ?_⟩
  have silent : c.host.core.receivers.find? (·.name = name) = some (r.append (x.remark x.usable)) := by
    rw [Device.remark, if_pos rfl, r.append_nil]
    exact told
  have minds : c.host.core.Minds name r id x := ⟨layered, x, found, few, .inl rfl, silent⟩
  obtain ⟨-, e', there', -, -, told'⟩ := run.minds reached unrivalled mine minds
  obtain rfl := Option.some.inj (there.symm.trans there')
  exact told'

/-- What is told at once is told together with what follows by itself. -/
theorem Publishes.of_told {es : List Event} {news : Device → List Event}
    (follows : c.Publishes id x (fun e => x.remark e.usable) b')
    (told : c.host.receivers = tell id es b.host.receivers) (alike : d.Resembles x)
    (all : ∀ e, b'.host.device? id = some e → x.Resembles e → es ++ x.remark e.usable = news e) :
    b.Publishes id d news b' := by
  obtain ⟨e, there, alike', told'⟩ := follows
  refine ⟨e, there, alike.trans alike', fun name r kept mine => ?_⟩
  have first : c.host.receiver? name = some (r.append es) := by
    rw [Host.receiver?, told, find?_tell, show b.host.receivers.find? (·.name = name) = some r from kept,
      Option.map_some, if_pos mine]
  rw [told' name _ first mine, Receiver.append_append, all e there alike']

/-! ### Updates -/

/-- A device that is up takes an update in. -/
theorem takes_of_taken {u : Update} (reached : Reachable free b) (made : b.make m = some c)
    (found : b.host.device? id = some d) (taken : b.taken? id m = some u) :
    c.host.device? id = some (d.takeIn b.host.registry.profiles u) ∧
      (∃ ds, ds.all Duty.isPursuit ∧ c.host.agenda = .reassess id :: ds) ∧
      c.host.receivers = tell id (d.burst (d.amend u)) b.host.receivers := by
  obtain ⟨run, pursued, rest⟩ := Option.bind_eq_some_iff.1 taken
  obtain ⟨r, running, took⟩ := Option.bind_eq_some_iff.1 rest
  obtain ⟨⟨rfl, phase⟩, first⟩ := Option.ite_none_right_eq_some.1 took
  obtain ⟨⟨u', r'⟩, next, rfl⟩ := Option.map_eq_some_iff.1 first
  obtain ⟨ds, fewer, did⟩ := pursue_of_make made pursued
  have quiet := quiet_of_pursued reached made pursued
  have running' : (b.host.withAgenda ds).run? run = some r := running
  have found' : (b.host.withAgenda ds).device? r.device = some d := found
  have follows : (b.host.withAgenda ds).pursue run = (b.host.withAgenda ds).followOn run r d := by
    simp only [Host.pursue, running', found', phase]
  rw [follows] at did
  have there : ((b.host.withAgenda ds).followOn run r d).device? r.device =
      some ((r.next?.map (·.1)).elim d (d.takeIn b.host.registry.profiles)) := Host.device?_followOn found'
  rw [next, ← did] at there
  have device : r'.device = r.device := congrArg Standing.device (Run.takes_of_next? next).standing
  have took : c.host = (((b.host.withAgenda ds).setRun run r').urge [.pursue run]).takeIn r.device d u' := by
    rw [did, Host.followOn, next, ← device]
  obtain ⟨agenda, receivers⟩ :=
    (((b.host.withAgenda ds).setRun run r').urge [.pursue run]).takeIn_told r.device d u'
  rw [took]
  have pursuits : ds.all Duty.isPursuit :=
    List.all_eq_true.2 fun duty mem => List.all_eq_true.1 quiet duty (fewer mem)
  exact ⟨took ▸ there, ⟨.pursue run :: ds, by rw [List.all_cons, pursuits]; rfl, agenda⟩, receivers⟩

/-! ### The first reading -/

/-- A device that is being brought up has not said yet how that went, and is neither up nor usable. -/
theorem dark_of_rising {run : RunId} {r : Run} {stage : Stage} {progress : Progress} (reached : Reachable free b)
    (running : b.host.run? run = some r) (found : b.host.device? r.device = some d)
    (phase : r.phase = .bringUp stage progress) :
    d.reported = false ∧ d.initialized = false ∧ d.usable = false := by
  obtain ⟨vs, discovers⟩ := reached.discovers r.device
  obtain ⟨status, -, shows_, -, allows⟩ := discovers.discovered.stands d found
  have allowed := allows (run, r) (Table.mem_entries_of_get? running) rfl
  cases status with
  | rising stage =>
    obtain ⟨first, dark⟩ := shows_
    exact ⟨first, dark, (reached.upright.low r.device d found dark).1⟩
  | up => exact absurd (phase.symm.trans allowed) (by simp)
  | down => exact allowed.elim

/-- The first reading is taken in. -/
theorem device_of_fetched {batch : PropertyBatch} (reached : Reachable free b) (made : b.make m = some c)
    (found : b.host.device? id = some d) (brought : ⟨.fetch, some batch⟩ ∈ b.verdicts id m) :
    ∃ x, c.host.device? id = some x ∧ (d.merge batch).Resembles x ∧ x.usable = d.usable ∧
      x.initialized = false := by
  obtain ⟨run, pursued, said⟩ := mem_verdicts.1 brought
  obtain ⟨r, running, rfl, verdict⟩ := Host.running_of_verdictOf? said
  obtain ⟨progress, phase, -⟩ := Host.yields_of_verdict? found verdict
  obtain ⟨-, dark, -⟩ := dark_of_rising reached running found phase
  obtain ⟨next, x, turns, there, -⟩ := turns_of_make reached made pursued running found
  rw [verdict] at turns
  cases turns with
  | yields _ advances =>
    cases advances with
    | fetch _ stored | named _ stored =>
      obtain ⟨alike, usable, initialized⟩ := d.takeFirst_alike stored batch
      exact ⟨_, there, alike, usable, initialized.trans dark⟩
    | unnamed _ stored =>
      obtain ⟨alike, usable, initialized⟩ := d.takeFirst_alike stored batch
      obtain ⟨alike', usable', initialized'⟩ := (d.takeFirst stored batch).endDiscovery_alike
      exact ⟨_, there, alike.trans alike', usable'.trans usable, initialized'.trans (initialized.trans dark)⟩

/-- The first reading is told of at once, and has the device assessed. -/
theorem told_of_fetched {batch : PropertyBatch} (reached : Reachable free b) (made : b.make m = some c)
    (found : b.host.device? id = some d) (brought : ⟨.fetch, some batch⟩ ∈ b.verdicts id m) :
    (∃ ds, ds.all Duty.isPursuit ∧ c.host.agenda = .reassess id :: ds) ∧
      c.host.receivers = tell id (d.burst (d.merge batch) ++ d.ending batch) b.host.receivers := by
  obtain ⟨run, pursued, said⟩ := mem_verdicts.1 brought
  obtain ⟨r, running, rfl, verdict⟩ := Host.running_of_verdictOf? said
  obtain ⟨progress, phase, yields⟩ := Host.yields_of_verdict? found verdict
  have quiet := quiet_of_pursued reached made pursued
  obtain ⟨first, -, -⟩ := dark_of_rising reached running found phase
  obtain ⟨ds, fewer, did⟩ := pursue_of_make made pursued
  have unstuck : progress ≠ .stuck := by
    rintro rfl
    rw [Host.verdict?, found, phase] at verdict
    exact absurd verdict (by simp)
  have running' : (b.host.withAgenda ds).run? run = some r := running
  have found' : (b.host.withAgenda ds).device? r.device = some d := found
  obtain ⟨transport, calls, -, same⟩ := (b.host.withAgenda ds).attempt_eq run r d .fetch progress
  have goesOn : (b.host.withAgenda ds).pursue run =
      (b.host.withAgenda ds).attempt run r d .fetch progress := by
    simp only [Host.pursue, running', found', phase]
  have yields' : (b.host.withAgenda ds).finding d.path .fetch progress = .yields batch := yields
  rw [goesOn, same, yields'] at did
  obtain ⟨⟨ps, pursuits, agenda⟩, receivers⟩ := Host.fetched_told
    (h := { b.host.withAgenda ds with transport, calls }) run found first batch
  rw [did]
  refine ⟨⟨ps ++ ds, ?_, agenda⟩, receivers⟩
  rw [List.all_append, pursuits, Bool.true_and]
  exact List.all_eq_true.2 fun duty mem => List.all_eq_true.1 quiet duty (fewer mem)

/-! ### Requests -/

/-- A request is told of to nobody, and has devices notified at most. -/
theorem asks_of_request {h : Host} {q : Registry.Request} (quiet : b.host.core.isQuiet)
    (made : b.make m = some c) (asked : b.request? m = some (h, q)) :
    c.host.device? = b.host.device? ∧ c.host.receivers = b.host.receivers ∧
      (c.host.agenda = b.host.agenda ∨ ∃ n ls, c.host.agenda = .announce n ls :: b.host.agenda) := by
  cases m with
  | act =>
    rw [request?] at asked
    split at asked
    · next w q' cs ds next =>
      rw [Core.isQuiet, show b.host.core.agenda = _ from next] at quiet
      exact absurd quiet (by simp [Duty.isPursuit])
    · exact absurd asked (by simp)
  | step s =>
    obtain ⟨-, made⟩ := Option.ite_none_right_eq_some.1 made
    obtain rfl := Option.some.inj made
    cases s with
    | command x =>
      cases x with
      | request q' =>
        change (b.host.request q').device? = _ ∧ (b.host.request q').receivers = _ ∧
          ((b.host.request q').agenda = _ ∨ ∃ n ls, (b.host.request q').agenda = _)
        rw [Host.request]
        rcases b.host.registry.handle q' with ⟨r, _ | n⟩
        · exact ⟨rfl, rfl, .inl rfl⟩
        · exact ⟨rfl, rfl, .inr ⟨n, _, rfl⟩⟩
      | _ => exact absurd asked (by simp [request?])
    | _ => exact absurd asked (by simp [request?])
  | poll | follow | report => exact absurd asked (by simp [request?])

/-! ## One burst -/

/-- What follows when nobody but the device is to be assessed. -/
theorem Subsides.publishes_of_due (reached : Reachable free c) (run : c.Subsides b')
    (found : c.host.device? id = some x)
    (due : ∃ ds, ds.all Duty.isPursuit ∧ c.host.agenda = .reassess id :: ds) :
    c.Publishes id x (fun e => x.remark e.usable) b' := by
  obtain ⟨ds, pursuits, next⟩ := due
  have plain : Plain c.host.core.agenda := by
    rw [show c.host.core.agenda = _ from next]
    exact .cons rfl (plain_of_isPursuit pursuits)
  have sole : c.host.core.Sole id := Core.sole_of_reassess next pursuits
  refine run.publishes reached (.plain plain) found ?_ (unrivalled_of_sole reached sole)
  rw [next, stirring_cons, stirring_of_quiet pursuits]
  split <;> omega

/-- What follows a request to the registry, when nobody else submits a profile. -/
theorem Subsides.publishes_of_request {ds : List Duty} (reached : Reachable free c) (run : c.Subsides b')
    (found : c.host.device? id = some x) (pursuits : ds.all Duty.isPursuit)
    (asked : c.host.agenda = ds ∨ ∃ n ls, c.host.agenda = .announce n ls :: ds)
    (unrivalled : c.Unrivalled id) : c.Publishes id x (fun e => x.remark e.usable) b' := by
  have plain : Plain ds := plain_of_isPursuit pursuits
  have none : stirring id x ds = 0 := stirring_of_quiet pursuits
  have layered : Layered c.host.core.devices c.host.agenda := by
    rcases asked with same | ⟨n, ls, next⟩
    · exact .plain (same ▸ plain)
    · rw [next]
      cases n with
      | added p => exact .added p ls plain
      | removed | updated | loaded => exact .plain (.cons rfl plain)
  refine run.publishes reached layered found ?_ unrivalled
  rcases asked with same | ⟨n, ls, next⟩
  · rw [same, none]
    exact Nat.zero_le _
  · rw [next, stirring_cons, none]
    split <;> omega

/-- **One burst of events for each step.** Let a device exist, let one thing come in, and let what follows go on
by itself, as far as one likes. If a batch of properties came in, the receivers of the device get one event for
each property that has changed, with its new value and in a fixed order, and `Usable` last if it has changed
(`Device.burst`); after the first batch of a run, `Initialized(false)` may follow. If the adapter's power
changed, or if a request was put to the registry while no other device has the same address, they get at most
one event, `Usable`, and only if it has changed (`Device.remark`). -/
theorem one_burst (reached : Reachable free b) (found : b.host.device? id = some d)
    (made : b.make m = some c) (run : c.Subsides b') :
    (∀ batch, b.taken? id m = some (.properties batch) → b.Publishes id (d.merge batch) d.burst b') ∧
    (∀ batch, ⟨.fetch, some batch⟩ ∈ b.verdicts id m →
      b.Publishes id (d.merge batch) (fun e => d.burst e ++ d.ending batch) b') ∧
    (∀ on, b.taken? id m = some (.power on) → b.Publishes id d (fun e => d.remark e.usable) b') ∧
    ∀ h q, b.host.core.isQuiet → b.request? m = some (h, q) →
      (∀ j y, j ≠ id → b.host.device? j = some y → y.binAddress ≠ d.binAddress) →
      b.Publishes id d (fun e => d.remark e.usable) b' := by
  have reached' : Reachable free c := reached.trans (Reaches.refl.move m (fun _ _ _ => trivial) made)
  have update {u : Update} (taken : b.taken? id m = some u) : b.Publishes id (d.amend u) d.burst b' := by
    obtain ⟨there, due, told⟩ := takes_of_taken reached made found taken
    have alike : (d.amend u).Resembles (d.takeIn b.host.registry.profiles u) :=
      Device.resembles_of_bare (d.bare_takeIn _ u)
    have usable : (d.takeIn b.host.registry.profiles u).usable = d.usable := d.usable_takeIn _ u
    have amended : (d.amend u).usable = d.usable := by cases u <;> rfl
    refine (run.publishes_of_due reached' there due).of_told told alike ?_
    intro e _ alike'
    rw [Device.burst_congr alike (amended.trans usable.symm), Device.burst_append_remark alike' usable]
  refine ⟨fun batch taken => update taken, ?firstReading, ?powerChange, ?operation⟩
  case firstReading =>
    intro batch brought
    obtain ⟨x, there, alike, usable, dark⟩ := device_of_fetched reached made found brought
    obtain ⟨due, told⟩ := told_of_fetched reached made found brought
    refine (run.publishes_of_due reached' there due).of_told told alike ?_
    intro e found' alike'
    -- a device that is not up is not usable, before and after
    have low := (reached'.upright.low id x there dark).1
    obtain ⟨x', there', same⟩ := Host.bare_of_scene (run.scene reached') there
    obtain rfl := Option.some.inj (found'.symm.trans there')
    have dark' : e.initialized = x.initialized := (congrArg Device.initialized same :)
    have low' := ((reached'.trans run.reaches).upright.low id e found' (dark'.trans dark)).1
    have silent : x.remark e.usable = [] := if_pos (low.trans low'.symm)
    have burst : d.burst (d.merge batch) = d.burst e :=
      Device.burst_congr (alike.trans alike') (usable.symm.trans (low.trans low'.symm))
    rw [silent, List.append_nil, burst]
  case powerChange =>
    intro on taken
    obtain ⟨e, there, alike, told⟩ := update taken
    have amended : d.Resembles (d.amend (.power on)) := fun p _ => by cases p <;> rfl
    refine ⟨e, there, amended.trans alike, ?_⟩
    intro name r kept mine
    rw [told name r kept mine, Device.burst_of_resembles (amended.trans alike)]
  case operation =>
    intro h q quiet asked alone
    obtain ⟨devices, receivers, agenda⟩ := asks_of_request quiet made asked
    have there : c.host.device? id = some d := by rw [devices]; exact found
    have unrivalled : c.Unrivalled id := unrivalled_of_address reached' there (by rw [devices]; exact alone)
    have silent : c.host.receivers = tell id [] b.host.receivers := receivers
    refine (run.publishes_of_request reached' there quiet agenda unrivalled).of_told silent
      (fun _ _ => rfl) ?_
    intro e _ _
    exact List.nil_append _

/-- A bench whose only device, an access point, is up and has a profile of its user's, and whose events
somebody just came to keep; after the moves given. -/
def tethered (ms : List Move) : Bench :=
  (opening .bluez4 (.stub (offering "1116-0")) true none).makeAll
    (([.step (.command (.request (.insert (.forAccessPoint "u" "n" ⟨1, 2, 3, 4, 5, 6⟩)))), .act,
      .step (.newDevice "D" "/d" none {}), .step (.run "D"), .poll 1] : List Move) ++ List.replicate 8 Move.act ++
      ([.step (.listen "D" "W")] : List Move) ++ ms)

theorem reachable_tethered (ms : List Move) : Reachable free (tethered ms) :=
  ⟨_, _, _, _, _, reaches_makeAll _ _ fun _ _ => trivial⟩

/-- The device gets another name, and the link to it comes up. -/
def renamed : Move :=
  .step (.command (.push "/d" { name := some "m", rssi := some 0, connected := some true }))

/-- The profile of the user goes. -/
def unprofiled : Move := .step (.command (.request (.remove "u")))

/-- Of a batch that repeats the strength of the signal the device tells the rest. When its only profile
is removed it submits one of its own and tells nothing, as it is usable before and after. -/
theorem one_burst_tethered :
    (∃ d e, (tethered [renamed]).host.device? 0 = some d ∧
      ((tethered [renamed, .poll 1]).subside 1).host.device? 0 = some e ∧
      d.burst e = [.name (some "m"), .connected true] ∧
      ((tethered [renamed, .poll 1]).subside 1).host.receiver? "W" =
        some { name := "W", device := 0, events := d.burst e }) ∧
    ∃ d e, (tethered []).host.device? 0 = some d ∧ d.candidates = ["u"] ∧ d.usable = true ∧
      ((tethered [unprofiled]).subside 7).host.device? 0 = some e ∧
      e.candidates ≠ ["u"] ∧ e.usable = true ∧
      ((tethered [unprofiled]).subside 7).host.receiver? "W" =
        some { name := "W", device := 0, events := d.remark e.usable } := by
  refine ⟨?_, ?_⟩
  · let d := ((tethered [renamed]).host.device? 0).get (by rfl)
    have found : (tethered [renamed]).host.device? 0 = some d := (Option.some_get _).symm
    have made : (tethered [renamed]).make (.poll 1) = some (tethered [renamed, .poll 1]) := by rfl
    obtain ⟨batches, -⟩ := one_burst (reachable_tethered _) found made (subsides_subside _ 1)
    obtain ⟨e, there, -, told⟩ := batches _ (by rfl)
    let e' := (((tethered [renamed, .poll 1]).subside 1).host.device? 0).get (by rfl)
    obtain rfl : e' = e := Option.some.inj ((Option.some_get _).trans there)
    exact ⟨d, e', found, there, by rfl, told "W" { name := "W", device := 0 } (by rfl) rfl⟩
  · let d := ((tethered []).host.device? 0).get (by rfl)
    have found : (tethered []).host.device? 0 = some d := (Option.some_get _).symm
    have made : (tethered []).make unprofiled = some (tethered [unprofiled]) := by rfl
    have alone (j : DeviceId) (y : Device) (other : j ≠ 0) (there : (tethered []).host.device? j = some y) :
        y.binAddress ≠ d.binAddress := by
      have only : (tethered []).host.devices.entries = [(0, d)] := by rfl
      have mem := Table.mem_entries_of_get? there
      rw [only] at mem
      exact absurd (congrArg Prod.fst (List.mem_singleton.1 mem)) other
    obtain ⟨-, -, -, requests⟩ := one_burst (reachable_tethered _) found made (subsides_subside _ 7)
    obtain ⟨e, there, -, told⟩ := requests _ _ (by rfl) (by rfl) alone
    let e' := (((tethered [unprofiled]).subside 7).host.device? 0).get (by rfl)
    obtain rfl : e' = e := Option.some.inj ((Option.some_get _).trans there)
    have heard := told "W" { name := "W", device := 0 } (by rfl) rfl
    rw [Receiver.append, List.nil_append] at heard
    exact ⟨d, e', found, by rfl, by rfl, there, by decide +kernel, by rfl, heard⟩

end Bench

end Piconet
