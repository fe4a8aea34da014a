import Piconet.Proofs.DiscoveryVerdicts

/-!
# Discovery loses no update

A `Remote` is what there is behind a stub: devices and adapters with their properties. Every change of
a property is told to those who follow the device or adapter by then (`Bench.Faces`), and a call is
answered with what is the case at some time while it is under way. So the queue of a run may hold values
that are older than what was read; but it leads to what is the case, whatever it is put over
(`Remote.Tracks`).
-/

namespace Piconet

open Function (update)
open Bench (free)

/-! ## Batches over batches -/

namespace PropertyBatch

variable {a b c : PropertyBatch}

/-- What one batch says of the properties that change another one says too. -/
structure Within (a b : PropertyBatch) : Prop where
  name : ∀ x, a.name = some x → b.name = some x
  rssi : ∀ x, a.rssi = some x → b.rssi = some x
  connected : ∀ x, a.connected = some x → b.connected = some x

namespace Within

theorem trans (first : a.Within b) (second : b.Within c) : a.Within c where
  name x said := second.name x (first.name x said)
  rssi x said := second.rssi x (first.rssi x said)
  connected x said := second.connected x (first.connected x said)

/-- A later batch makes no difference. -/
theorem atop (within : a.Within b) (c : PropertyBatch) : (c.atop a).Within (c.atop b) := by
  have later {α : Type} {m x y : Option α} (within : ∀ v, x = some v → y = some v) :
      ∀ v, m.or x = some v → m.or y = some v := by
    intro v
    simp only [Option.or_eq_some_iff]
    exact Or.imp_right (And.imp_right (within v))
  exact ⟨later within.name, later within.rssi, later within.connected⟩

theorem atop_left (a b : PropertyBatch) : a.Within (a.atop b) := by
  refine ⟨fun x said => ?_, fun x said => ?_, fun x said => ?_⟩
  all_goals simp [PropertyBatch.atop, said]

/-- A batch makes no difference to one that says the same. -/
theorem absorb (within : b.Within a) : a.Within (b.atop a) := by
  have same {α : Type} {m x : Option α} (within : ∀ v, m = some v → x = some v) :
      ∀ v, x = some v → m.or x = some v := by
    rintro v rfl
    cases m with
    | none => rfl
    | some w => exact (within w rfl).symm
  exact ⟨same within.name, same within.rssi, same within.connected⟩

end Within

/-- What the batches of a queue say all together, the later ones over the earlier ones. -/
def backlog : List PropertyBatch → PropertyBatch
  | [] => empty
  | b :: bs => (backlog bs).atop b

theorem backlog_concat (bs : List PropertyBatch) (b : PropertyBatch) :
    backlog (bs ++ [b]) = b.atop (backlog bs) := by
  induction bs with
  | nil => exact (empty_atop b).trans (atop_empty b).symm
  | cons c bs ih => rw [List.cons_append, backlog, ih, atop_assoc, backlog]

end PropertyBatch

open PropertyBatch (backlog)

/-- What a device shows of the properties that change. -/
def Device.shown (d : Device) : PropertyBatch where
  name := d.name
  rssi := some d.rssi
  connected := some d.connected

/-- A batch that is taken in goes over what was shown. -/
theorem Device.atop_shown_within (d : Device) (b : PropertyBatch) :
    (b.atop d.shown).Within (d.merge b).shown := by
  refine ⟨fun x said => ?_, fun x said => ?_, fun x said => ?_⟩
  · cases carried : b.name <;> simpa [PropertyBatch.atop, shown, merge, carried] using said
  · cases carried : b.rssi <;> simpa [PropertyBatch.atop, shown, merge, carried] using said
  · cases carried : b.connected <;> simpa [PropertyBatch.atop, shown, merge, carried] using said

theorem Device.within_merge (d : Device) (b : PropertyBatch) : b.Within (d.merge b).shown :=
  (PropertyBatch.Within.atop_left b d.shown).trans (d.atop_shown_within b)

/-! ## What there is -/

/-- Devices and adapters as they are, and the answers to calls about them that are under way. -/
structure Remote where
  devices : String → PropertyBatch
  power : String → Bool
  /-- the answer to the reading of a device's properties -/
  answers : DeviceId → Option PropertyBatch := fun _ => none
  /-- the answer to the reading of the power of a device's adapter -/
  readings : DeviceId → Option Bool := fun _ => none
  /-- a device got to know the power of its adapter: it was read, or it changed later -/
  informed : DeviceId → Prop := fun _ => False

namespace Remote

variable {w : Remote} {r : Run} {d e : Device}

/-- Properties of a device change. -/
def change (w : Remote) (path : String) (batch : PropertyBatch) : Remote :=
  { w with devices := update w.devices path (batch.atop (w.devices path)) }

/-- Some devices get to know the power of their adapters. -/
def inform (w : Remote) (told : DeviceId → Prop) : Remote :=
  { w with informed := fun id => told id ∨ w.informed id }

/-- An adapter is switched on or off, and some devices get to know. -/
def switch (w : Remote) (path : String) (on : Bool) (told : DeviceId → Prop) : Remote :=
  { w.inform told with power := update w.power path on }

/-- The properties of a device are read. -/
def ask (w : Remote) (id : DeviceId) (path : String) : Remote :=
  { w with answers := update w.answers id (some (w.devices path)) }

/-- The power of an adapter is read for a device. -/
def askPower (w : Remote) (id : DeviceId) (adapter : String) : Remote :=
  { w with readings := update w.readings id (some (w.power adapter)) }

/-! ## What a run holds -/

/-- A device was read that named an adapter. -/
def Named (w : Remote) (id : DeviceId) (adapter : String) : Prop :=
  ∃ props, w.answers id = some props ∧ props.adapter = some adapter

/-- What is queued for a run leads to what is the case, over the given values. -/
def Leads (w : Remote) (r : Run) (path : String) (base : PropertyBatch) : Prop :=
  ∃ f, r.changes = some f ∧ (w.devices path).Within ((backlog f.queue).atop base)

/-- What is queued of the power leads to what is the case, from the given value. -/
def LeadsPower (w : Remote) (f : Feed Bool) (on : Bool) : Prop :=
  f.queue.getLastD on = w.power f.source

/-- Nothing was asked about an adapter yet. -/
def Unpowered (w : Remote) (r : Run) : Prop :=
  r.power = none ∧ w.readings r.device = none ∧ ¬ w.informed r.device

/-- The power of an adapter is being read: the answer is to be followed by what is queued. -/
def Reading (w : Remote) (r : Run) (adapter : String) : Prop :=
  ∃ f, r.power = some f ∧ f.source = adapter ∧
    (∀ on, w.readings r.device = some on → w.LeadsPower f on) ∧ (w.informed r.device → f.queue ≠ [])

/-- The power of the named adapter is known, and what is queued follows it. -/
def Powered (w : Remote) (r : Run) (d : Device) : Prop :=
  ∃ f on, r.power = some f ∧ w.Named r.device f.source ∧ d.adapter = .resolved on ∧
    (w.informed r.device → w.LeadsPower f on)

/-- A run that has everything leads its device to what is the case. -/
def Settled (w : Remote) (r : Run) (d : Device) : Prop :=
  w.Leads r d.path d.shown ∧ (d.generation.requiresAdapter = true → w.Powered r d)

/-- What has been found out for a run, by the phase it is in. -/
def Stands (w : Remote) (r : Run) (d : Device) : Phase → Prop
  | .bringUp .acquire _ | .bringUp .bind _ | .bringUp .subscribe _ =>
    w.Unpowered r ∧ w.answers r.device = none
  | .bringUp .fetch _ =>
    w.Unpowered r ∧ r.changes.isSome ∧ ∀ props, w.answers r.device = some props → w.Leads r d.path props
  | .bringUp (.bindAdapter adapter) _ | .bringUp (.subscribePower adapter) _ =>
    w.Unpowered r ∧ w.Named r.device adapter ∧ w.Leads r d.path d.shown
  | .bringUp (.readPower adapter) _ =>
    w.Named r.device adapter ∧ w.Leads r d.path d.shown ∧ w.Reading r adapter
  | .bringUp .announce _ | .follow => w.Settled r d

/-- What stands still stands if its parts do. -/
theorem Stands.imp {w' : Remote} {r' : Run} {phase : Phase} (stands : w.Stands r d phase)
    (subscribed : r.changes.isSome → r'.changes.isSome)
    (answers : w'.answers r'.device = w.answers r.device)
    (leads : ∀ base, w.Leads r d.path base → w'.Leads r' d.path base)
    (unpowered : w.Unpowered r → w'.Unpowered r')
    (reading : ∀ adapter, w.Reading r adapter → w'.Reading r' adapter)
    (powered : w.Powered r d → w'.Powered r' d) : w'.Stands r' d phase := by
  have named {adapter : String} (was : w.Named r.device adapter) : w'.Named r'.device adapter := by
    rw [Named, answers]
    exact was
  have settled (was : w.Settled r d) : w'.Settled r' d := ⟨leads _ was.1, fun requires => powered (was.2 requires)⟩
  cases phase with
  | follow => exact settled stands
  | bringUp stage progress =>
    cases stage with
    | acquire | bind | subscribe => exact ⟨unpowered stands.1, answers.trans stands.2⟩
    | fetch =>
      obtain ⟨was, subscribed', answered⟩ := stands
      exact ⟨unpowered was, subscribed subscribed', fun props read => leads _ (answered props (answers ▸ read))⟩
    | bindAdapter | subscribePower =>
      obtain ⟨was, name, led⟩ := stands
      exact ⟨unpowered was, named name, leads _ led⟩
    | readPower adapter =>
      obtain ⟨name, led, read⟩ := stands
      exact ⟨named name, leads _ led, reading adapter read⟩
    | announce => exact settled stands

/-- A run holds what leads its device to what is the case. -/
structure Tracks (w : Remote) (r : Run) (d : Device) : Prop where
  /-- the last of what is queued is the case -/
  changes : ∀ f, r.changes = some f →
    f.source = d.path ∧ f.link = .live ∧ (backlog f.queue).Within (w.devices d.path)
  power : ∀ f, r.power = some f → f.link = .live ∧ (f.queue ≠ [] → ∀ on, w.LeadsPower f on)
  stands : w.Stands r d r.phase

namespace Tracks

/-- A run that has not begun holds nothing. -/
theorem fresh (label : Option String) (id : DeviceId) (unasked : w.answers id = none)
    (unread : w.readings id = none) (uninformed : ¬ w.informed id) (d : Device) :
    w.Tracks { label, device := id } d where
  changes f none := absurd none (by simp)
  power f none := absurd none (by simp)
  stands := ⟨⟨rfl, unread, uninformed⟩, unasked⟩

/-- It is a matter of what the device shows. -/
theorem of_shown (tracks : w.Tracks r d) (path : e.path = d.path) (generation : e.generation = d.generation)
    (adapter : e.adapter = d.adapter) (shown : e.shown = d.shown) : w.Tracks r e := by
  refine ⟨path ▸ tracks.changes, tracks.power, ?_⟩
  have stands := tracks.stands
  unfold Stands at stands ⊢
  split at stands <;> simpa only [Settled, Powered, path, generation, adapter, shown] using stands

theorem of_findings (tracks : w.Tracks r d) (same : d.SameFindings e) : w.Tracks r e :=
  tracks.of_shown (same.congr Device.path fun _ _ => rfl) (same.congr Device.generation fun _ _ => rfl)
    (same.congr Device.adapter fun _ _ => rfl) (same.congr Device.shown fun _ _ => rfl)

/-! ### Changes -/

/-- Those who follow a device are told of a change. -/
theorem change (tracks : w.Tracks r d) (path : String) (batch : PropertyBatch) :
    (w.change path batch).Tracks
      { r with changes := r.changes.map fun f => if f.hears path then f.push batch else f } d := by
  let w' := w.change path batch
  let r' : Run := { r with changes := r.changes.map fun f => if f.hears path then f.push batch else f }
  -- it is both the case and the last of what is queued, or neither
  have told {f : Feed PropertyBatch} (feed : r.changes = some f) :
      ∃ f', r'.changes = some f' ∧ f'.source = d.path ∧ f'.link = .live ∧
        (backlog f'.queue).Within (w'.devices d.path) ∧
        ∀ base, (w.devices d.path).Within ((backlog f.queue).atop base) →
          (w'.devices d.path).Within ((backlog f'.queue).atop base) := by
    obtain ⟨source, live, within⟩ := tracks.changes f feed
    have changed : r'.changes = some (if f.hears path then f.push batch else f) := by
      simp only [r', feed, Option.map_some]
    refine ⟨_, changed, ?_⟩
    by_cases same : d.path = path
    · have hears : f.hears path = true := by simp [Feed.hears, live, source, same]
      have now : w'.devices d.path = batch.atop (w.devices d.path) := by
        simp only [w', Remote.change, same, Function.update_self]
      rw [if_pos hears, now]
      simp only [Feed.push, PropertyBatch.backlog_concat]
      refine ⟨source, live, within.atop batch, fun base leads => ?_⟩
      rw [PropertyBatch.atop_assoc]
      exact leads.atop batch
    · have deaf : ¬ f.hears path = true := by simp [Feed.hears, source, same]
      have now : w'.devices d.path = w.devices d.path := by
        simp only [w', Remote.change, Function.update_of_ne same]
      rw [if_neg deaf, now]
      exact ⟨source, live, within, fun base leads => leads⟩
  refine ⟨fun f' feed' => ?_, tracks.power, ?_⟩
  · obtain ⟨f, feed, -⟩ := Option.map_eq_some_iff.1 feed'
    obtain ⟨g, feed'', source, live, within, -⟩ := told feed
    obtain rfl := Option.some.inj (feed''.symm.trans feed')
    exact ⟨source, live, within⟩
  · show w'.Stands r' d r.phase
    refine tracks.stands.imp (fun subscribed => ?_) rfl (fun base led => ?_) (fun was => was) (fun _ was => was)
      fun was => was
    · simpa only [r', Option.isSome_map] using subscribed
    · obtain ⟨f, feed, leads⟩ := led
      obtain ⟨f', feed', -, -, -, leads'⟩ := told feed
      exact ⟨f', feed', leads' base leads⟩

/-- Those who follow an adapter are told that it is switched. -/
theorem switch (tracks : w.Tracks r d) (path : String) (on : Bool) {told : DeviceId → Prop}
    (heard : told r.device → ∃ f, r.power = some f ∧ f.hears path = true) :
    (w.switch path on told).Tracks
      { r with power := r.power.map fun f => if f.hears path then f.push on else f } d := by
  let w' := w.switch path on told
  let r' : Run := { r with power := r.power.map fun f => if f.hears path then f.push on else f }
  have rung {f : Feed Bool} (feed : r.power = some f) :
      ∃ f', r'.power = some f' ∧ f'.source = f.source ∧ f'.link = .live ∧
        (f'.queue ≠ [] → ∀ x, w'.LeadsPower f' x) ∧ (∀ x, w.LeadsPower f x → w'.LeadsPower f' x) ∧
        (told r.device ∨ f.queue ≠ [] → f'.queue ≠ []) := by
    obtain ⟨live, current⟩ := tracks.power f feed
    have changed : r'.power = some (if f.hears path then f.push on else f) := by
      simp only [r', feed, Option.map_some]
    refine ⟨_, changed, ?_⟩
    by_cases hears : f.hears path = true
    · have same : f.source = path := by
        simp only [Feed.hears, live, decide_true, Bool.true_and, decide_eq_true_eq] at hears
        exact hears
      have leads (x : Bool) : w'.LeadsPower (f.push on) x := by
        simp [LeadsPower, Feed.push, w', Remote.switch, same]
      rw [if_pos hears]
      exact ⟨rfl, live, fun _ => leads, fun x _ => leads x, fun _ => by simp [Feed.push]⟩
    · have other : f.source ≠ path := fun same => hears (by simp [Feed.hears, live, same])
      have leads (x : Bool) (led : w.LeadsPower f x) : w'.LeadsPower f x := by
        rw [LeadsPower] at led ⊢
        simp only [w', Remote.switch, Function.update_of_ne other, led]
      rw [if_neg hears]
      refine ⟨rfl, live, fun some x => leads x (current some x), leads, ?_⟩
      rintro (told | some)
      · obtain ⟨g, feed', hears'⟩ := heard told
        obtain rfl := Option.some.inj (feed.symm.trans feed')
        exact absurd hears' hears
      · exact some
  refine ⟨tracks.changes, fun f' feed' => ?_, ?_⟩
  · obtain ⟨f, feed, -⟩ := Option.map_eq_some_iff.1 feed'
    obtain ⟨g, feed'', -, live, current, -⟩ := rung feed
    obtain rfl := Option.some.inj (feed''.symm.trans feed')
    exact ⟨live, current⟩
  · show w'.Stands r' d r.phase
    refine tracks.stands.imp (fun was => was) rfl (fun _ was => was) ?_ ?_ ?_
    · -- nobody is told who follows no adapter
      rintro ⟨none, unread, uninformed⟩
      refine ⟨by simp [r', none], unread, ?_⟩
      rintro (now | informed)
      · obtain ⟨f, feed, -⟩ := heard now
        exact absurd feed (by simp [none])
      · exact uninformed informed
    · rintro adapter ⟨f, feed, rfl, read, queued⟩
      obtain ⟨f', feed', source, -, -, leads', queued'⟩ := rung feed
      refine ⟨f', feed', source, fun x answer => leads' x (read x answer), ?_⟩
      exact fun informed => queued' (informed.imp_right queued)
    · rintro ⟨f, x, feed, named, adapter, leads⟩
      obtain ⟨f', feed', source, -, current, leads', queued⟩ := rung feed
      refine ⟨f', x, feed', source ▸ named, adapter, ?_⟩
      rintro (now | informed)
      · exact current (queued (.inl now)) x
      · exact leads' x (leads informed)

/-! ### Answers -/

/-- It is a matter of what was found out for the device. -/
theorem elsewhere (tracks : w.Tracks r d) {w' : Remote} (devices : w'.devices = w.devices)
    (power : w'.power = w.power) (answers : w'.answers r.device = w.answers r.device)
    (readings : w'.readings r.device = w.readings r.device)
    (informed : w'.informed r.device → w.informed r.device) : w'.Tracks r d := by
  have leadsPower {f : Feed Bool} {on : Bool} (led : w.LeadsPower f on) : w'.LeadsPower f on := by
    rw [LeadsPower, power]
    exact led
  refine ⟨devices ▸ tracks.changes, fun f feed => ?_, ?_⟩
  · obtain ⟨live, current⟩ := tracks.power f feed
    exact ⟨live, fun some on => leadsPower (current some on)⟩
  · refine tracks.stands.imp (fun was => was) answers (fun base led => ?_) ?_ ?_ ?_
    · rw [Leads, devices]
      exact led
    · exact fun was => ⟨was.1, readings.trans was.2.1, fun now => was.2.2 (informed now)⟩
    · rintro adapter ⟨f, feed, source, read, queued⟩
      exact ⟨f, feed, source, fun on answer => leadsPower (read on (readings ▸ answer)),
        fun now => queued (informed now)⟩
    · rintro ⟨f, on, feed, named, adapter, current⟩
      exact ⟨f, on, feed, by rwa [Named, answers], adapter, fun now => leadsPower (current (informed now))⟩

/-- What is read is not older than what is queued leads to. -/
theorem ask (tracks : w.Tracks r d) {id : DeviceId} {path : String}
    (asking : id = r.device → path = d.path ∧ ∃ progress, r.phase = .bringUp .fetch progress) :
    (w.ask id path).Tracks r d := by
  by_cases mine : id = r.device
  · obtain ⟨rfl, progress, phase⟩ := asking mine
    subst mine
    obtain ⟨changes, power, stands⟩ := tracks
    refine ⟨changes, power, ?_⟩
    rw [phase] at stands ⊢
    obtain ⟨unpowered, subscribed, -⟩ := stands
    refine ⟨unpowered, subscribed, fun props read => ?_⟩
    obtain rfl : w.devices d.path = props := by simpa [Remote.ask] using read
    obtain ⟨f, feed⟩ := Option.isSome_iff_exists.1 subscribed
    exact ⟨f, feed, (changes f feed).2.2.absorb⟩
  · refine tracks.elsewhere rfl rfl ?_ rfl fun now => now
    exact Function.update_of_ne (Ne.symm mine) _ _

theorem askPower (tracks : w.Tracks r d) {id : DeviceId} {adapter : String}
    (asking : id = r.device → ∃ progress, r.phase = .bringUp (.readPower adapter) progress) :
    (w.askPower id adapter).Tracks r d := by
  by_cases mine : id = r.device
  · obtain ⟨progress, phase⟩ := asking mine
    subst mine
    obtain ⟨changes, power, stands⟩ := tracks
    refine ⟨changes, power, ?_⟩
    rw [phase] at stands ⊢
    obtain ⟨named, leads, f, feed, rfl, -, queued⟩ := stands
    refine ⟨named, leads, f, feed, rfl, fun on read => ?_, queued⟩
    obtain rfl : w.power f.source = on := by simpa [Remote.askPower] using read
    by_cases empty : f.queue = []
    · simp [LeadsPower, empty, Remote.askPower]
    · exact (power f feed).2 empty _
  · refine tracks.elsewhere rfl rfl rfl ?_ fun now => now
    exact Function.update_of_ne (Ne.symm mine) _ _

/-! ### Turns -/

/-- What was read leads to what is the case, if what is queued is put over it. -/
theorem takeFirst (tracks : w.Tracks r d) {progress : Progress} (phase : r.phase = .bringUp .fetch progress)
    {props : PropertyBatch} (answered : w.answers r.device = some props) (stored : List Profile) :
    w.Unpowered r ∧ (d.takeFirst stored props).path = d.path ∧
      w.Leads r (d.takeFirst stored props).path (d.takeFirst stored props).shown := by
  have bare := d.bare_takeFirst stored props
  have path : (d.takeFirst stored props).path = d.path := (congrArg Device.path bare :)
  have shown : (d.takeFirst stored props).shown = (d.merge props).shown := (congrArg Device.shown bare :)
  have stands := tracks.stands
  rw [phase] at stands
  obtain ⟨unpowered, -, leads⟩ := stands
  obtain ⟨f, feed, leads⟩ := leads props answered
  rw [path, shown]
  exact ⟨unpowered, rfl, f, feed, leads.trans ((d.within_merge props).atop _)⟩

/-- An update that is taken in was the first of what is queued. -/
theorem takeIn (tracks : w.Tracks r d) (phase : r.phase = .follow) {u : Update} {r' : Run}
    (takes : r.Takes u r') (stored : List Profile) : w.Tracks r' (d.takeIn stored u) := by
  obtain ⟨changes, power, stands⟩ := tracks
  rw [phase] at stands
  obtain ⟨led, powered⟩ := stands
  cases takes with
  | @properties f b rest feed queue =>
    obtain ⟨source, live, within⟩ := changes f feed
    obtain ⟨f', feed', leads⟩ := led
    obtain rfl := Option.some.inj (feed.symm.trans feed')
    rw [queue, PropertyBatch.backlog] at within leads
    have merged : w.Tracks { r.turn with changes := some { f with queue := rest } } (d.merge b) := by
      refine ⟨fun g there => ?_, power, ?_⟩
      · obtain rfl := Option.some.inj there
        exact ⟨source, live, (PropertyBatch.Within.atop_left _ b).trans within⟩
      · change w.Stands _ _ r.phase
        rw [phase]
        rw [PropertyBatch.atop_assoc] at leads
        exact ⟨⟨_, rfl, leads.trans ((d.atop_shown_within b).atop _)⟩, powered⟩
    rw [Device.takeIn]
    split
    · exact merged.of_findings (.of_bare ((d.merge b).bare_survey stored))
    · exact merged
  | @power f on rest feed queue =>
    obtain ⟨live, current⟩ := power f feed
    rw [queue] at current
    -- the last of what is queued is the case, whatever was taken before
    have now : w.LeadsPower { f with queue := rest } on := by
      have last := current (by simp) on
      rwa [LeadsPower, queue, List.getLastD_cons] at last
    refine ⟨changes, fun g there => ?_, ?_⟩
    · obtain rfl := Option.some.inj there
      refine ⟨live, fun some x => ?_⟩
      obtain ⟨y, ys, left⟩ := List.exists_cons_of_ne_nil some
      simp only at left
      simp only [LeadsPower, left, List.getLastD_cons] at now ⊢
      exact now
    · change w.Stands _ _ r.phase
      rw [phase]
      refine ⟨led, fun requires => ?_⟩
      obtain ⟨f', -, feed', named, -⟩ := powered requires
      obtain rfl := Option.some.inj (feed.symm.trans feed')
      exact ⟨_, on, rfl, named, rfl, fun _ => now⟩

/-- What a reading brought leads to what is the case, for a device that is told. -/
theorem readPower (tracks : w.Tracks r d) {adapter : String} {progress : Progress}
    (phase : r.phase = .bringUp (.readPower adapter) progress) (on : Bool) {told : DeviceId → Prop}
    (read : told r.device → w.readings r.device = some on) :
    (w.inform told).Tracks (r.enter .announce) { d with adapter := .resolved on } := by
  obtain ⟨changes, power, stands⟩ := tracks
  rw [phase] at stands
  obtain ⟨named, leads, f, feed, rfl, answered, queued⟩ := stands
  refine ⟨changes, power, leads, fun _ => ⟨f, on, feed, named, rfl, ?_⟩⟩
  rintro (now | informed)
  · exact answered on (read now)
  · exact (power f feed).2 (queued informed) on

/-- **A run that has its turn keeps track**, where reading a device brings the answer to it. Those that
are told of the power of their adapter read it in this turn. -/
theorem turn (tracks : w.Tracks r d) {v : Option Verdict} {next : Option Run} (turns : Turns r d v next e)
    (live : ∀ link, v = some ⟨.subscribe, some link⟩ → link = .live)
    (heard : ∀ adapter reading, v = some ⟨.readPower adapter, some reading⟩ → reading.heard = true)
    (answered : ∀ props, v = some ⟨.fetch, some props⟩ → w.answers r.device = some props)
    {told : DeviceId → Prop} (read : told r.device → ∃ adapter reading,
      v = some ⟨.readPower adapter, some reading⟩ ∧ w.readings r.device = some reading.on)
    {r' : Run} (goes : next = some r') : (w.inform told).Tracks r' e := by
  -- but for the reading of power nothing is told
  have untold (other : ∀ adapter reading, v ≠ some ⟨.readPower adapter, some reading⟩)
      (tracked : w.Tracks r' e) : (w.inform told).Tracks r' e := by
    refine tracked.elsewhere rfl rfl rfl rfl fun now => now.resolve_left fun now => ?_
    subst goes
    obtain ⟨adapter, reading, said, -⟩ := read (turns.device ▸ now)
    exact other adapter reading said
  cases turns with
  | stuck | idle =>
    obtain rfl := Option.some.inj goes
    exact untold (by simp) { tracks with }
  | @waits stage progress phase calls q =>
    obtain rfl := Option.some.inj goes
    refine untold (by simp) ⟨tracks.changes, tracks.power, ?_⟩
    have stands := tracks.stands
    rw [phase] at stands
    cases stage <;> exact stands
  | fails | ends => exact absurd goes (by simp)
  | @takes u r₁ phase takes stored =>
    obtain rfl := Option.some.inj goes
    exact untold (by simp) (tracks.takeIn phase takes stored)
  | @yields stage progress a _ _ phase advances =>
    have stands := tracks.stands
    rw [phase] at stands
    cases advances with
    | acquire | bind =>
      obtain rfl := Option.some.inj goes
      exact untold (by simp) ⟨tracks.changes, tracks.power, stands⟩
    | subscribe link =>
      obtain rfl := Option.some.inj goes
      obtain rfl := live link rfl
      refine untold (by simp) ⟨fun f feed => ?_, tracks.power, stands.1, rfl, fun props read => ?_⟩
      · obtain rfl := Option.some.inj feed
        exact ⟨rfl, rfl, fun x said => absurd said (by simp [backlog, PropertyBatch.empty]),
          fun x said => absurd said (by simp [backlog, PropertyBatch.empty]),
          fun x said => absurd said (by simp [backlog, PropertyBatch.empty])⟩
      · exact absurd (stands.2.symm.trans read) (by simp)
    | fetch props stored free =>
      obtain rfl := Option.some.inj goes
      obtain ⟨-, path, leads⟩ := tracks.takeFirst phase (answered props rfl) stored
      refine untold (by simp) ⟨path ▸ tracks.changes, tracks.power, leads, fun requires => ?_⟩
      have generation : (d.takeFirst stored props).generation = d.generation :=
        (congrArg Device.generation (d.bare_takeFirst stored props) :)
      rw [generation, free] at requires
      exact absurd requires (by simp)
    | named props stored requires names =>
      obtain rfl := Option.some.inj goes
      obtain ⟨unpowered, path, leads⟩ := tracks.takeFirst phase (answered props rfl) stored
      refine untold (by simp) ⟨path ▸ tracks.changes, tracks.power, unpowered, ?_, leads⟩
      exact ⟨props, answered props rfl, names⟩
    | unnamed => exact absurd goes (by simp)
    | bindAdapter adapter =>
      obtain rfl := Option.some.inj goes
      exact untold (by simp) ⟨tracks.changes, tracks.power, stands⟩
    | subscribePower adapter =>
      obtain rfl := Option.some.inj goes
      obtain ⟨⟨-, unread, uninformed⟩, named, leads⟩ := stands
      refine untold (by simp) ⟨tracks.changes, fun f feed => ?_, named, leads, _, rfl, rfl, fun on read => ?_, ?_⟩
      · obtain rfl := Option.some.inj feed
        exact ⟨rfl, fun some => absurd rfl some⟩
      · exact absurd (unread.symm.trans read) (by simp)
      · exact fun informed => absurd informed uninformed
    | readPower adapter reading =>
      obtain rfl := Option.some.inj goes
      rw [if_pos (heard adapter reading rfl)]
      refine tracks.readPower phase reading.on fun now => ?_
      obtain ⟨adapter', reading', same, answer⟩ := read now
      cases same
      exact answer
    | announce =>
      obtain rfl := Option.some.inj goes
      have followed : w.Tracks { r with phase := .follow } d := ⟨tracks.changes, tracks.power, stands⟩
      refine untold (by simp) ?_
      rw [Device.endDiscovery]
      split
      · exact followed
      · exact followed.of_shown rfl rfl rfl rfl

end Tracks

/-- Something was asked for a device, or told. -/
def Asked (w : Remote) (id : DeviceId) : Prop :=
  (w.answers id).isSome ∨ (w.readings id).isSome ∨ w.informed id

theorem inform_of_none {told : DeviceId → Prop} (none : ∀ id, ¬ told id) : w.inform told = w := by
  rw [inform]
  simp [none]

end Remote

/-! ## Hosts with a stub -/

theorem Transport.eq_stub_of_kind {t : Transport} (stub : t.kind = .stub) : ∃ s, t = .stub s := by
  cases t with
  | stub s => exact ⟨s, rfl⟩
  | peer | unreachable => exact absurd stub (by simp [kind])

/-- A call brings what it comes to, whether it passes its points or fails at one. -/
theorem Stub.find_of_attempt {s : Stub} {path : String} {stage : Stage} {progress : Progress} {a : stage.Yield}
    (came : s.attempt path stage progress = .yields a) :
    s.find path stage = .yields a ∨ findFailing stage = .yields a := by
  rw [attempt] at came
  split at came
  · exact .inl came
  · split at came
    · exact absurd came (by simp)
    · exact .inl came
    · exact .inr came

namespace Host

variable {h h' : Host} {w : Remote} {run : RunId} {r : Run} {d : Device}

theorem find_of_stub (stub : h.transport.kind = .stub) (found : h.device? r.device = some d) {stage : Stage}
    {a : stage.Yield} (said : h.verdict? r = some ⟨stage, some a⟩) :
    ∃ s : Stub, s.find d.path stage = .yields a ∨ Stub.findFailing stage = .yields a := by
  obtain ⟨s, there⟩ := Transport.eq_stub_of_kind stub
  obtain ⟨progress, -, came⟩ := yields_of_verdict? found said
  simp only [finding, there] at came
  exact ⟨s, Stub.find_of_attempt came⟩

/-- A stub leaves the streams that it hands out open. -/
theorem live_of_stub (stub : h.transport.kind = .stub) (found : h.device? r.device = some d)
    {link : Feed.Link} (said : h.verdict? r = some ⟨.subscribe, some link⟩) : link = .live := by
  obtain ⟨s, came | failed⟩ := find_of_stub stub found said
  · exact (Finding.yields.inj came).symm
  · exact absurd failed (by simp [Stub.findFailing])

theorem heard_of_stub (stub : h.transport.kind = .stub) (found : h.device? r.device = some d)
    {adapter : String} {reading : PowerReading}
    (said : h.verdict? r = some ⟨.readPower adapter, some reading⟩) : reading.heard = true := by
  obtain ⟨s, came | failed⟩ := find_of_stub stub found said
  · rw [← Finding.yields.inj came]
  · rw [← Finding.yields.inj failed]

theorem isSome_stub? (stub : h.transport.kind = .stub) : h.stub?.isSome := by
  obtain ⟨s, there⟩ := Transport.eq_stub_of_kind stub
  rw [stub?, there]
  rfl

/-- All runs of a host with a stub keep track of what there is. -/
structure Tracked (w : Remote) (h : Host) : Prop where
  stub : h.transport.kind = .stub
  /-- only for devices that were started is anything asked -/
  asked : ∀ id, w.Asked id → id < h.nextId ∧ ∀ d, h.device? id = some d → d.started = true
  runs : ∀ x ∈ h.runs.entries, ∀ d, h.device? x.2.device = some d → w.Tracks x.2 d

namespace Tracked

/-- A device with a run was started. -/
theorem started_of_mem (upkeep : h.core.Upkeep) {x : RunId × Run} (mem : x ∈ h.runs.entries) :
    x.2.device < h.nextId ∧ ∀ d, h.device? x.2.device = some d → d.started = true := by
  have mem : (x.1, x.2.standing) ∈ h.core.standing.entries := List.mem_map.2 ⟨x, mem, rfl⟩
  exact ⟨(upkeep.bound _ mem).2, upkeep.begun _ mem⟩

/-- Discovery that rests keeps track if its feeds are let alone. -/
theorem rest (tracked : h.Tracked w) (upkeep : h.core.Upkeep) (rests : Rests False h h') :
    h'.Tracked w where
  stub := rests.kind.trans tracked.stub
  asked id asked := by
    obtain ⟨known, started⟩ := tracked.asked id asked
    refine ⟨Nat.lt_of_lt_of_le known rests.nextId_le, fun e there => ?_⟩
    rcases rests.device id e there with ⟨d, found, same⟩ | ⟨new, -⟩
    · exact same.started (started d found)
    · exact absurd known (Nat.not_lt.2 new)
  runs x mem e there := by
    rcases rests.run x mem with ⟨y, old, -, place⟩ | ⟨label, id, place, unstarted⟩
    · have same : x.2 = y.2 := place.resolve_right fun fed => fed.1
      rw [same] at there ⊢
      rcases rests.device _ e there with ⟨d, found, findings⟩ | ⟨new, -⟩
      · exact (tracked.runs y old d found).of_findings findings
      · exact absurd (started_of_mem upkeep old).1 (Nat.not_lt.2 new)
    · have same : x.2 = { label, device := id } := place.resolve_right fun fed => fed.1
      have unasked : ¬ w.Asked id := by
        intro asked
        obtain ⟨known, started⟩ := tracked.asked id asked
        rcases unstarted with new | ⟨d, found, first⟩
        · exact absurd known (Nat.not_lt.2 new)
        · exact absurd (started d found) (by simp [first])
      simp only [Remote.Asked, not_or, Option.not_isSome_iff_eq_none] at unasked
      rw [same]
      exact .fresh label id unasked.1 unasked.2.1 unasked.2.2 e

/-- The properties of a device are read for the run that waits for them. -/
theorem ask (tracked : h.Tracked w) (upkeep : h.core.Upkeep) {x : RunId × Run} (mem : x ∈ h.runs.entries)
    {progress : Progress} (phase : x.2.phase = .bringUp .fetch progress)
    (found : h.device? x.2.device = some d) : h.Tracked (w.ask x.2.device d.path) where
  stub := tracked.stub
  asked id asked := by
    by_cases device : id = x.2.device
    · exact device ▸ started_of_mem upkeep mem
    · have before : (w.ask x.2.device d.path).answers id = w.answers id := Function.update_of_ne device _ _
      exact tracked.asked id (asked.imp_left fun answers => before ▸ answers)
  runs y mem' e there := by
    refine (tracked.runs y mem' e there).ask fun same => ?_
    obtain rfl := List.inj_on_of_nodup_map (nodup_device upkeep) mem mem' same
    obtain rfl := Option.some.inj (found.symm.trans there)
    exact ⟨rfl, progress, phase⟩

theorem askPower (tracked : h.Tracked w) (upkeep : h.core.Upkeep) {x : RunId × Run}
    (mem : x ∈ h.runs.entries) {adapter : String} {progress : Progress}
    (phase : x.2.phase = .bringUp (.readPower adapter) progress) :
    h.Tracked (w.askPower x.2.device adapter) where
  stub := tracked.stub
  asked id asked := by
    by_cases device : id = x.2.device
    · exact device ▸ started_of_mem upkeep mem
    · have before : (w.askPower x.2.device adapter).readings id = w.readings id :=
        Function.update_of_ne device _ _
      exact tracked.asked id (asked.imp_right (Or.imp_left fun readings => before ▸ readings))
  runs y mem' e there := by
    refine (tracked.runs y mem' e there).askPower fun same => ?_
    obtain rfl := List.inj_on_of_nodup_map (nodup_device upkeep) mem mem' same
    exact ⟨progress, phase⟩

/-- Those who follow a device are told of a change. -/
theorem change (tracked : h.Tracked w) (path : String) (batch : PropertyBatch) :
    (h.onChanges path (·.push batch)).Tracked (w.change path batch) where
  stub := tracked.stub
  asked := tracked.asked
  runs x mem d found := by
    obtain ⟨y, old, rfl⟩ := List.mem_map.1 mem
    exact (tracked.runs y old d found).change path batch

/-- Those who follow an adapter are told that it is switched. -/
theorem switch (tracked : h.Tracked w) (upkeep : h.core.Upkeep) (path : String) (on : Bool) :
    (h.onPower path (·.push on)).Tracked (w.switch path on fun id =>
      ∃ x ∈ h.runs.entries, x.2.device = id ∧ x.2.power.any (·.hears path)) where
  stub := tracked.stub
  asked id asked := by
    rcases asked with answers | readings | ⟨x, mem, rfl, -⟩ | informed
    · exact tracked.asked id (.inl answers)
    · exact tracked.asked id (.inr (.inl readings))
    · exact started_of_mem upkeep mem
    · exact tracked.asked id (.inr (.inr informed))
  runs x mem d found := by
    obtain ⟨y, old, rfl⟩ := List.mem_map.1 mem
    refine (tracked.runs y old d found).switch path on ?_
    rintro ⟨z, mem, device, hears⟩
    obtain ⟨f, feed, hears⟩ := (Option.any_eq_true _ _).1 hears
    obtain rfl := List.inj_on_of_nodup_map (nodup_device upkeep) mem old device
    exact ⟨f, feed, hears⟩

/-- **A run that is taken up keeps track**, and so do the others. -/
theorem pursue (tracked : h.Tracked w) (upkeep : h.core.Upkeep) (run : RunId)
    (answered : ∀ id props, h.verdictOf? id run = some ⟨.fetch, some props⟩ → w.answers id = some props)
    {told : DeviceId → Prop} (read : ∀ id, told id → ∃ adapter reading,
      h.verdictOf? id run = some ⟨.readPower adapter, some reading⟩ ∧ w.readings id = some reading.on) :
    (h.pursue run).Tracked (w.inform told) := by
  -- there is nobody to be told but the device of the run
  have untold {id : DeviceId} (silent : h.verdictOf? id run = none) : ¬ told id := by
    intro now
    obtain ⟨adapter, reading, said, -⟩ := read id now
    exact absurd (silent.symm.trans said) (by simp)
  cases running : h.run? run with
  | none =>
    rw [Host.pursue, running, Remote.inform_of_none fun id => untold (verdictOf?_of_none running id)]
    exact tracked
  | some r =>
    cases found : h.device? r.device with
    | none =>
      have silent (id : DeviceId) : h.verdictOf? id run = none := by
        by_cases device : r.device = id
        · rw [← device, verdictOf?_self running, verdict?, found]
        · exact verdictOf?_of_ne running device
      have ends : h.pursue run = h.endRun run := by simp only [Host.pursue, running, found]
      rw [ends, Remote.inform_of_none fun id => untold (silent id)]
      exact { tracked with runs := fun x mem => tracked.runs x (List.mem_filter.1 mem).1 }
    | some d =>
      have apart := apart_pursue running
      obtain ⟨next, e, turns, there, only⟩ := turns_pursue upkeep running found
      have started := turns.kept.2.2.trans (started_of_running upkeep running found)
      refine ⟨(Transport.kind_of_bare apart.transport).trans tracked.stub, fun id asked => ?_,
        fun x mem e' there' => ?_⟩
      · have known : id < h.nextId ∧ ∀ d, h.device? id = some d → d.started = true := by
          rcases asked with answers | readings | now | informed
          · exact tracked.asked id (.inl answers)
          · exact tracked.asked id (.inr (.inl readings))
          · by_cases device : r.device = id
            · exact device ▸ started_of_mem upkeep (Table.mem_entries_of_get? running)
            · exact absurd now (untold (verdictOf?_of_ne running device))
          · exact tracked.asked id (.inr (.inr informed))
        rw [apart.nextId]
        refine ⟨known.1, fun e' there' => ?_⟩
        by_cases device : id = r.device
        · subst device
          obtain rfl := Option.some.inj (there.symm.trans there')
          exact started
        · rw [apart.device? id device] at there'
          exact known.2 e' there'
      · by_cases device : x.2.device = r.device
        · rw [device] at there'
          obtain rfl := Option.some.inj (there.symm.trans there')
          have tracks := tracked.runs (run, r) (Table.mem_entries_of_get? running) d found
          refine tracks.turn turns (fun link said => live_of_stub tracked.stub found said)
            (fun adapter reading said => heard_of_stub tracked.stub found said) (fun props said => ?_)
            (fun now => ?_) (only x mem device)
          · exact answered r.device props ((verdictOf?_self running).trans said)
          · obtain ⟨adapter, reading, said, answer⟩ := read r.device now
            exact ⟨adapter, reading, (verdictOf?_self running).symm.trans said, answer⟩
        · have old := (apart.runs x mem).resolve_right device
          rw [apart.device? _ device] at there'
          refine (tracked.runs x old e' there').elsewhere rfl rfl rfl rfl fun now => now.resolve_left ?_
          exact untold (verdictOf?_of_ne running (Ne.symm device))

end Tracked

end Host

namespace Bench

variable {w : Remote} {b c : Bench}

/-! ## All runs -/

/-- The runs of a bench with a stub, together with the remote side that the stub stands for. Properties change
there at any time, and all that runs of discovery are told are such changes; a call is answered with what was
the case at some time while it was under way. -/
inductive Faces : Remote → Bench → Prop
  | opening (g : Generation) (s : Stub) (isLoaded : Bool) (manager : Option Timeouts) (naming : Naming)
      (devices : String → PropertyBatch) (power : String → Bool) :
      Faces { devices, power } (opening g (.stub s) isLoaded manager naming)
  /-- The properties of a device are read, where a run waits for them. -/
  | ask {w : Remote} {b : Bench} (faces : Faces w b) {run : RunId} {r : Run}
      (running : b.host.run? run = some r) {progress : Progress} (phase : r.phase = .bringUp .fetch progress)
      {d : Device} (found : b.host.device? r.device = some d) : Faces (w.ask r.device d.path) b
  /-- The power of an adapter is read, where a run waits for it. -/
  | askPower {w : Remote} {b : Bench} (faces : Faces w b) {run : RunId} {r : Run}
      (running : b.host.run? run = some r) {adapter : String} {progress : Progress}
      (phase : r.phase = .bringUp (.readPower adapter) progress) : Faces (w.askPower r.device adapter) b
  /-- Properties of a device change. -/
  | change {w : Remote} {b c : Bench} (faces : Faces w b) (m : Move) (made : b.make m = some c)
      {path : String} {batch : PropertyBatch} (given : b.command? m = some (.push path batch)) :
      Faces (w.change path batch) c
  /-- An adapter is switched on or off. Its followers get to know. -/
  | switch {w : Remote} {b c : Bench} (faces : Faces w b) (m : Move) (made : b.make m = some c)
      {path : String} {on : Bool} (given : b.command? m = some (.power path on))
      (known : b.host.stub?.any (·.adapters.contains path)) :
      Faces (w.switch path on fun id =>
        ∃ x ∈ b.host.runs.entries, x.2.device = id ∧ x.2.power.any (·.hears path)) c
  /-- Anything else happens. Those for which the reading of power succeeds get to know it. -/
  | move {w : Remote} {b c : Bench} (faces : Faces w b) (m : Move) (made : b.make m = some c)
      (quiet : ¬ b.Feeds m)
      (answered : ∀ id props, ⟨.fetch, some props⟩ ∈ b.verdicts id m → w.answers id = some props)
      (told : DeviceId → Prop) (read : ∀ id, told id → ∃ adapter reading,
        ⟨.readPower adapter, some reading⟩ ∈ b.verdicts id m ∧ w.readings id = some reading.on) :
      Faces (w.inform told) c

theorem Faces.reachable (faces : Faces w b) : Reachable free b := by
  induction faces with
  | opening g s isLoaded manager naming => exact ⟨g, .stub s, isLoaded, manager, naming, .refl⟩
  | ask _ _ _ _ ih => exact ih
  | askPower _ _ _ ih => exact ih
  | change _ m made _ ih => exact ih.trans (Reaches.refl.move m (fun _ _ _ => trivial) made)
  | switch _ m made _ _ ih => exact ih.trans (Reaches.refl.move m (fun _ _ _ => trivial) made)
  | move _ m made _ _ _ _ ih => exact ih.trans (Reaches.refl.move m (fun _ _ _ => trivial) made)

/-- A run is taken up that something is to be said of. -/
theorem Faces.takeUp (faces : Faces w b) (m : Move) (made : b.make m = some c) (quiet : ¬ b.Feeds m)
    {run : RunId} {r : Run} {v : Verdict} (pursued : b.pursued? m = some run)
    (running : b.host.run? run = some r) (said : b.host.verdict? r = some v)
    (answered : ∀ props, v = ⟨.fetch, some props⟩ → w.answers r.device = some props) (told : Prop)
    (read : told → ∃ adapter reading, v = ⟨.readPower adapter, some reading⟩ ∧
      w.readings r.device = some reading.on) :
    Faces (w.inform fun id => id = r.device ∧ told) c := by
  refine faces.move m made quiet (fun id props mem => ?_) _ ?_
  · obtain ⟨run', pursued', mine⟩ := mem_verdicts.1 mem
    obtain rfl := Option.some.inj (pursued.symm.trans pursued')
    obtain ⟨r', running', rfl, said'⟩ := Host.running_of_verdictOf? mine
    obtain rfl := Option.some.inj (running.symm.trans running')
    exact answered props (Option.some.inj (said.symm.trans said'))
  · rintro id ⟨rfl, now⟩
    obtain ⟨adapter, reading, rfl, answer⟩ := read now
    exact ⟨adapter, reading, mem_verdicts.2 ⟨run, pursued, (Host.verdictOf?_self running).trans said⟩, answer⟩

/-- A move in which a device may be read. -/
def reads (b : Bench) (m : Move) : Bool :=
  ((b.pursued? m).bind b.host.run?).any fun r => r.phase matches .bringUp .fetch _

/-- Where nothing is put into feeds and no device is read, nothing is learned. -/
theorem Faces.pass (faces : Faces w b) (m : Move) (made : b.make m = some c) (quiet : ¬ b.Feeds m)
    (unread : b.reads m = false) : Faces w c := by
  have none : w.inform (fun _ => False) = w := Remote.inform_of_none fun _ => id
  rw [← none]
  refine faces.move m made quiet (fun id props mem => ?_) _ fun _ now => now.elim
  obtain ⟨run, pursued, said⟩ := mem_verdicts.1 mem
  obtain ⟨r, running, -, said⟩ := Host.running_of_verdictOf? said
  cases found : b.host.device? r.device with
  | none => exact absurd said (by simp [Host.verdict?, found])
  | some d =>
    obtain ⟨progress, phase, -⟩ := Host.yields_of_verdict? found said
    exact absurd unread (by simp [reads, pursued, running, phase])

/-- None of the moves puts anything into feeds or reads a device. -/
def passesBy : Bench → List Move → Bool
  | _, [] => true
  | b, m :: ms => !decide (b.Feeds m) && !b.reads m && (b.make m).all fun c => c.passesBy ms

theorem Faces.passAll (faces : Faces w b) (ms : List Move) (aside : b.passesBy ms = true) :
    Faces w (b.makeAll ms) := by
  induction ms generalizing b with
  | nil => exact faces
  | cons m ms ih =>
    simp only [passesBy, Bool.and_eq_true, Bool.not_eq_true', decide_eq_false_iff_not] at aside
    obtain ⟨⟨quiet, unread⟩, later⟩ := aside
    rw [makeAll]
    cases made : b.make m with
    | none => exact faces
    | some c =>
      rw [made] at later
      exact ih (faces.pass m made quiet unread) later

/-- **In all runs discovery keeps track of what there is.** -/
theorem Faces.tracked (faces : Faces w b) : b.host.Tracked w := by
  induction faces with
  | opening g s isLoaded manager naming devices power =>
    exact ⟨rfl, fun id asked => absurd asked (by simp [Remote.Asked]),
      fun x mem => absurd mem (by simp [Bench.opening])⟩
  | ask faces running phase found ih =>
    exact ih.ask faces.reachable.upkeep (Table.mem_entries_of_get? running) phase found
  | askPower faces running phase ih =>
    exact ih.askPower faces.reachable.upkeep (Table.mem_entries_of_get? running) phase
  | @change w b c faces m made path batch given ih =>
    obtain ⟨ds, did⟩ := obey_of_make made given
    have there : (b.host.withAgenda ds).stub?.isSome := Host.isSome_stub? ih.stub
    rw [did, Host.obey, if_pos there]
    exact Host.Tracked.change (h := b.host.withAgenda ds) { ih with } path batch
  | @switch w b c faces m made path on given known ih =>
    obtain ⟨ds, did⟩ := obey_of_make made given
    obtain ⟨s, there, known⟩ := (Option.any_eq_true _ _).1 known
    let set (s : Stub) : Stub := { s with adapters := s.adapters.modify path fun _ => some on }
    have same : c.host = ((b.host.changeStub set).onPower path (·.push on)).withAgenda ds := by
      have there' : (b.host.withAgenda ds).stub? = some s := there
      rw [did, Host.obey, there']
      simp only [known, if_true]
      rw [Host.changeStub, Host.changeStub]
      simp only [Host.withAgenda]
      split <;> rfl
    have changed : (b.host.changeStub set).Tracked w :=
      ih.rest faces.reachable.upkeep (.changeStub b.host set)
    have upkeep : (b.host.changeStub set).core.Upkeep := by
      rw [Host.core_changeStub]
      exact faces.reachable.upkeep
    have runs : (b.host.changeStub set).runs = b.host.runs := by
      rw [Host.changeStub]
      split <;> rfl
    have switched := changed.switch upkeep path on
    rw [runs] at switched
    rw [same]
    exact { switched with }
  | @move w b c faces m made quiet answered told read ih =>
    have reached := faces.reachable
    cases pursued : b.pursued? m with
    | none =>
      have none (id : DeviceId) : ¬ told id := by
        intro now
        obtain ⟨adapter, reading, mem, -⟩ := read id now
        obtain ⟨run, taken, -⟩ := mem_verdicts.1 mem
        exact absurd (pursued.symm.trans taken) (by simp)
      rw [Remote.inform_of_none none]
      refine ih.rest reached.upkeep ?_
      have rests := rests_make reached made pursued
      rwa [eq_false quiet] at rests
    | some run =>
      obtain ⟨ds, fewer, did⟩ := pursue_of_make made pursued
      have aside : (b.host.withAgenda ds).Tracked w := { ih with }
      have upkeep : (b.host.withAgenda ds).core.Upkeep :=
        { reached.upkeep with due := fun duty mem => reached.upkeep.due duty (fewer mem) }
      rw [did]
      refine aside.pursue upkeep run (fun id props came => ?_) fun id now => ?_
      · exact answered id props (mem_verdicts.2 ⟨run, pursued, came⟩)
      · obtain ⟨adapter, reading, mem, answer⟩ := read id now
        obtain ⟨run', taken, came⟩ := mem_verdicts.1 mem
        obtain rfl := Option.some.inj (pursued.symm.trans taken)
        exact ⟨adapter, reading, came, answer⟩

/-- **Discovery loses no update.** The properties of the remote object and the power of its adapter may change
at any time while a run of discovery subscribes, reads, and takes in what was queued (`Faces`). Once the device
is initialized and the feeds of its run are empty, it shows the name, the signal strength and the link state
that the remote side has, and the power of its adapter as well, unless the first reading of it failed and it has
not changed since (`informed`). -/
theorem up_to_date (faces : Faces w b) {id : DeviceId} {d : Device} {run : RunId} {r : Run}
    (found : b.host.device? id = some d) (initialized : d.initialized = true)
    (running : b.host.run? run = some r) (own : r.device = id) (drained : r.hasUpdate = false) :
    (∀ name, (w.devices d.path).name = some name → d.name = some name) ∧
    (∀ rssi, (w.devices d.path).rssi = some rssi → d.rssi = rssi) ∧
    (∀ connected, (w.devices d.path).connected = some connected → d.connected = connected) ∧
    (d.generation.requiresAdapter = true → w.informed id →
      ∃ adapter, w.Named id adapter ∧ d.adapter = .resolved (w.power adapter)) := by
  subst own
  have mem := Table.mem_entries_of_get? running
  have phase : r.phase = .follow := by
    have standing : (run, r.standing) ∈ b.host.core.standing.entries := List.mem_map.2 ⟨_, mem, rfl⟩
    by_contra other
    have dark := faces.reachable.upkeep.rising _ standing (by simp [Run.standing, other]) d found
    exact absurd initialized (by simp [dark])
  have stands : w.Stands r d r.phase := (faces.tracked.runs (run, r) mem d found).stands
  rw [phase] at stands
  obtain ⟨⟨f, feed, leads⟩, powered⟩ := stands
  obtain ⟨changes, power⟩ := Bool.or_eq_false_iff.1 drained
  have empty : f.queue = [] := by simpa [feed] using changes
  rw [empty, backlog, PropertyBatch.empty_atop] at leads
  refine ⟨leads.name, fun x said => ?_, fun x said => ?_, fun requires informed => ?_⟩
  · exact Option.some.inj (leads.rssi x said)
  · exact Option.some.inj (leads.connected x said)
  · obtain ⟨g, on, feed', named, adapter, leadsPower⟩ := powered requires
    have empty : g.queue = [] := by simpa [feed'] using power
    have current : on = w.power g.source := by simpa [Remote.LeadsPower, empty] using leadsPower informed
    exact ⟨g.source, named, current ▸ adapter⟩

/-- What there is of a device and its adapter at first. -/
def wanderer : PropertyBatch where
  address := some "1:2:3:4:5:6"
  name := some "n"
  rssi := some (-60)
  adapter := some "/a"

/-- A bench whose only device, the wanderer, is about to be read. -/
def reading : Bench :=
  (opening .bluez5
    (.stub { devices := ⟨[("/d", some wanderer)]⟩, adapters := ⟨[("/a", some true)]⟩ }) true none).makeAll
      [.step (.newDevice "D" "/d" none {}), .step (.run "D"), .poll 1, .act, .act, .act]

/-- The wanderer comes nearer while it is being read. -/
def nearing : Bench := reading.makeAll [.step (.command (.push "/d" { rssi := some (-40) }))]

/-- The power of its adapter is about to be read. -/
def powering : Bench := (nearing.makeAll [.act]).makeAll [.act, .act, .act]

/-- The adapter is switched off as soon as that was done. -/
def switching : Bench := (powering.makeAll [.act]).makeAll [.step (.command (.power "/a" false))]

/-- In the end everything is taken in. -/
def settled : Bench := switching.makeAll (List.replicate 8 .act)

theorem faces_settled : ∃ w, Faces w settled ∧ w.answers 0 = some wanderer ∧ w.informed 0 ∧
    (w.devices "/d").rssi = some (-40) ∧ w.power "/a" = false := by
  have opened : Faces { devices := fun _ => wanderer, power := fun _ => true } _ :=
    .opening .bluez5 { devices := ⟨[("/d", some wanderer)]⟩, adapters := ⟨[("/a", some true)]⟩ } true none .byAddress _ _
  have begun : Faces _ reading := opened.passAll _ (by rfl)
  obtain ⟨d, found, path⟩ : ∃ d, reading.host.device? 0 = some d ∧ d.path = "/d" := ⟨_, rfl, rfl⟩
  let r : Run :=
    { label := some "D", device := 0, phase := .bringUp .fetch .fresh, changes := some { source := "/d" } }
  have asked := begun.ask (show reading.host.run? 1 = some r by rfl) rfl found
  rw [path] at asked
  have changed : Faces _ nearing :=
    asked.change (.step (.command (.push "/d" { rssi := some (-40) }))) (by rfl) rfl
  -- what was read is older than what is queued
  let queued : Feed PropertyBatch := { source := "/d", queue := [{ rssi := some (-40) }] }
  have fetched : Faces _ (nearing.makeAll [.act]) := changed.takeUp .act (by rfl) (by decide)
    (show nearing.pursued? .act = some 1 by rfl)
    (show nearing.host.run? 1 = some { r with changes := some queued } by rfl)
    (show nearing.host.verdict? _ = some ⟨.fetch, some wanderer⟩ by rfl)
    (fun props same => by cases same; rfl) False False.elim
  have bound : Faces _ powering := fetched.passAll [.act, .act, .act] (by rfl)
  let r' : Run := { r with
    phase := .bringUp (.readPower "/a") .fresh
    changes := some queued
    power := some { source := "/a" } }
  have running : powering.host.run? 1 = some r' := by rfl
  have answered := bound.askPower running rfl
  have read : Faces _ (powering.makeAll [.act]) := answered.takeUp .act (by rfl) (by decide)
    (show powering.pursued? .act = some 1 by rfl) running
    (show powering.host.verdict? _ = some ⟨.readPower "/a", some { on := true, heard := true }⟩ by rfl)
    (fun props same => nomatch same) True fun _ => ⟨"/a", _, rfl, rfl⟩
  have switched : Faces _ switching := read.switch (.step (.command (.power "/a" false))) (by rfl) rfl (by rfl)
  exact ⟨_, switched.passAll _ (by rfl), by rfl, .inr (.inl ⟨rfl, trivial⟩), by rfl, by rfl⟩

/-- The signal strength and the adapter's power change while a device is brought up, and the device knows of
both. -/
theorem up_to_date_settled : ∃ w d, Faces w settled ∧ settled.host.device? 0 = some d ∧
    (w.devices d.path).rssi = some (-40) ∧ d.rssi = -40 ∧
    w.informed 0 ∧ w.power "/a" = false ∧ d.adapter = .resolved false := by
  obtain ⟨w, faces, answered, informed, near, off⟩ := faces_settled
  obtain ⟨d, found, path, initialized, requires⟩ : ∃ d, settled.host.device? 0 = some d ∧ d.path = "/d" ∧
      d.initialized = true ∧ d.generation.requiresAdapter = true := ⟨_, rfl, rfl, rfl, rfl⟩
  obtain ⟨r, running, own, drained⟩ : ∃ r, settled.host.run? 1 = some r ∧ r.device = 0 ∧
      r.hasUpdate = false := ⟨_, rfl, rfl, rfl⟩
  obtain ⟨-, rssi, -, power⟩ := up_to_date faces found initialized running own drained
  obtain ⟨adapter, ⟨props, read, named⟩, current⟩ := power requires informed
  obtain rfl := Option.some.inj (answered.symm.trans read)
  obtain rfl : "/a" = adapter := Option.some.inj named
  rw [path] at rssi
  exact ⟨w, d, faces, found, by rw [path]; exact near, rssi _ near, informed, off, off ▸ current⟩

end Bench

end Piconet
