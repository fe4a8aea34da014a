import Mathlib.Data.String.Basic
import Piconet.Proofs.OperationSteps
import Piconet.Proofs.Listening
import Piconet.Proofs.Orders
import Piconet.Proofs.Redundancy

/-!
# The books of a manager

Whatever is asked of a manager, and whatever its devices are doing meanwhile, its books are in order
(`Bench.Books`): it holds a device for each path that stands, it shows those paths and which of them
are usable, and each of its devices has one place among those that the registry tells. To add a path
that stands changes nothing. A path that does not stand gets a device of which nothing is known yet,
under an identifier that nothing refers to (`Bench.Untouched`), so nothing of a device that was there
before is left to go on with the new one.
-/

namespace Piconet

open Bench (free)
open Function (update)
open Manager (Order Stands standing)

variable {law : Core → Registry.Request → Prop} {h : Host} {id : DeviceId} {os : List Order} {m : Manager}
  {b b' : Bench} {path : String}

/-! ## Identifiers that nothing refers to -/

/-- Nothing refers to a device under an identifier. -/
structure Bench.Untouched (b : Bench) (id : DeviceId) : Prop where
  absent : b.host.device? id = none
  noRun : ∀ e ∈ b.host.runs.entries, e.2.device ≠ id
  noOperation : ∀ name p, b.operations.get? name = some p → p.device ≠ id
  noDuty : ∀ duty ∈ b.host.agenda, duty.about? ≠ some id
  unsubscribed : ∀ s ∈ b.host.subscriptions, s.listener ≠ .device id
  unheard : ∀ r ∈ b.host.receivers, r.device = id → r.events = []

namespace Core

variable {c c' : Core} {s : Option (DeviceId × Profile)}

/-- Nobody was told anything by a device that is yet to come. -/
def Unheard (c : Core) : Prop := ∀ r ∈ c.receivers, c.nextId ≤ r.device → r.events = []

/-- A number that was not given out yet belongs to nobody who is subscribed, notified or told anything. -/
theorem Step.unheard (step : Step law c s c') (upkeep : c.Upkeep) (unheard : c.Unheard) : c'.Unheard := by
  intro r mem new
  have new := Nat.le_trans step.nextId_le new
  have absent : c.devices r.device = none := by
    apply Option.eq_none_iff_forall_ne_some.2
    intro d found
    exact absurd (upkeep.known _ d found) (Nat.not_lt.2 new)
  rcases Change.untold step absent mem rfl with mem | none
  · exact unheard r mem new
  · exact none

end Core

namespace Bench

theorem Reachable.unheard (reached : Reachable law b) : b.host.core.Unheard := by
  suffices both : b.host.core.Upkeep ∧ b.host.core.Unheard from both.2
  refine reached.core_induction (P := fun c => c.Upkeep ∧ c.Unheard) (fun isLoaded naming => ?_) ?_
  · exact ⟨Core.upkeep_opening isLoaded naming, fun r mem => absurd mem (by simp [Core.opening])⟩
  · rintro c s c' ⟨upkeep, unheard⟩ step
    exact ⟨step.upkeep upkeep, step.unheard upkeep unheard⟩

/-- Nothing refers to a device that is yet to come. -/
theorem untouched_nextId (reached : Reachable free b) : b.Untouched b.host.nextId where
  absent := reached.upkeep.devices_nextId
  noRun e mem same := by
    have known := (reached.upkeep.bound (e.1, e.2.standing) (List.mem_map_of_mem mem)).2
    exact absurd known (by rw [show e.2.standing.device = _ from same]; exact Nat.lt_irrefl _)
  noOperation name p held same := absurd (reached.given name p held) (by rw [same]; exact Nat.lt_irrefl _)
  noDuty duty due same := absurd (reached.upkeep.due duty due _ same) (Nat.lt_irrefl _)
  unsubscribed s mem same := by
    have given := reached.once.given s mem
    rw [same] at given
    exact absurd given (Nat.lt_irrefl _)
  unheard r mem same := reached.unheard r mem (Nat.le_of_eq same.symm)

end Bench

/-! ## What the manager shows -/

namespace Host

variable {stands : String → Bool}

/-- The manager's devices by path are those in its table, in another order. -/
theorem mem_managed (managed : h.manager = some m) {e : String × DeviceId} :
    e ∈ h.managed ↔ e ∈ m.devices.entries := by
  rw [Host.managed, managed]
  exact (List.mergeSort_perm _ _).mem_iff

/-- The manager shows the paths that stand, sorted and each once, and which of them are usable. -/
theorem managerView_of_seats (seats : h.Seats stands) (inCustody : h.InCustody) (managed : h.manager = some m) :
    ∃ v, h.managerView = some v ∧ v.devices.Pairwise (· < ·) ∧ (∀ path, path ∈ v.devices ↔ stands path = true) ∧
      v.usable = v.devices.filter (fun path => ((m.devices.get? path).bind h.device?).any (·.usable)) ∧
      v.devices.length = m.devices.entries.length := by
  have listed {e : String × DeviceId} (mem : e ∈ h.managed) : m.devices.get? e.1 = some e.2 :=
    inCustody.listed m managed e ((mem_managed managed).1 mem)
  have perm : h.managed.Perm m.devices.entries := by
    rw [Host.managed, managed]
    exact List.mergeSort_perm _ _
  have sorted : (h.managed.map (·.1)).Pairwise (· ≤ ·) := by
    rw [Host.managed, managed, List.pairwise_map]
    let le (a b : String × DeviceId) : Bool := decide (a.1 ≤ b.1)
    have ordered : (m.devices.entries.mergeSort le).Pairwise fun a b => le a b = true :=
      List.pairwise_mergeSort (fun a b c => by simpa [le] using le_trans)
        (fun a b => by simpa [le] using le_total a.1 b.1) m.devices.entries
    exact ordered.imp fun below => of_decide_eq_true below
  have distinct : (h.managed.map (·.1)).Nodup := (perm.map _).nodup_iff.2 (seats.distinct m managed)
  refine ⟨{ devices := h.managed.map (·.1)
            usable := (h.managed.filter fun e => h.isUsable e.2).map (·.1) }, ?_, ?_, ?_, ?_, ?_⟩
  · rw [managerView, managed]
    rfl
  · exact (sorted.and distinct).imp fun both => lt_of_le_of_ne both.1 both.2
  · intro path
    rw [← seats.manages, Host.manages, managed]
    simp only [List.mem_map, Option.any_some, Table.contains, Option.isSome_iff_exists]
    constructor
    · rintro ⟨e, mem, rfl⟩
      exact ⟨e.2, listed mem⟩
    · rintro ⟨id, found⟩
      exact ⟨(path, id), (mem_managed managed).2 (Table.mem_entries_of_get? found), rfl⟩
  · simp only [List.filter_map]
    refine congrArg _ (List.filter_congr fun e mem => ?_)
    simp only [Function.comp_apply, listed mem, Option.bind_some]
    rfl
  · rw [List.length_map, perm.length_eq]

/-! ## Who listens -/

/-- A listener is a device of the manager. -/
def isManaged (m : Manager) (l : Listener) : Bool := (m.devices.values.map Listener.device).contains l

/-- A device that is there has one subscription. -/
theorem count_device (once : h.core.Once) (listening : h.core.Listening) {d : Device}
    (there : h.device? id = some d) : (h.subscriptions.map (·.listener)).count (.device id) = 1 := by
  obtain ⟨s, mem, same⟩ := listening.listens id d there
  exact List.count_eq_one_of_mem once.distinct (same ▸ List.mem_map_of_mem mem)

/-- The registry tells each device of the manager, and others. -/
theorem listenerCount_of_seats (seats : h.Seats stands) (inCustody : h.InCustody) (once : h.core.Once)
    (listening : h.core.Listening) (managed : h.manager = some m) :
    h.listenerCount = m.devices.entries.length +
      h.subscriptions.countP fun s => h.listenerLives s.listener && !isManaged m s.listener := by
  have listed {e : String × DeviceId} (mem : e ∈ m.devices.entries) : m.devices.get? e.1 = some e.2 :=
    inCustody.listed m managed e mem
  have there {e : String × DeviceId} (mem : e ∈ m.devices.entries) : ∃ d, h.device? e.2 = some d := by
    obtain ⟨d, found, -⟩ := seats.seat m e.1 e.2 managed (listed mem)
    exact ⟨d, found⟩
  -- the manager's devices are distinct, and they are the managed ones among those who listen
  have distinct : (m.devices.values.map Listener.device).Nodup := by
    rw [Table.values, List.map_map]
    refine List.Nodup.map_on ?_ (List.Nodup.of_map _ (seats.distinct m managed))
    intro e mem e' mem' same
    have ids : e.2 = e'.2 := Listener.device.inj same
    have kept {e : String × DeviceId} (mem : e ∈ m.devices.entries) : h.kept? (.manager e.1) = some e.2 := by
      rw [kept?, managed]
      exact listed mem
    have paths := Keeper.manager.inj (inCustody.custody.sole _ _ e.2 (kept mem) (ids ▸ kept mem'))
    exact Prod.ext paths ids
  have perm : ((h.subscriptions.map (·.listener)).filter (isManaged m)).Perm
      (m.devices.values.map Listener.device) := by
    refine (List.perm_ext_iff_of_nodup (once.distinct.filter _) distinct).2 fun l => ?_
    rw [List.mem_filter, isManaged, List.contains_iff_mem, and_iff_right_iff_imp]
    intro mem
    simp only [Table.values, List.mem_map] at mem
    obtain ⟨id, ⟨e, mem, rfl⟩, rfl⟩ := mem
    obtain ⟨d, found⟩ := there mem
    obtain ⟨s, mem, same⟩ := listening.listens e.2 d found
    exact same ▸ List.mem_map_of_mem mem
  have lives {l : Listener} (mem : isManaged m l = true) : h.listenerLives l = true := by
    rw [isManaged, List.contains_iff_mem] at mem
    simp only [Table.values, List.mem_map] at mem
    obtain ⟨id, ⟨e, mem, rfl⟩, rfl⟩ := mem
    obtain ⟨d, found⟩ := there mem
    rw [listenerLives, Table.contains]
    exact Option.isSome_iff_exists.2 ⟨d, found⟩
  have counted : h.subscriptions.countP (fun s => isManaged m s.listener) = m.devices.entries.length := by
    calc h.subscriptions.countP (fun s => isManaged m s.listener)
        = (h.subscriptions.map (·.listener)).countP (isManaged m) := by
          rw [List.countP_map]
          rfl
      _ = (m.devices.values.map Listener.device).length := by
          rw [List.countP_eq_length_filter, perm.length_eq]
      _ = m.devices.entries.length := by rw [List.length_map, Table.values, List.length_map]
  rw [listenerCount, ← counted, List.countP_eq_countP_filter_add _ _ fun s => isManaged m s.listener]
  rw [List.countP_filter, List.countP_filter]
  congr 1
  refine List.countP_congr fun s _ => ?_
  simp only [Bool.and_eq_true, and_iff_right_iff_imp]
  exact lives

end Host

/-! ## Paths that are added -/

namespace Host

/-- To add a path that the manager has changes nothing, for whoever keeps the events. -/
theorem obey_deviceAdded_of_listed (managed : h.manager = some m) (listed : m.devices.contains path) :
    h.obey (.deviceAdded path) = h := by
  rw [obey, deviceAddedAndHeard, manages, managed, Option.any_some, if_pos listed]

/-- Somebody keeps the events of a device that the manager takes up. -/
theorem obey_deviceAdded_of_unlisted (managed : h.manager = some m) (unlisted : m.devices.get? path = none) :
    h.obey (.deviceAdded path) = (h.deviceAdded path).receive path h.nextId := by
  have absent : ¬ m.devices.contains path = true := by
    rw [Table.contains, unlisted]
    simp
  obtain ⟨devices, same, -⟩ := deviceAdded_of_unlisted managed unlisted
  have found : (h.deviceAdded path).manager.bind (·.devices.get? path) = some h.nextId := by
    rw [same]
    simp only [Option.bind_some, Table.get?_set, if_true]
  rw [obey, deviceAddedAndHeard, manages, managed, Option.any_some, if_neg absent]
  simp only [found]

/-- A device that the manager takes up is new in all respects. -/
structure Renews (h : Host) (m : Manager) (path : String) (h' : Host) : Prop where
  manager : h'.manager = some { m with devices := m.devices.set path h.nextId }
  /-- nothing is known of it but its path, and all others are as they were -/
  devices : h'.device? = update h.device? h.nextId
    (some { Device.fresh path h.generation m.timeouts with started := true })
  /-- its run of discovery is yet to begin, and all others are as they were -/
  runs : h'.runs = h.runs.set (h.nextId + 1) { label := none, device := h.nextId }
  subscriptions : h'.subscriptions = h.subscriptions ++ [{ id := h.nextId, listener := .device h.nextId }]
  /-- it has told nothing yet -/
  receivers : ∀ r ∈ h'.receivers, r ∈ h.receivers ∨ r.events = []

/-- A path that the manager does not have gets a new device. -/
theorem renews_deviceAdded (managed : h.manager = some m) (unlisted : m.devices.get? path = none) :
    Renews h m path (h.deviceAdded path) := by
  obtain ⟨devices, same, looked⟩ := deviceAdded_of_unlisted managed unlisted
  rw [same]
  exact ⟨rfl, looked, rfl, rfl, fun _ => .inl⟩

/-- A command to add such a path has the same effect. -/
theorem renews_obey (managed : h.manager = some m) (unlisted : m.devices.get? path = none) :
    Renews h m path (h.obey (.deviceAdded path)) := by
  obtain ⟨manager, devices, runs, subscriptions, receivers⟩ := renews_deviceAdded managed unlisted
  rw [obey_deviceAdded_of_unlisted managed unlisted]
  refine ⟨manager, devices, runs, subscriptions, fun r mem => ?_⟩
  rcases List.mem_append.1 mem with mem | mem
  · exact receivers r (List.mem_filter.1 mem).1
  · exact .inr (by rw [List.mem_singleton.1 mem])

end Host

namespace Bench

/-! ## The books -/

/-- The books of a manager are in order, after what was asked of it. -/
structure Books (os : List Order) (b : Bench) (m : Manager) : Prop where
  /-- it holds one device for each path that stands, and none for any other -/
  holds : ∀ path, Stands os path ↔ ∃ id, m.devices.get? path = some id
  /-- which is there, under that path, with its discovery started -/
  lives : ∀ path id, m.devices.get? path = some id →
    ∃ d, b.host.device? id = some d ∧ d.path = path ∧ d.started
  /-- and is held in no other place -/
  sole : ∀ path id, m.devices.get? path = some id →
    (∀ path', m.devices.get? path' = some id → path' = path) ∧ ∀ name, b.host.handles.get? name ≠ some id
  /-- any other device that is there is behind a handle -/
  others : ∀ id d, b.host.device? id = some d →
    (∃ path, m.devices.get? path = some id) ∨ ∃ name, b.host.handles.get? name = some id
  /-- it shows the paths that stand, sorted and each once, and those among them that are usable -/
  shows : ∃ v, b.host.managerView = some v ∧ v.devices.Pairwise (· < ·) ∧
    (∀ path, path ∈ v.devices ↔ Stands os path) ∧
    v.usable = v.devices.filter (fun path => ((m.devices.get? path).bind b.host.device?).any (·.usable)) ∧
    v.devices.length = m.devices.entries.length
  /-- each of its devices has one subscription -/
  subscribed : ∀ path id, m.devices.get? path = some id → b.host.listenerLives (.device id) = true ∧
    (b.host.subscriptions.map (·.listener)).count (.device id) = 1
  /-- and all others are those of others -/
  listeners : b.host.listenerCount = m.devices.entries.length +
    b.host.subscriptions.countP fun s => b.host.listenerLives s.listener && !Host.isManaged m s.listener
  /-- to add a path that stands changes nothing -/
  keeps : ∀ path, Stands os path → b.host.deviceAdded path = b.host ∧
    ∀ ds, (b.host.withAgenda ds).obey (.deviceAdded path) = b.host.withAgenda ds
  /-- to add another one brings a device that is new in all respects, under an identifier that nothing
  refers to -/
  renews : ∀ path, ¬ Stands os path → b.Untouched b.host.nextId ∧
    b.host.Renews m path (b.host.deviceAdded path) ∧
    ∀ ds, (b.host.withAgenda ds).Renews m path ((b.host.withAgenda ds).obey (.deviceAdded path))

/-- **The books of a manager are in order**, whoever adds, removes or shuts down, in whatever order and also
inside notifications, and whatever else happens (`Ordered`). The manager has one device for each path that was
added and not removed since, it lists these paths and which of their devices are usable, to add a path that it
has changes nothing, and a path that is added anew gets a device of which nothing is known yet and to which
nothing refers (`Bench.Books`). -/
theorem books_of_ordered (ordered : Ordered os b) (managed : b.host.manager = some m) : b.Books os m := by
  have reached := ordered.reachable
  have inCustody := reached.inCustody
  have seats := ordered.seats (by rw [managed]; rfl)
  have stands (path : String) : Stands os path ↔ ∃ id, m.devices.get? path = some id := by
    rw [← Manager.standing_iff, ← seats.manages, Host.manages, managed, ← Option.isSome_iff_exists]
    rfl
  have unlisted {path : String} (fallen : ¬ Stands os path) : m.devices.get? path = none := by
    apply Option.eq_none_iff_forall_ne_some.2
    intro id found
    exact fallen ((stands path).2 ⟨id, found⟩)
  have kept (path : String) : b.host.kept? (.manager path) = m.devices.get? path := by
    rw [Host.kept?, managed]
    rfl
  exact
    { holds := stands
      lives := fun path id => seats.seat m path id managed
      sole := fun path id found => by
        rw [← kept] at found
        refine ⟨fun path' found' => ?_, fun name held => ?_⟩
        · rw [← kept] at found'
          exact Keeper.manager.inj (inCustody.custody.sole _ _ id found' found)
        · exact absurd (inCustody.custody.sole (.holder name) _ id held found) (by simp)
      others := fun id d there => by
        obtain ⟨k, found⟩ := (inCustody.custody.there_iff id).1 (by rw [there]; rfl)
        cases k with
        | holder name => exact .inr ⟨name, found⟩
        | manager path => exact .inl ⟨path, kept path ▸ found⟩
      shows := by
        obtain ⟨v, shown, sorted, listed, rest⟩ := Host.managerView_of_seats seats inCustody managed
        exact ⟨v, shown, sorted, fun path => (listed path).trans Manager.standing_iff, rest⟩
      subscribed := fun path id found => by
        obtain ⟨d, there, -⟩ := seats.seat m path id managed found
        refine ⟨?_, Host.count_device reached.once reached.listening there⟩
        rw [Host.listenerLives, Table.contains]
        exact Option.isSome_iff_exists.2 ⟨d, there⟩
      listeners := Host.listenerCount_of_seats seats inCustody reached.once reached.listening managed
      keeps := fun path standing => by
        have listed : m.devices.contains path = true := Option.isSome_iff_exists.2 ((stands path).1 standing)
        exact ⟨Host.deviceAdded_of_listed managed listed, fun ds =>
          Host.obey_deviceAdded_of_listed (h := b.host.withAgenda ds) managed listed⟩
      renews := fun path fallen => ⟨untouched_nextId reached, Host.renews_deviceAdded managed (unlisted fallen),
        fun ds => Host.renews_obey (h := b.host.withAgenda ds) managed (unlisted fallen)⟩ }

/-- What is asked of the manager in moves that are made one after the other. -/
def allOrders : Bench → List Move → List Order
  | _, [] => []
  | b, x :: xs => match b.make x with
    | some c => b.orders x ++ c.allOrders xs
    | none => []

/-- The orders of a run may be read off its moves. -/
theorem Ordered.makeAll (ordered : Ordered os b) (xs : List Move) :
    Ordered (os ++ b.allOrders xs) (b.makeAll xs) := by
  induction xs generalizing os b with
  | nil => rwa [allOrders, List.append_nil]
  | cons x xs ih =>
    cases made : b.make x with
    | some c =>
      simp only [allOrders, Bench.makeAll, made]
      rw [← List.append_assoc]
      exact ih (ordered.move x made)
    | none => simpa only [allOrders, Bench.makeAll, made, List.append_nil] using ordered

/-- The manager takes up a device, and a watcher has it let go of the device and take it up again in the
middle of the announcement of the profile that the device hands in. -/
def replacing : List Move :=
  let rule : Rule := { on := .added, uuid := none, steps := [.deviceRemoved "/d", .deviceAdded "/d"], times := 1 }
  [.step (.command (.subscribe "W" [rule])), .step (.command (.deviceAdded "/d")), .poll 2] ++
    List.replicate 12 .act

/-- The bench after that run. -/
def replaced : Bench := (opening .bluez4 (.stub (offering "1116-0")) true (some {})).makeAll replacing

/-- A device hands in its profile, and the watcher that hears of it has the path removed and added again: a
device under another number has taken its place before the notification is over. -/
theorem books_replaced :
    Ordered [.add "/d", .remove "/d", .add "/d"] replaced ∧ replaced.host.agenda ≠ [] ∧
      ∃ m, replaced.host.manager = some m ∧ m.devices.get? "/d" = some 3 ∧
        replaced.Books [.add "/d", .remove "/d", .add "/d"] m := by
  have ordered : Ordered [.add "/d", .remove "/d", .add "/d"] replaced :=
    (Ordered.opening .bluez4 (.stub (offering "1116-0")) true {} .byAddress).makeAll replacing
  have managed : replaced.host.manager = some (replaced.host.manager.get (by rfl)) := (Option.some_get _).symm
  have busy : replaced.host.agenda.length = 7 := by rfl
  exact ⟨ordered, List.ne_nil_of_length_pos (by rw [busy]; decide), _, managed, by rfl,
    books_of_ordered ordered managed⟩

end Bench

end Piconet
