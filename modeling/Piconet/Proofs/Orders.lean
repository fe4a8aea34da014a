import Mathlib.Data.List.Induction
import Piconet.Proofs.DroppedDevices
import Piconet.Proofs.MonitorPaths

/-!
# What a manager is asked for

Users, watchers in the middle of an announcement and the monitor all ask a manager to take up a device,
to let go of one, or to let go of all (`Manager.Order`). A path stands if it was added and was neither
removed nor shut down since (`Manager.Stands`), and those are the paths that the manager has, each with
a device of that path (`Host.Seats`). One lemma says what an order does, another that everything else
leaves the manager and its devices where they are; `Bench.Ordered` is every run with the orders in it.
-/

namespace Piconet

open Function (update)
open Bench (free opening)

/-- What anybody asks of a manager. -/
inductive Manager.Order where
  | add (path : String)
  | remove (path : String)
  /-- to let go of all devices -/
  | shutdown
  deriving DecidableEq, Repr

namespace Manager

variable {os : List Order} {o : Order} {path : String}

/-- A path was added, and was neither removed nor shut down since. -/
def Stands (os : List Order) (path : String) : Prop :=
  ∃ before after, os = before ++ .add path :: after ∧ .remove path ∉ after ∧ .shutdown ∉ after

/-- Which paths stand after an order. -/
def Order.after (stands : String → Bool) : Order → String → Bool
  | .add path => update stands path true
  | .remove path => update stands path false
  | .shutdown => fun _ => false

/-- Which paths stand after all orders. -/
def standing (os : List Order) : String → Bool := os.foldl Order.after fun _ => false

theorem stands_concat : Stands (os ++ [o]) path ↔
    o = .add path ∨ Stands os path ∧ o ≠ .remove path ∧ o ≠ .shutdown := by
  constructor
  · rintro ⟨before, after, same, kept, up⟩
    rcases List.eq_nil_or_concat after with rfl | ⟨after, o', rfl⟩
    · exact .inl (List.singleton_inj.1 (List.append_inj' same rfl).2)
    · rw [List.concat_eq_append] at same kept up
      rw [← List.cons_append, ← List.append_assoc] at same
      obtain ⟨rfl, last⟩ := List.append_inj' same rfl
      obtain rfl := List.singleton_inj.1 last
      rw [List.mem_append, List.mem_singleton, not_or] at kept up
      exact .inr ⟨⟨before, after, rfl, kept.1, up.1⟩, Ne.symm kept.2, Ne.symm up.2⟩
  · rintro (rfl | ⟨⟨before, after, rfl, kept, up⟩, noRemoval, noShutdown⟩)
    · exact ⟨os, [], rfl, List.not_mem_nil, List.not_mem_nil⟩
    · refine ⟨before, after ++ [o], by simp, ?_, ?_⟩
      · simpa [kept] using Ne.symm noRemoval
      · simpa [up] using Ne.symm noShutdown

theorem standing_iff : standing os path = true ↔ Stands os path := by
  induction os using List.reverseRecOn with
  | nil =>
    refine iff_of_false (by simp [standing]) ?_
    rintro ⟨before, after, same, -⟩
    exact absurd same (by simp)
  | append_singleton os o ih =>
    rw [stands_concat, ← ih, standing, List.foldl_append, List.foldl_cons, List.foldl_nil]
    cases o with
    | add p =>
      simp only [Order.after, Function.update_apply]
      by_cases same : path = p
      · simp [same]
      · simp [same, Ne.symm same, standing]
    | remove p =>
      simp only [Order.after, Function.update_apply]
      by_cases same : path = p
      · simp [same]
      · simp [same, Ne.symm same, standing]
    | shutdown => simp [Order.after]

end Manager

open Manager (Order Stands standing)

/-! ## Who asks -/

/-- What a command asks of the manager. Who drops the manager drops its devices. -/
def Command.order? : Command → Option Order
  | .deviceAdded path => some (.add path)
  | .deviceRemoved path => some (.remove path)
  | .shutdown | .dropManager => some .shutdown
  | _ => none

/-- What the monitor asks of the manager. -/
def Monitor.Request.order : Monitor.Request → Order
  | .add path => .add path
  | .remove path => .remove path

/-- The paths of the devices that a monitor finds when it starts. -/
def Host.enumerated (h : Host) (p : Peer) : List String :=
  if h.generation.exportsObjectManager then
    match p.managedObjects.2 with
    | .value tree => Host.devicePaths h.generation tree
    | .failed _ | .never => []
  else []

/-- The paths that the monitor has the manager take up in a move with which it starts. -/
def Bench.found (b : Bench) : Move → List String
  | .step .monitor => b.peer?.elim [] b.host.enumerated
  | .step _ | .act | .poll _ | .follow _ | .report => []

/-- What is asked of the manager in a move, while there is one: by a command, by the monitor, or by one
that starts. -/
def Bench.orders (b : Bench) (m : Move) : List Order :=
  if b.host.manager.isSome then
    ((b.command? m).bind Command.order?).toList ++ ((b.asked? m).map (·.order)).toList ++ (b.found m).map .add
  else []

/-- The runs of a bench with a manager, with what the manager was asked to add and to remove, in that order. -/
inductive Bench.Ordered : List Order → Bench → Prop
  | opening (g : Generation) (t : Transport) (isLoaded : Bool) (timeouts : Timeouts) (naming : Naming) :
      Ordered [] (opening g t isLoaded (some timeouts) naming)
  | move {os : List Order} {b c : Bench} (m : Move) (ordered : Ordered os b) (made : b.make m = some c) :
      Ordered (os ++ b.orders m) c

/-! ## What an order does -/

variable {law : Core → Registry.Request → Prop} {c c' : Core} {h h' : Host} {id : DeviceId} {d e : Device}
  {o : Order} {os : List Order} {stands : String → Bool} {m : Manager}

namespace Core

/-- A device keeps its path. -/
theorem Revises.path_eq (revises : c.Revises c' id d e) : e.path = d.path := by
  cases revises with
  | same | start | session | power | decide | turnedDown | handedIn | conclude => rfl
  | edit _ _ edit _ _ =>
    cases edit with
    | bus | power | report => rfl
    | batch b =>
      split
      · rw [Device.survey_eq]
        rfl
      · rfl
    | fetch b =>
      rw [Device.survey_eq]
      rfl
  | hear _ hears _ => rw [Device.hear_eq hears]
  | adopt => rw [Device.track_eq]

/-- A device that is there after some steps and is not new was there before under the same path, and was
started before if it was started then. -/
theorem Runs.seat (runs : Runs law c c') (known : id < c.nextId) (there : c'.devices id = some e) :
    ∃ d, c.devices id = some d ∧ e.path = d.path ∧ (d.started → e.started) := by
  induction runs generalizing e with
  | refl => exact ⟨e, there, rfl, fun first => first⟩
  | tail runs step ih =>
    obtain ⟨s, step⟩ := step
    rcases step.origin there with ⟨x, before, revises⟩ | ⟨new, -⟩
    · obtain ⟨d, found, path, started⟩ := ih before
      exact ⟨d, found, revises.path_eq.trans path, fun first => revises.started (started first)⟩
    · exact absurd known (Nat.not_lt.2 (new ▸ Runs.nextId_le runs))

end Core

namespace Host

variable {path : String}

/-- What an order makes of a host. -/
def carryOut (h : Host) : Order → Host
  | .add path => h.deviceAdded path
  | .remove path => h.deviceRemoved path
  | .shutdown => h.shutdown

theorem heed_eq (h : Host) (q : Monitor.Request) : h.heed q = h.carryOut q.order := by
  cases q <;> rfl

/-- A path that the manager has already changes nothing. -/
theorem deviceAdded_of_listed (managed : h.manager = some m) (listed : m.devices.contains path) :
    h.deviceAdded path = h := by
  simp only [deviceAdded, managed, listed, if_true]

/-- The manager takes up a device under a path that it does not have. -/
theorem deviceAdded_of_unlisted (managed : h.manager = some m) (unlisted : m.devices.get? path = none) :
    ∃ devices, h.deviceAdded path = { h with
        devices
        subscriptions := h.subscriptions ++ [{ id := h.nextId, listener := .device h.nextId }]
        runs := h.runs.set (h.nextId + 1) { label := none, device := h.nextId }
        nextId := h.nextId + 2
        manager := some { m with devices := m.devices.set path h.nextId } } ∧
      devices.get? = update h.device? h.nextId
        (some { Device.fresh path h.generation m.timeouts with started := true }) := by
  let d : Device := .fresh path h.generation m.timeouts
  have absent : m.devices.contains path = false := by rw [Table.contains, unlisted]; rfl
  have placed : (h.devices.set h.nextId d).get? h.nextId = some d := by
    rw [Table.get?_set, if_pos rfl]
  refine ⟨(h.devices.set h.nextId d).modify h.nextId fun _ => { d with started := true }, ?_, ?_⟩
  · simp only [deviceAdded, managed, absent, create, startRun, device?, setDevice]
    rw [placed]
    rfl
  · funext j
    rw [Table.get?_modify, Function.update_apply]
    split
    · rw [placed]
      rfl
    · next other => rw [Table.get?_set, if_neg other]; rfl

/-- The manager has the paths that stand, each once, and under each a device of that path whose
discovery was started. -/
structure Seats (h : Host) (stands : String → Bool) : Prop where
  manages : h.manages = stands
  distinct : ∀ m, h.manager = some m → m.devices.keys.Nodup
  seat : ∀ m path id, h.manager = some m → m.devices.get? path = some id →
    ∃ d, h.device? id = some d ∧ d.path = path ∧ d.started

namespace Seats

/-- The manager is the same, and its devices keep their paths. -/
theorem congr (seats : h.Seats stands) (same : h'.manager = h.manager)
    (kept : ∀ m path id d, h.manager = some m → m.devices.get? path = some id → h.device? id = some d →
      ∃ e, h'.device? id = some e ∧ e.path = d.path ∧ (d.started → e.started)) : h'.Seats stands where
  manages := by
    funext path
    rw [← seats.manages, Host.manages, Host.manages, same]
  distinct m managed := seats.distinct m (same ▸ managed)
  seat m path id managed listed := by
    rw [same] at managed
    obtain ⟨d, found, here, started⟩ := seats.seat m path id managed listed
    obtain ⟨e, there, path, starts⟩ := kept m path id d managed listed found
    exact ⟨e, there, path.trans here, starts started⟩

/-- Neither the manager nor any device is touched. -/
theorem of_same (seats : h.Seats stands) (manager : h'.manager = h.manager) (devices : h'.devices = h.devices) :
    h'.Seats stands := by
  refine seats.congr manager fun _ _ id d _ _ found => ⟨d, ?_, rfl, fun first => first⟩
  rw [device?, devices]
  exact found

theorem deviceAdded (seats : h.Seats stands) (fresh : h.device? h.nextId = none)
    (managed : h.manager.isSome) (path : String) : (h.deviceAdded path).Seats (update stands path true) := by
  have manages := (Remanaged.deviceAdded managed path).manages_eq
  rw [seats.manages] at manages
  obtain ⟨m, managed⟩ := Option.isSome_iff_exists.1 managed
  cases listed : m.devices.get? path with
  | some id =>
    have same := deviceAdded_of_listed managed (by rw [Table.contains, listed]; rfl)
    rw [same] at manages ⊢
    exact { seats with manages }
  | none =>
    obtain ⟨devices, same, devices_eq⟩ := deviceAdded_of_unlisted managed listed
    refine ⟨manages, ?_, ?_⟩
    · rw [same]
      rintro m' ⟨⟩
      rw [Table.keys, Table.entries_set_of_get?_eq_none listed, List.map_append, List.map_singleton,
        ← List.concat_eq_append, List.nodup_concat]
      refine ⟨?_, seats.distinct m managed⟩
      intro mem
      obtain ⟨e, mem, key⟩ := List.mem_map.1 mem
      exact absurd (List.lookup_eq_none_iff.1 listed e mem) (by simp [key])
    · rw [same]
      rintro m' other id ⟨⟩ found
      change ∃ d, devices.get? id = some d ∧ d.path = other ∧ d.started
      rw [devices_eq, Function.update_apply]
      rw [Table.get?_set] at found
      split at found
      · next here =>
        obtain rfl := Option.some.inj found
        exact ⟨_, if_pos rfl, here.symm, rfl⟩
      · obtain ⟨d, there, seated⟩ := seats.seat m other id managed found
        refine ⟨d, (if_neg ?_).trans there, seated⟩
        rintro rfl
        exact absurd (fresh.symm.trans there) (by simp)

theorem deviceRemoved (seats : h.Seats stands) (inCustody : h.InCustody) (managed : h.manager.isSome)
    (path : String) : (h.deviceRemoved path).Seats (update stands path false) := by
  have manages := (Remanaged.deviceRemoved managed path).manages_eq
  rw [seats.manages] at manages
  obtain ⟨m, managed⟩ := Option.isSome_iff_exists.1 managed
  refine ⟨manages, ?_, ?_⟩
  all_goals
    rw [Host.deviceRemoved, managed]
    simp only
    cases listed : m.devices.get? path with
    | none =>
      simp only
      first | exact seats.distinct | exact seats.seat
    | some gone => ?_
  · rintro m' ⟨⟩
    exact (seats.distinct m managed).sublist (List.filter_sublist.map _)
  · rintro m' other id ⟨⟩ found
    rw [Table.get?_erase] at found
    obtain ⟨elsewhere, found⟩ := Option.ite_none_left_eq_some.1 found
    obtain ⟨d, there, seated⟩ := seats.seat m other id managed found
    refine ⟨d, ?_, seated⟩
    -- the device that goes is kept in no other place
    have kept {path : String} {id : DeviceId} (listed : m.devices.get? path = some id) :
        h.kept? (.manager path) = some id := by rw [kept?, managed]; exact listed
    have different : id ≠ gone := by
      rintro rfl
      exact elsewhere (Keeper.manager.inj (inCustody.custody.sole _ _ id (kept found) (kept listed)))
    exact (congrFun (device?_destroy h gone) id).trans ((Function.update_of_ne different _ _).trans there)

theorem shutdown (managed : h.manager.isSome) : h.shutdown.Seats fun _ => false := by
  obtain ⟨m, managed⟩ := Option.isSome_iff_exists.1 managed
  have emptied : h.shutdown.manager = some { m with devices := {} } := by rw [Host.shutdown, managed]
  refine ⟨?_, ?_, ?_⟩
  · funext path
    rw [Host.manages, emptied]
    rfl
  · rintro m' managed'
    obtain rfl := Option.some.inj (emptied.symm.trans managed')
    exact List.nodup_nil
  · rintro m' path id managed' listed
    obtain rfl := Option.some.inj (emptied.symm.trans managed')
    exact absurd listed (by simp [Table.get?])

/-- **What an order does.** -/
theorem carryOut (seats : h.Seats stands) (inCustody : h.InCustody) (fresh : h.device? h.nextId = none)
    (managed : h.manager.isSome) (o : Order) : (h.carryOut o).Seats (o.after stands) := by
  cases o with
  | add path => exact seats.deviceAdded fresh managed path
  | remove path => exact seats.deviceRemoved inCustody managed path
  | shutdown => exact shutdown managed

/-- The devices that a monitor finds are taken up one by one. -/
theorem deviceAddedAll (seats : h.Seats stands) (upkeep : h.core.Upkeep) (managed : h.manager.isSome)
    (paths : List String) : (paths.foldl Host.deviceAdded h).Seats
      ((paths.map Order.add).foldl Order.after stands) := by
  induction paths generalizing h stands with
  | nil => exact seats
  | cons path paths ih =>
    have added : Core.Changes Bench.free .wide h.core (h.deviceAdded path).core := h.steps_deviceAdded path
    exact ih (seats.deviceAdded upkeep.devices_nextId managed path) (added.steps.upkeep upkeep)
      (Remanaged.deviceAdded managed path).there

end Seats

end Host

/-! ## What a move does -/

namespace Bench

variable {b b' : Bench} {m : Move}

/-- A move that carries out a command is not the monitor's. -/
theorem orders_of_command {c : Command} (managed : b.host.manager.isSome) (given : b.command? m = some c) :
    b.orders m = c.order?.toList := by
  have others : b.asked? m = none ∧ b.found m = [] := by
    cases m with
    | act => exact ⟨rfl, rfl⟩
    | step s =>
      cases s with
      | command c' => exact ⟨rfl, rfl⟩
      | _ => exact absurd given (by simp [command?])
    | poll | follow | report => exact absurd given (by simp [command?])
  simp [orders, managed, given, others]

/-- What is neither a command, nor the monitor's turn nor its start, asks nothing of the manager. -/
theorem orders_eq_nil (given : b.command? m = none) (still : ∀ branch, m ≠ .follow branch)
    (unstarted : m ≠ .step .monitor) : b.orders m = [] := by
  have others : b.asked? m = none ∧ b.found m = [] := by
    cases m with
    | act | poll | report => exact ⟨rfl, rfl⟩
    | follow branch => exact absurd rfl (still branch)
    | step s =>
      cases s with
      | monitor => exact absurd rfl unstarted
      | _ => exact ⟨rfl, rfl⟩
  simp [orders, given, others]

/-- Who has nothing to ask of the manager leaves it alone. -/
theorem manager_make (made : b.make m = some b') (given : b.command? m = none)
    (still : ∀ branch, m ≠ .follow branch) (unstarted : m ≠ .step .monitor) :
    b'.host.manager = b.host.manager := by
  by_cases tends : m.step?.any Step.tends = true
  · -- an object changes, or a signal tells of one
    obtain ⟨s, turn, involved⟩ := (Option.any_eq_true _ _).1 tends
    obtain rfl : m = .step s := by
      cases m with
      | step s' => rw [Option.some.inj turn]
      | act | poll | follow | report => exact absurd turn (by simp [Move.step?])
    obtain ⟨-, made⟩ := Option.ite_none_right_eq_some.1 made
    obtain rfl := Option.some.inj made
    cases s with
    | command c => exact absurd given (by simp [command?])
    | monitor => exact absurd rfl unstarted
    | putObject path interfaces =>
      rw [doStep, withSome]
      cases b.peer? <;> rfl
    | signal s =>
      rw [doStep, withSome]
      cases b.peer? with
      | none => rfl
      | some p =>
        simp only [Option.elim_some, receiveSignal]
        split
        · rfl
        · refine Host.receiveSignal_induction (P := fun h => h.manager = b.host.manager) s rfl
            (fun _ _ => rfl) (fun g p path entries invalidated there same => ?_) fun _ _ _ same => same
          exact (Host.Unseen.announcePower g there path entries invalidated).manager.trans same
    | _ => exact absurd involved (by simp [Step.tends])
  · exact (unseen_make made (by simp [Tends, given, tends]) still).manager

/-- A move that leaves the manager alone leaves its devices in their seats. -/
theorem seats_aside (seats : b.host.Seats stands) (reached : Reachable free b) (made : b.make m = some b')
    (same : b'.host.manager = b.host.manager) : b'.host.Seats stands := by
  have inCustody := Host.InCustody.custody (inCustody_make reached.inCustody reached.upkeep made)
  have runs : Core.Runs free b.host.core b'.host.core :=
    runs_make reached.pursuitsLast (fun _ _ _ => trivial) made
  refine seats.congr same fun m path id d managed listed found => ?_
  have kept : b'.host.kept? (.manager path) = some id := by
    rw [Host.kept?, same, managed]
    exact listed
  obtain ⟨e, there⟩ := Option.isSome_iff_exists.1 ((inCustody.there_iff id).2 ⟨_, kept⟩)
  obtain ⟨d', found', path, started⟩ := Core.Runs.seat runs (reached.upkeep.known id d found) there
  obtain rfl := Option.some.inj (found.symm.trans found')
  exact ⟨e, there, path, started⟩

/-- A command does as it says. -/
theorem seats_obey (seats : h.Seats stands) (inCustody : h.InCustody) (fresh : h.device? h.nextId = none)
    (managed : h.manager.isSome) {c : Command} (manages : c.manages) :
    (h.obey c).Seats (c.order?.toList.foldl Order.after stands) := by
  cases c with
  | deviceAdded path =>
    have added := seats.deviceAdded fresh managed path
    simp only [Host.obey, Host.deviceAddedAndHeard]
    split
    · next listed =>
      -- the path stands already
      obtain ⟨m, managed⟩ := Option.isSome_iff_exists.1 managed
      rw [Host.manages, managed] at listed
      rwa [Host.deviceAdded_of_listed managed listed] at added
    · split
      · exact added.of_same rfl rfl
      · exact added
  | deviceRemoved path => exact seats.deviceRemoved inCustody managed path
  | shutdown => exact .shutdown managed
  | dropManager =>
    refine ⟨rfl, ?_, ?_⟩
    · rintro m ⟨⟩
    · rintro m path id ⟨⟩
  | _ => exact absurd manages (by simp [Command.manages])

theorem order?_of_not_manages {c : Command} (other : c.manages = false) : c.order? = none := by
  cases c <;> first | rfl | exact absurd other (by simp [Command.manages])

/-- The monitor passes on what it takes. -/
theorem seats_follow (seats : h.Seats stands) (inCustody : h.InCustody) (fresh : h.device? h.nextId = none)
    (managed : h.manager.isSome) (monitor : Monitor) (branch : Monitor.Branch) :
    (h.follow monitor branch).Seats
      (((monitor.take h.generation.deviceInterface branch).2.toList.map (·.order)).foldl Order.after stands) := by
  rw [Host.follow]
  generalize monitor.take h.generation.deviceInterface branch = taken
  obtain ⟨monitor', request⟩ := taken
  have passed : ({ h with monitor := some monitor' } : Host).Seats stands := seats.of_same rfl rfl
  have custody : ({ h with monitor := some monitor' } : Host).InCustody := inCustody.congr rfl rfl fun _ => rfl
  cases request with
  | none => exact passed
  | some q =>
    simp only [Option.elim_some, Host.heed_eq]
    exact passed.carryOut custody fresh managed q.order

/-- A monitor that starts has the manager take up what it finds. -/
theorem seats_startMonitor (seats : h.Seats stands) (upkeep : h.core.Upkeep) (managed : h.manager.isSome)
    (p : Peer) : (h.startMonitor p).Seats (((h.enumerated p).map Order.add).foldl Order.after stands) := by
  rw [Host.startMonitor, Host.enumerated]
  split
  · generalize p.managedObjects = answer
    obtain ⟨p', response⟩ := answer
    have asked : ({ h with transport := .peer p' } : Host).Seats stands := seats.of_same rfl rfl
    cases response with
    | value tree =>
      simp only
      exact (asked.deviceAddedAll upkeep managed (Host.devicePaths h.generation tree)).of_same rfl rfl
    | failed | never => exact asked.of_same rfl rfl
  · exact seats.of_same rfl rfl

/-- **Every move does to the manager what is asked of it in the move, and nothing else.** -/
theorem seats_make (seats : b.host.Seats stands) (reached : Reachable free b) (managed : b.host.manager.isSome)
    (made : b.make m = some b') : b'.host.Seats ((b.orders m).foldl Order.after stands) := by
  have fresh : b.host.device? b.host.nextId = none := reached.upkeep.devices_nextId
  have aside (same : b'.host.manager = b.host.manager) (none : b.orders m = []) :
      b'.host.Seats ((b.orders m).foldl Order.after stands) := by
    rw [none]
    exact seats_aside seats reached made same
  cases given : b.command? m with
  | some c =>
    have orders := orders_of_command managed given
    obtain ⟨ds, did⟩ := obey_of_make made given
    cases manages : c.manages with
    | true =>
      have waiting : (b.host.withAgenda ds).Seats stands := seats.of_same rfl rfl
      have custody : (b.host.withAgenda ds).InCustody := reached.inCustody.congr rfl rfl fun _ => rfl
      rw [orders, did]
      exact seats_obey waiting custody fresh managed manages
    | false =>
      refine aside ?_ (by rw [orders, order?_of_not_manages manages]; rfl)
      rw [did]
      exact (Host.Unseen.obey (b.host.withAgenda ds) manages).manager
  | none =>
    by_cases follows : ∃ branch, m = .follow branch
    · obtain ⟨branch, rfl⟩ := follows
      obtain ⟨-, made⟩ := Option.ite_none_right_eq_some.1 made
      obtain ⟨monitor, next, rfl⟩ := Option.map_eq_some_iff.1 made
      have orders : b.orders (.follow branch) =
          (monitor.take b.host.generation.deviceInterface branch).2.toList.map (·.order) := by
        simp [orders, managed, command?, found, asked?, next, Option.toList_map]
      rw [orders]
      exact seats_follow seats reached.inCustody fresh managed monitor branch
    by_cases starts : m = .step .monitor
    · subst starts
      obtain ⟨-, made⟩ := Option.ite_none_right_eq_some.1 made
      obtain rfl := Option.some.inj made
      obtain ⟨manager, there⟩ := Option.isSome_iff_exists.1 managed
      cases peer : b.peer? with
      | none =>
        refine aside ?_ (by simp [orders, command?, found, asked?, peer])
        rw [doStep, withSome, peer]
        rfl
      | some p =>
        have orders : b.orders (.step .monitor) = (b.host.enumerated p).map .add := by
          simp [orders, managed, command?, found, asked?, peer]
        have did : (b.doStep .monitor).1.host = b.host.startMonitor p := by
          simp only [doStep, withSome, peer, there, Option.elim_some]
          rfl
        rw [orders, did]
        exact seats_startMonitor seats reached.upkeep managed p
    · exact aside (manager_make made given (not_exists.1 follows) starts)
        (orders_eq_nil given (not_exists.1 follows) starts)

/-! ## All runs -/

/-- A manager that was dropped does not come back. -/
theorem manager_make_of_none (made : b.make m = some b') (unmanaged : b.host.manager = none) :
    b'.host.manager = none := by
  cases given : b.command? m with
  | some c =>
    obtain ⟨ds, did⟩ := obey_of_make made given
    have gone : (b.host.withAgenda ds).manager = none := unmanaged
    rw [did]
    cases c with
    | deviceAdded path =>
      simp only [Host.obey, Host.deviceAddedAndHeard, Host.manages, Host.deviceAdded, gone, Option.any_none,
        Option.bind_none, Bool.false_eq_true, if_false]
    | deviceRemoved path => simp only [Host.obey, Host.deviceRemoved, gone]
    | shutdown => simp only [Host.obey, Host.shutdown, gone]
    | dropManager => rfl
    | _ => exact (Host.Unseen.obey (b.host.withAgenda ds) rfl).manager.trans gone
  | none =>
    by_cases follows : ∃ branch, m = .follow branch
    · obtain ⟨branch, rfl⟩ := follows
      obtain ⟨-, made⟩ := Option.ite_none_right_eq_some.1 made
      obtain ⟨monitor, next, rfl⟩ := Option.map_eq_some_iff.1 made
      simp only [onHost, Host.follow]
      generalize monitor.take b.host.generation.deviceInterface branch = taken
      obtain ⟨monitor', _ | path | path⟩ := taken
      · exact unmanaged
      · simp only [Option.elim_some, Host.heed, Host.deviceAdded, unmanaged]
      · simp only [Option.elim_some, Host.heed, Host.deviceRemoved, unmanaged]
    by_cases starts : m = .step .monitor
    · subst starts
      obtain ⟨-, made⟩ := Option.ite_none_right_eq_some.1 made
      obtain rfl := Option.some.inj made
      have refused : (b.doStep .monitor).1 = b := by
        simp only [doStep, withSome, unmanaged, Option.elim_none]
        cases b.peer? <;> rfl
      rwa [refused]
    · exact (manager_make made given (not_exists.1 follows) starts).trans unmanaged

theorem Ordered.reachable (ordered : Ordered os b) : Reachable free b := by
  induction ordered with
  | opening g t isLoaded timeouts naming => exact ⟨g, t, isLoaded, some timeouts, naming, .refl⟩
  | move m _ made ih => exact ih.trans (Reaches.refl.move m (fun _ _ _ => trivial) made)

/-- **In every run the manager has the paths that stand**, each with a device in its seat. -/
theorem Ordered.seats (ordered : Ordered os b) (managed : b.host.manager.isSome) :
    b.host.Seats (standing os) := by
  induction ordered with
  | opening g t isLoaded timeouts naming =>
    refine ⟨rfl, ?_, ?_⟩
    · rintro m' ⟨⟩
      exact List.nodup_nil
    · rintro m' path id ⟨⟩ listed
      exact absurd listed (by simp [Table.get?])
  | @move os b c m ordered made ih =>
    have managed : b.host.manager.isSome := by
      by_contra unmanaged
      have gone := manager_make_of_none made (Option.not_isSome_iff_eq_none.1 unmanaged)
      exact absurd managed (by simp [gone])
    rw [standing, List.foldl_append]
    exact seats_make (ih managed) ordered.reachable managed made

end Bench

end Piconet
