import Piconet.Proofs.CancelledOperations
import Piconet.Proofs.DroppedDevices

/-!
# What becomes of the record of a session

`Bench.Converses` is every run whatever, with what passes on the sessions of one device. What passed
says how far the session has come (`Session.Shape.after?`), and the record of the device is the record
of that: an operation that its checks end leaves it alone, opening a session sets the role at once and
takes it back if the call fails, and closing one gives up role and interface at once. An operation may
be dropped at any time, and then the record stays as it is.
-/

namespace Piconet

open Bench (Calling free)

variable {id : DeviceId} {d e : Device} {ts said : List Talk} {op : Operation} {name : String}
  {p : Pending}

/-! ## How far a session has come -/

namespace Session.Shape

/-- How far a session has come once one more thing passes on it; there is no answer where that cannot
pass. A call is made for a device as it was before the call, with the record of the session so far. -/
def next? : Shape → Talk → Option Shape
  | .idle, .called d (.connect r) =>
    if d.session = Shape.idle.session then some (.connecting r) else none
  | .connecting r, .ended (.ok (some x)) => some (.up r x)
  | .connecting _, .ended (.error _) => some .idle
  | .up r x, .called d (.disconnect r' _) =>
    if r' = r ∧ d.session = (Shape.up r x).session then some .closing else none
  | .closing, .ended _ => some .idle
  | _, _ => none

/-- How far a session has come after all that passed on it. -/
def after? (ts : List Talk) : Option Shape := ts.foldlM next? .idle

variable {shape : Shape} {t t' : Talk}

theorem after?_concat :
    after? (ts ++ [t]) = some shape ↔ ∃ before, after? ts = some before ∧ before.next? t = some shape := by
  simp [after?, Option.bind_eq_some_iff]

theorem after?_concat_concat : after? (ts ++ [t, t']) = some shape ↔
    ∃ first second, after? ts = some first ∧ first.next? t = some second ∧ second.next? t' = some shape := by
  rw [← List.singleton_append, ← List.append_assoc, after?_concat]
  simp only [after?_concat]
  constructor
  · rintro ⟨second, ⟨first, passed, next⟩, last⟩
    exact ⟨first, second, passed, next, last⟩
  · rintro ⟨first, second, passed, next, last⟩
    exact ⟨second, ⟨first, passed, next⟩, last⟩

variable {next : Shape} {r : Role} {i : Option String} {o : Outcome}

/-- The opening call is made where nothing is open. -/
theorem of_next?_connect (passed : shape.next? (.called d (.connect r)) = some next) :
    d.session = Shape.idle.session ∧ next = .connecting r := by
  cases shape <;> simp_all [next?]

/-- The closing call is made where a session of the role is up. -/
theorem of_next?_disconnect (passed : shape.next? (.called d (.disconnect r i)) = some next) :
    next = .closing := by
  cases shape <;> simp_all [next?]

end Session.Shape

/-! ## Operations -/

open Session (Shape)

/-- Why the checks of an operation end it, on a device that is there. -/
inductive Operation.Refuses : Operation → ConnectionError → Prop
  | busy (op : Operation) : Refuses op .sessionBusy
  | notInitialized (r : Role) : Refuses (.connect r) .notInitialized
  | unsupportedBearer (r : Role) : Refuses (.connect r) (.unsupportedBearer r)
  | notConnected : Refuses .disconnect .notConnected

/-- A device whose session has come so far. A role is on record only where session calls can be made. -/
structure Device.Shows (d : Device) (shape : Shape) : Prop where
  record : d.session = shape.session
  bound : d.session.role.isSome → d.bound

namespace Operation

variable {shape : Shape} {after : Option Device} {o : Outcome} {call : EndpointCall}

/-- **An operation that its checks end leaves its device as it was.** One that closes a session finds
its interface on record and the device ready for the call, so it never gives up either for nothing. -/
theorem refused (shows' : d.Shows shape) (started : op.start (some d) = .ended after o) :
    after = some d ∧ ∃ why, op.Refuses why ∧ o = .error why := by
  cases op with
  | connect r =>
    simp only [start, Device.beginConnect] at started
    split at started
    · cases started
      exact ⟨rfl, _, .busy _, rfl⟩
    split at started
    · cases started
      exact ⟨rfl, _, .notInitialized r, rfl⟩
    split at started
    · cases started
      exact ⟨rfl, _, .unsupportedBearer r, rfl⟩
    split at started
    · cases started
      exact ⟨rfl, _, .notInitialized r, rfl⟩
    · cases started
  | disconnect =>
    simp only [start, Device.beginDisconnect] at started
    split at started
    · cases started
      exact ⟨rfl, _, .busy _, rfl⟩
    next free =>
    split at started
    · cases started
      exact ⟨rfl, _, .notConnected, rfl⟩
    next r role =>
    -- the session is up, so neither of the two checks that are left ends the operation
    obtain ⟨x, rfl⟩ := Shape.up_of_free shows'.record (by simpa using free) role
    have interface : d.session.interface = some x := by rw [shows'.record]; rfl
    have bound : d.bound = true := shows'.bound (by rw [role]; rfl)
    simp [interface, bound] at started

/-- **The call of an operation takes the session one step on**, and the record at once with it. -/
theorem called (shows' : d.Shows shape) (started : op.start (some d) = .calling e call) :
    shape.call? = none ∧ ∃ shape', shape.next? (.called d call) = some shape' ∧ e.Shows shape' ∧
      shape'.call? = some op := by
  have record := shows'.record
  cases op with
  | connect r =>
    obtain ⟨free, -, -, -, bound, rfl, rfl⟩ := Device.of_beginConnect started
    obtain rfl := Shape.idle_of_free record free.1 free.2
    refine ⟨rfl, .connecting r, if_pos record, ⟨?_, fun _ => bound⟩, rfl⟩
    rw [record]
    rfl
  | disconnect =>
    obtain ⟨free, r, role, -, rfl, rfl⟩ := Device.of_beginDisconnect started
    obtain ⟨x, rfl⟩ := Shape.up_of_free record free role
    exact ⟨rfl, .closing, if_pos ⟨rfl, record⟩, ⟨rfl, by simp⟩, rfl⟩

/-- **So does the end of its call.** -/
theorem finished (shows' : d.Shows shape) (calls : shape.call? = some op)
    (r : Except ConnectionError String) :
    ∃ e shape', (op.finish r (some d)).1 = some e ∧
      shape.next? (.ended (op.finish r (some d)).2) = some shape' ∧ e.Shows shape' ∧
      shape'.call? = none := by
  have record := shows'.record
  cases shape with
  | idle | up => exact absurd calls (by simp [Shape.call?])
  | connecting role =>
    obtain rfl := Option.some.inj calls
    have bound : d.bound = true := shows'.bound (by rw [record]; rfl)
    cases r with
    | ok x =>
      refine ⟨_, .up role x, rfl, rfl, ⟨?_, fun _ => bound⟩, rfl⟩
      rw [Device.finishConnect, record]
      rfl
    | error _ => exact ⟨_, .idle, rfl, rfl, ⟨rfl, fun _ => bound⟩, rfl⟩
  | closing =>
    obtain rfl := Option.some.inj calls
    refine ⟨_, .idle, rfl, rfl, ⟨?_, ?_⟩, rfl⟩
    · rw [Device.finishDisconnect, record]
      rfl
    · simp [Device.finishDisconnect, record, Shape.session]

end Operation

/-- A device with which session calls can be made keeps to that. -/
theorem Core.Runs.bound {law : Core → Registry.Request → Prop} {c c' : Core} (runs : Core.Runs law c c')
    (known : id < c.nextId) (found : c.devices id = some d) (there : c'.devices id = some e)
    (bound : d.bound) : e.bound := by
  induction runs generalizing e with
  | refl =>
    obtain rfl := Option.some.inj (found.symm.trans there)
    exact bound
  | tail runs step ih =>
    obtain ⟨s, step⟩ := step
    have known := Nat.lt_of_lt_of_le known (Core.Runs.nextId_le runs)
    rcases step.origin there with ⟨x, before, revises⟩ | ⟨new, -⟩
    · exact revises.bound (ih before)
    · exact absurd known (by rw [new]; exact Nat.lt_irrefl _)

namespace Bench

variable {b c : Bench}

/-- The record of a device shows how far its session has come, by what passed on it, and an operation
that has its call on its way is the one that the record shows. -/
structure Records (id : DeviceId) (ts : List Talk) (b : Bench) : Prop where
  begun : ts ≠ [] → id < b.host.nextId
  one : ∀ name name' op op', Calling b.operations id name op → Calling b.operations id name' op' →
    name = name'
  stands : ∀ d, b.host.device? id = some d → ∃ shape, Shape.after? ts = some shape ∧ d.Shows shape ∧
    ∀ name op, Calling b.operations id name op → shape.call? = some op

namespace Records

/-- What keeps the record, and adds to no operation on its way, keeps all. -/
theorem of_same (records : Records id ts b) (next : b.host.nextId ≤ c.host.nextId)
    (fewer : ∀ n op, Calling c.operations id n op → Calling b.operations id n op)
    (same : ∀ e, c.host.device? id = some e → ∃ d, b.host.device? id = some d ∧
      e.session = d.session ∧ (d.bound → e.bound)) : Records id ts c where
  begun passed := Nat.lt_of_lt_of_le (records.begun passed) next
  one n n' op op' calling calling' := records.one n n' op op' (fewer n op calling) (fewer n' op' calling')
  stands e there := by
    obtain ⟨d, found, session, bound⟩ := same e there
    obtain ⟨shape, after, shows', agrees⟩ := records.stands d found
    refine ⟨shape, after, ⟨session.trans shows'.record, fun role => ?_⟩, fun n op calling =>
      agrees n op (fewer n op calling)⟩
    exact bound (shows'.bound (session ▸ role))

/-- What the core leaves out does not matter, nor that there are fewer operations. -/
theorem congr (records : Records id ts b) (core : c.host.core = b.host.core)
    (fewer : ∀ n op, Calling c.operations id n op → Calling b.operations id n op) : Records id ts c := by
  refine records.of_same (Nat.le_of_eq (congrArg Core.nextId core).symm) fewer fun e there => ?_
  have devices : c.host.device? = b.host.device? := congrArg Core.devices core
  exact ⟨e, devices ▸ there, rfl, fun bound => bound⟩

/-- An operation makes a mark on a device, which leaves the record of this one as it was. -/
theorem of_putDevice {j : DeviceId} {after : Option Device} (records : Records id ts b)
    (core : c.host.core = (b.putDevice j after).host.core)
    (same : ∀ d, b.host.device? id = some d → j = id → after.getD d = d)
    (fewer : ∀ n op, Calling c.operations id n op → Calling b.operations id n op) : Records id ts c := by
  have next : c.host.nextId = b.host.nextId :=
    (congrArg Core.nextId core).trans (nextId_putDevice b j after)
  refine records.of_same (Nat.le_of_eq next.symm) fewer fun e there => ?_
  have devices : c.host.device? = (b.putDevice j after).host.device? := congrArg Core.devices core
  rw [devices, device?_putDevice] at there
  split at there
  · next mine =>
    obtain ⟨d, found, rfl⟩ := Option.map_eq_some_iff.1 there
    rw [← mine] at found
    exact ⟨d, found, by rw [same d found mine.symm], by rw [same d found mine.symm]; exact fun bound => bound⟩
  · exact ⟨e, there, rfl, fun bound => bound⟩

/-- An operation makes a mark on this device, and something passes on its session. -/
theorem of_mark {after : Device} {shape : Shape} {t : Talk} (known : id < b.host.nextId)
    (core : c.host.core = (b.putDevice id (some after)).host.core)
    (one : ∀ name name' op op', Calling c.operations id name op → Calling c.operations id name' op' →
      name = name')
    (passed : Shape.after? (ts ++ [t]) = some shape) (shows' : after.Shows shape)
    (agrees : ∀ n op, Calling c.operations id n op → shape.call? = some op) :
    Records id (ts ++ [t]) c where
  begun _ := Nat.lt_of_lt_of_eq known
    ((congrArg Core.nextId core).trans (nextId_putDevice b id (some after))).symm
  one := one
  stands e there := by
    have devices : c.host.device? = (b.putDevice id (some after)).host.device? :=
      congrArg Core.devices core
    rw [devices, device?_putDevice, if_pos rfl] at there
    obtain ⟨d, -, rfl⟩ := Option.map_eq_some_iff.1 there
    exact ⟨shape, passed, shows', agrees⟩

/-- **Whatever an operation does when it goes on** keeps the record in step with what passed. -/
theorem goes (records : Records id ts b) (upkeep : b.host.core.Upkeep) (given : b.Given)
    (goes : Goes id b c said) : Records id (ts ++ said) c := by
  cases goes with
  | wait core operations =>
    rw [List.append_nil]
    exact records.congr core fun n op calling => operations ▸ calling
  | refuse name p after outcome under created started core operations =>
    rw [List.append_nil]
    refine records.of_putDevice core ?_ fun n op calling => (calling_erase.1 (operations ▸ calling)).2
    rintro d found rfl
    obtain ⟨shape, -, shows', -⟩ := records.stands d found
    rw [found] at started
    rw [(Operation.refused shows' started).1]
    rfl
  | call name p q d after call under created found started device operation calling core operations =>
    by_cases mine : p.device = id
    · subst mine
      rw [if_pos rfl]
      obtain ⟨shape, passed, shows', agrees⟩ := records.stands d found
      obtain ⟨free, shape', next, shows'', calls⟩ := Operation.called shows' started
      -- no other operation has its call on its way
      have only (n : String) (op : Operation) (out : Calling c.operations p.device n op) :
          n = name ∧ p.operation = op := by
        rw [operations, calling_set] at out
        split at out
        · next same => exact ⟨same, operation ▸ out.2.2⟩
        · exact absurd (free.symm.trans (agrees n op out)) (by simp)
      refine .of_mark (upkeep.known _ d found) core ?_ (Shape.after?_concat.2 ⟨_, passed, next⟩) shows'' ?_
      · intro n n' op op' out out'
        rw [(only n op out).1, (only n' op' out').1]
      · intro n op out
        rw [calls, (only n op out).2]
    · rw [if_neg mine, List.append_nil]
      refine records.of_putDevice core (fun _ _ same => absurd same mine) fun n op out => ?_
      rw [operations, calling_set] at out
      split at out
      · exact absurd (device.symm.trans out.1) mine
      · exact out
  | finish name p r under calling core operations =>
    have fewer (n : String) (op : Operation) (out : Calling c.operations id n op) :
        n ≠ name ∧ Calling b.operations id n op := calling_erase.1 (operations ▸ out)
    by_cases mine : p.device = id
    · subst mine
      rw [if_pos rfl]
      have out : Calling b.operations p.device name p.operation :=
        (calling_of_get? under).2 ⟨rfl, calling, rfl⟩
      -- the only operation that had its call on its way is over
      have none (n : String) (op : Operation) : ¬ Calling c.operations p.device n op := fun other =>
        (fewer n op other).1 (records.one _ _ _ _ (fewer n op other).2 out)
      cases found : b.host.device? p.device with
      | none =>
        have same : c.host.core = b.host.core := by
          rw [core, found]
          rfl
        refine ⟨fun _ => ?_, fun _ _ _ _ other => absurd other (none _ _), fun e there => ?_⟩
        · exact Nat.lt_of_lt_of_eq (given name p under) (congrArg Core.nextId same).symm
        · have devices : c.host.device? = b.host.device? := congrArg Core.devices same
          exact absurd (devices ▸ there) (by simp [found])
      | some d =>
        obtain ⟨shape, passed, shows', agrees⟩ := records.stands d found
        obtain ⟨e, shape', ends, next, shows'', -⟩ := Operation.finished shows' (agrees _ _ out) r
        rw [found, ends] at core
        exact .of_mark (upkeep.known _ d found) core (fun _ _ _ _ other => absurd other (none _ _))
          (Shape.after?_concat.2 ⟨_, passed, next⟩) shows'' fun n op other => absurd other (none n op)
    · rw [if_neg mine, List.append_nil]
      exact records.of_putDevice core (fun _ _ same => absurd same mine) fun n op out => (fewer n op out).2

/-- What leaves sessions and their operations alone leaves the record as it was; a device that comes
has an empty one. -/
theorem aside (records : Records id ts b) (upkeep : b.host.core.Upkeep) (given : b.Given)
    (keeps : b.host.core.KeepsSessions c.host.core) (runs : Core.Runs free b.host.core c.host.core)
    (operations : c.operations = b.operations) : Records id ts c := by
  by_cases known : id < b.host.nextId
  · refine records.of_same keeps.nextId_le (fun n op calling => operations ▸ calling) fun e there => ?_
    rcases keeps.kept id e there with ⟨d, found, same⟩ | ⟨new, -⟩
    · exact ⟨d, found, same, Core.Runs.bound runs known found there⟩
    · exact absurd known (Nat.not_lt.2 new)
  · have nothing : ts = [] := by
      by_contra passed
      exact known (records.begun passed)
    have silent (n : String) (op : Operation) : ¬ Calling c.operations id n op := by
      rw [operations]
      rintro ⟨q, held, rfl, -⟩
      exact known (given n q held)
    subst nothing
    refine ⟨fun passed => absurd rfl passed, fun _ _ _ _ out => absurd out (silent _ _), fun e there => ?_⟩
    rcases keeps.kept id e there with ⟨d, found, -⟩ | ⟨-, idle⟩
    · exact absurd (upkeep.known id d found) known
    · exact ⟨.idle, rfl, ⟨idle, by simp [idle, Session.idle]⟩, fun n op out => absurd out (silent n op)⟩

end Records

/-! ## All runs -/

/-- All runs from an opening bench, with the calls and their ends on the sessions of a device. Operations may be
dropped at any time. -/
inductive Converses (id : DeviceId) : List Talk → Bench → Prop
  | opening (g : Generation) (t : Transport) (isLoaded : Bool) (manager : Option Timeouts)
      (naming : Naming) :
      Converses id [] (opening g t isLoaded manager naming)
  | move {ts : List Talk} {b c : Bench} (m : Move) (converses : Converses id ts b)
      (made : b.make m = some c) : Converses id (ts ++ b.talk id m) c

theorem Converses.reachable (converses : Converses id ts b) : Reachable free b := by
  induction converses with
  | opening g t isLoaded manager naming => exact ⟨g, t, isLoaded, manager, naming, .refl⟩
  | move m _ made ih => exact ih.trans (Reaches.refl.move m (fun _ _ _ => trivial) made)

/-- Every bench that can be reached is reached with something passing, or nothing. -/
theorem Reachable.converses (reached : Reachable free b) (id : DeviceId) : ∃ ts, Converses id ts b := by
  obtain ⟨g, t, isLoaded, manager, naming, run⟩ := reached
  induction run with
  | refl => exact ⟨[], .opening g t isLoaded manager naming⟩
  | move m _ _ made ih =>
    obtain ⟨ts, converses⟩ := ih
    exact ⟨_, converses.move m made⟩

theorem Talks.converses (talks : Talks id ts b) : Converses id ts b := by
  induction talks with
  | opening g t isLoaded manager naming => exact .opening g t isLoaded manager naming
  | move m _ _ made ih => exact ih.move m made

/-- **Every move keeps the record in step with what passed.** -/
theorem Records.make {m : Move} (records : Records id ts b) (reached : Reachable free b)
    (made : b.make m = some c) : Records id (ts ++ b.talk id m) c := by
  by_cases off : (b.scopeOf m).sessions
  · obtain ⟨s, rfl, goesOn⟩ := off
    obtain ⟨-, made⟩ := Option.ite_none_right_eq_some.1 made
    obtain rfl := Option.some.inj made
    obtain ⟨x, begins, goes⟩ := going_resume (b := b) goesOn
    have begun : Records id ts x := by
      cases begins with
      | held _ core operations => exact records.congr core fun n op out => operations ▸ out
      | anew name p d _ _ created core operations =>
        refine records.congr core fun n op out => ?_
        rw [operations, calling_set] at out
        split at out
        · exact absurd created out.2.1
        · exact out
    have deals := begins.deals reached.upkeep
    have kept := (goes id).preserves (P := fun ts c => c.host.core.Upkeep ∧ c.Given ∧ Records id ts c)
      (fun ts b c said ⟨upkeep, given, records⟩ goes =>
        ⟨goes.deals.runs.preserves (fun _ _ _ upkeep step => step.upkeep upkeep) upkeep,
          given_of_deals given goes.deals, records.goes upkeep given goes⟩)
      ⟨deals.runs.preserves (fun _ _ _ upkeep step => step.upkeep upkeep) reached.upkeep,
        given_of_deals reached.given deals, begun⟩
    exact kept.2.2
  · rw [talk_eq_nil off, List.append_nil]
    by_cases cancels : ∃ name, m = .step (.cancel name)
    · obtain ⟨name, rfl⟩ := cancels
      obtain ⟨-, made⟩ := Option.ite_none_right_eq_some.1 made
      obtain rfl := Option.some.inj made
      exact records.congr rfl fun n op out => (calling_erase.1 out).2
    · obtain ⟨keeps, runs, operations⟩ := keeps_aside reached off (not_exists.1 cancels) made
      exact records.aside reached.upkeep reached.given keeps runs operations

theorem Converses.records (converses : Converses id ts b) : Records id ts b := by
  induction converses with
  | opening g t isLoaded manager naming =>
    refine ⟨fun passed => absurd rfl passed, fun _ _ _ _ out => absurd out ?_, fun d there => absurd there ?_⟩
    · rintro ⟨p, held, -⟩
      simp [Bench.opening, Table.get?] at held
    · simp [Bench.opening, Host.device?, Table.get?]
  | move m converses made ih => exact ih.make converses.reachable made

/-- What operations leave on the record of a device that is there, after what passed on its sessions. -/
structure Leaves (id : DeviceId) (ts : List Talk) (b : Bench) (e : Device) : Prop where
  /-- an operation that its checks end fails, for one of four reasons, and leaves the device as it was -/
  refused : ∀ (op : Operation) after o, op.start (some e) = .ended after o →
    after = some e ∧ ∃ why, op.Refuses why ∧ o = .error why
  /-- whoever goes on with such an operation is told so, and the host does nothing, so no call is made -/
  untouched : ∀ s p after o, b.resumed? s = some p → p.device = id → p.phase = .created →
    p.operation.start (some e) = .ended after o →
      (b.doStep s).1.host = b.host ∧ (b.doStep s).2.outcome? = some o
  /-- where a role is on record session calls can be made, and unless one is on its way the interface is
  on record too -/
  role : e.session.role.isSome →
    e.bound ∧ (e.session.inFlight = none → e.session.interface.isSome)
  /-- while the opening call is on its way the role is on record -/
  opening : ∀ earlier d r, ts = earlier ++ [.called d (.connect r)] →
    e.session = { role := some r, inFlight := some .connect, interface := none }
  /-- when it failed, the record is as it was before the operation started -/
  failed : ∀ earlier d r why, ts = earlier ++ [.called d (.connect r), .ended (.error why)] →
    e.session = d.session
  /-- when it succeeded, the role is active on the interface that was returned -/
  opened : ∀ earlier d r i, ts = earlier ++ [.called d (.connect r), .ended (.ok i)] →
    ∃ x, i = some x ∧ e.session = { role := some r, inFlight := none, interface := some x }
  /-- role and interface are given up when the checks are passed, before the closing call is made -/
  givesUp : ∀ after call, Operation.disconnect.start (some e) = .calling after call →
    after.session = { role := none, inFlight := some .disconnect, interface := none }
  /-- so they are gone while the closing call is on its way -/
  closing : ∀ earlier d r i, ts = earlier ++ [.called d (.disconnect r i)] →
    e.session = { role := none, inFlight := some .disconnect, interface := none }
  /-- and nothing is left when it is over, whatever came of it -/
  closed : ∀ earlier d r i o, ts = earlier ++ [.called d (.disconnect r i), .ended o] →
    e.session = .idle

/-- **The session record is never left half done.** In every run, however operations are started, polled,
answered, waited for and dropped (`Converses`): an operation that its checks refuse touches nothing; a `connect`
whose call fails leaves the record as it was before, and one that succeeds leaves its role with the interface
that the endpoint named; and a `disconnect` clears role and interface before its call is made, and leaves
nothing in flight after it (`Leaves`). -/
theorem leaves_of_converses (converses : Converses id ts b) (there : b.host.device? id = some e) :
    Leaves id ts b e := by
  obtain ⟨shape, passed, shows', -⟩ := converses.records.stands e there
  have record := shows'.record
  have refused {op : Operation} {after : Option Device} {o : Outcome}
      (ended : op.start (some e) = .ended after o) := Operation.refused shows' ended
  refine ⟨fun _ _ _ => refused, ?_, ?_, ?_, ?_, ?_, ?_, ?_, ?_⟩
  · rintro s p after o resumed rfl created ended
    obtain ⟨rfl, -⟩ := refused ended
    exact doStep_of_refused resumed created there ended
  · intro role
    refine ⟨shows'.bound role, fun free => ?_⟩
    obtain ⟨r, role⟩ := Option.isSome_iff_exists.1 role
    obtain ⟨x, rfl⟩ := Shape.up_of_free record free role
    rw [record]
    rfl
  · rintro earlier d r rfl
    obtain ⟨before, -, call⟩ := Shape.after?_concat.1 passed
    obtain ⟨-, rfl⟩ := Shape.of_next?_connect call
    exact record
  · rintro earlier d r why rfl
    obtain ⟨before, out, -, call, ends⟩ := Shape.after?_concat_concat.1 passed
    obtain ⟨idle, rfl⟩ := Shape.of_next?_connect call
    obtain rfl := Option.some.inj ends
    exact record.trans idle.symm
  · rintro earlier d r i rfl
    obtain ⟨before, out, -, call, ends⟩ := Shape.after?_concat_concat.1 passed
    obtain ⟨-, rfl⟩ := Shape.of_next?_connect call
    cases i with
    | none => exact absurd ends (by simp [Shape.next?])
    | some x =>
      obtain rfl := Option.some.inj ends
      exact ⟨x, rfl, record⟩
  · intro after call started
    obtain ⟨-, r, -, -, rfl, -⟩ := Device.of_beginDisconnect started
    rfl
  · rintro earlier d r i rfl
    obtain ⟨before, -, call⟩ := Shape.after?_concat.1 passed
    obtain rfl := Shape.of_next?_disconnect call
    exact record
  · rintro earlier d r i o rfl
    obtain ⟨before, out, -, call, ends⟩ := Shape.after?_concat_concat.1 passed
    obtain rfl := Shape.of_next?_disconnect call
    obtain rfl := Option.some.inj ends
    exact record

/-- While a session is being closed its record is given up, and to open another one is refused. -/
theorem leaves_hangingUp :
    ∃ d e f, matched.host.device? 0 = some d ∧ (hangingUp 1).host.device? 0 = some e ∧
      (hangingUp 2).host.device? 0 = some f ∧
      Leaves 0 [.called d (.connect .dun), .ended (.ok (some "rfcomm0")),
        .called e (.disconnect .dun (some "rfcomm0"))] (hangingUp 2) f ∧
      f.session = { role := none, inFlight := some .disconnect, interface := none } ∧
      Operation.start (.connect .dun) (some f) = .ended (some f) (.error .sessionBusy) := by
  have found : matched.host.device? 0 = some ((matched.host.device? 0).get (by rfl)) :=
    (Option.some_get _).symm
  have opened : (hangingUp 1).host.device? 0 = some (((hangingUp 1).host.device? 0).get (by rfl)) :=
    (Option.some_get _).symm
  have there : (hangingUp 2).host.device? 0 = some (((hangingUp 2).host.device? 0).get (by rfl)) :=
    (Option.some_get _).symm
  have leaves := leaves_of_converses (talks_hangingUp found opened).converses there
  exact ⟨_, _, _, found, opened, there, leaves,
    leaves.closing [_, _] _ _ _ rfl, by rfl⟩

end Bench

end Piconet
