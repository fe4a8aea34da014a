import Piconet.Proofs.OperationSteps

/-!
# Operations that are dropped on the way

An operation records on its device that its call is on its way, and takes that back when the call is
over. Whoever holds the operation may drop it in between, and then nobody takes it back: the device
shows a call on its way for good, and refuses every later operation (`Bench.Wedged`).

`Bench.Drops` is every run, with the operation on the session of one device that was dropped while
its call was on its way, if one was. There is at most one, as the device makes no call after that.
-/

namespace Piconet

open Bench (Calling Agrees free)

variable {id : DeviceId} {name : String} {op : Operation} {ts : List Talk} {d : Device}

/-- What a device records while the call of the operation is on its way. -/
def Operation.sessionCall : Operation → SessionCall
  | .connect _ => .connect
  | .disconnect => .disconnect

/-- A session shows a call on its way when an operation of its shape has one. -/
theorem Session.Shape.inFlight_session (shape : Shape) :
    shape.session.inFlight = shape.call?.map Operation.sessionCall := by
  cases shape <;> rfl

/-- While a call is on its way, according to the device, every operation is refused. -/
theorem Operation.start_of_inFlight (out : d.session.inFlight.isSome) :
    op.start (some d) = .ended (some d) (.error .sessionBusy) := by
  cases op with
  | connect r => simp [start, Device.beginConnect, out]
  | disconnect => simp [start, Device.beginDisconnect, out]

/-- While none is, only opening another session is refused as busy. -/
theorem Operation.open_of_busy {after : Option Device} (free : d.session.inFlight = none)
    (busy : op.start (some d) = .ended after (.error .sessionBusy)) :
    ∃ r, op = .connect r ∧ d.session.role.isSome := by
  cases op with
  | connect r =>
    refine ⟨r, rfl, ?_⟩
    by_contra closed
    simp only [start, Device.beginConnect, free, Option.isSome_none, closed, Bool.false_or] at busy
    repeat' split at busy
    all_goals simp_all
  | disconnect =>
    simp only [start, Device.beginDisconnect, free, Option.isSome_none] at busy
    repeat' split at busy
    all_goals simp_all

namespace Bench

variable {b c : Bench} {m : Move} {lost : Option Operation}

/-! ## What is dropped -/

/-- The operation on the session of a device that a move drops while its call is on its way. -/
def abandoned? (b : Bench) (id : DeviceId) (m : Move) : Option Operation :=
  (b.dropped? m).bind fun name => (b.operations.get? name).bind fun p =>
    if p.device = id ∧ p.phase ≠ .created then some p.operation else none

theorem abandoned?_eq_some : b.abandoned? id m = some op ↔
    ∃ name, b.dropped? m = some name ∧ Calling b.operations id name op := by
  simp only [abandoned?, Option.bind_eq_some_iff, Option.ite_none_right_eq_some, Calling,
    Option.some.injEq, and_assoc]

theorem not_abandons_of_eq_none (none : b.abandoned? id m = none) : ¬ b.Abandons id m := by
  rintro ⟨name, op, dropped, calling⟩
  have lost := abandoned?_eq_some.2 ⟨name, dropped, calling⟩
  exact absurd (none.symm.trans lost) (by simp)

/-- All runs from an opening bench, with the operation on the session of a device that was dropped while its
call was on its way, if one was. -/
inductive Drops (id : DeviceId) : Option Operation → Bench → Prop
  | opening (g : Generation) (t : Transport) (isLoaded : Bool) (manager : Option Timeouts)
      (naming : Naming) :
      Drops id none (opening g t isLoaded manager naming)
  | move {lost : Option Operation} {b c : Bench} (m : Move) (drops : Drops id lost b)
      (made : b.make m = some c) : Drops id (lost.or (b.abandoned? id m)) c

theorem Drops.reachable (drops : Drops id lost b) : Reachable free b := by
  induction drops with
  | opening g t isLoaded manager naming => exact ⟨g, t, isLoaded, manager, naming, .refl⟩
  | move m _ made ih => exact ih.trans (Reaches.refl.move m (fun _ _ _ => trivial) made)

/-! ## What is left of it -/

/-- A device shows a call on its way that no operation has made. -/
structure Wedged (id : DeviceId) (k : SessionCall) (b : Bench) : Prop where
  known : id < b.host.nextId
  stands : ∀ d, b.host.device? id = some d →
    d.session.inFlight = some k ∧ ∀ name op, ¬ Calling b.operations id name op

/-- What the core sees, and the operations, settle it. -/
theorem Wedged.of_core {k : SessionCall} (wedged : Wedged id k b) (core : c.host.core = b.host.core)
    (fewer : ∀ n op, Calling c.operations id n op → Calling b.operations id n op) :
    Wedged id k c where
  known := Nat.lt_of_lt_of_eq wedged.known (congrArg Core.nextId core).symm
  stands d there := by
    have devices : c.host.device? = b.host.device? := congrArg Core.devices core
    rw [devices] at there
    obtain ⟨out, silent⟩ := wedged.stands d there
    exact ⟨out, fun n op calling => silent n op (fewer n op calling)⟩

/-- An operation makes a mark, but not on this device, and no call on it. -/
theorem Wedged.of_putDevice {k : SessionCall} {j : DeviceId} {after : Option Device}
    (wedged : Wedged id k b) (core : c.host.core = (b.putDevice j after).host.core)
    (same : ∀ d, b.host.device? id = some d → j = id → after.getD d = d)
    (fewer : ∀ d, b.host.device? id = some d → ∀ n op, Calling c.operations id n op →
      Calling b.operations id n op) : Wedged id k c where
  known := by
    have next : c.host.nextId = b.host.nextId :=
      (congrArg Core.nextId core).trans (nextId_putDevice b j after)
    rw [next]
    exact wedged.known
  stands e there := by
    have devices : c.host.device? = (b.putDevice j after).host.device? :=
      congrArg Core.devices core
    rw [devices, device?_putDevice] at there
    have found : b.host.device? id = some e := by
      split at there
      · next mine =>
        subst mine
        obtain ⟨d, found, rfl⟩ := Option.map_eq_some_iff.1 there
        rw [same d found rfl]
        exact found
      · exact there
    obtain ⟨out, silent⟩ := wedged.stands e found
    exact ⟨out, fun n op calling => silent n op (fewer e found n op calling)⟩

/-- **A device that shows a call that nobody waits for shows it for good.** -/
theorem Wedged.deals {k : SessionCall} (wedged : Wedged id k b) (deals : Deals b c) :
    Wedged id k c := by
  -- the checks of an operation on the device refuse it
  have refused {d : Device} (found : b.host.device? id = some d) (op : Operation) :
      op.start (some d) = .ended (some d) (.error .sessionBusy) :=
    Operation.start_of_inFlight (by rw [(wedged.stands d found).1]; rfl)
  cases deals with
  | aside keeps runs operations =>
    refine ⟨Nat.lt_of_lt_of_le wedged.known keeps.nextId_le, fun e there => ?_⟩
    rcases keeps.kept id e there with ⟨d, found, same⟩ | ⟨new, -⟩
    · rw [same, operations]
      exact wedged.stands d found
    · exact absurd wedged.known (Nat.not_lt.2 new)
  | create name p known created core operations =>
    refine wedged.of_core core fun n op calling => ?_
    rw [operations, calling_set] at calling
    split at calling
    · exact absurd created calling.2.1
    · exact calling
  | drop name core operations =>
    refine wedged.of_core core fun n op calling => ?_
    rw [operations, calling_erase] at calling
    exact calling.2
  | refuse name p after outcome under created started core operations =>
    refine wedged.of_putDevice core ?_ ?_
    · rintro d found rfl
      rw [found, refused found] at started
      rw [← (Started.ended.inj started).1]
      rfl
    · intro d found n op calling
      rw [operations, calling_erase] at calling
      exact calling.2
  | call name p q d after call under created found started device operation calling core operations =>
    have other : p.device ≠ id := by
      rintro rfl
      rw [refused found] at started
      exact absurd started (by simp)
    refine wedged.of_putDevice core (fun _ _ mine => absurd mine other) ?_
    intro e found' n op calling
    rw [operations, calling_set] at calling
    split at calling
    · exact absurd (device.symm.trans calling.1) other
    · exact calling
  | finish name p r under calling core operations =>
    refine wedged.of_putDevice core ?_ ?_
    · rintro d found rfl
      have waiting : Calling b.operations p.device name p.operation :=
        (calling_of_get? under).2 ⟨rfl, calling, rfl⟩
      exact absurd waiting ((wedged.stands d found).2 name p.operation)
    · intro d found n op calling
      rw [operations, calling_erase] at calling
      exact calling.2

/-- An operation whose call is on its way is dropped, and nothing else happens. -/
theorem Protocol.wedged (protocol : Protocol id ts b) (calling : Calling b.operations id name op)
    (core : c.host.core = b.host.core)
    (left : ∀ n op, Calling c.operations id n op → n ≠ name ∧ Calling b.operations id n op) :
    Wedged id op.sessionCall c where
  known := by
    obtain ⟨p, held, rfl, -⟩ := calling
    exact Nat.lt_of_lt_of_eq (protocol.given name p held) (congrArg Core.nextId core).symm
  stands d there := by
    have devices : c.host.device? = b.host.device? := congrArg Core.devices core
    rw [devices] at there
    obtain ⟨shape, has, -, agrees⟩ := protocol.stands d there
    constructor
    · rw [Session.shape?_eq_some.1 has, shape.inFlight_session, (agrees.call op).1 ⟨name, calling⟩]
      rfl
    · -- there was no other operation with its call on its way
      intro n op' other
      obtain ⟨different, other⟩ := left n op' other
      exact different (agrees.one n name op' op other calling)

/-- **Who drops an operation while its call is on its way leaves its device to show it.** -/
theorem Protocol.abandon (protocol : Protocol id ts b) (dropped : b.dropped? m = some name)
    (calling : Calling b.operations id name op) (made : b.make m = some c) :
    Wedged id op.sessionCall c := by
  have later {x : Bench} (wedged : Wedged id op.sessionCall x) (dealings : Dealings x c) :
      Wedged id op.sessionCall c :=
    dealings.preserves (fun _ _ wedged deals => wedged.deals deals) wedged
  cases m with
  | act | poll | follow | report => exact absurd dropped (by simp [dropped?])
  | step s =>
    obtain ⟨-, made⟩ := Option.ite_none_right_eq_some.1 made
    obtain rfl := Option.some.inj made
    cases s with
    | cancel n =>
      obtain rfl : n = name := Option.some.inj dropped
      exact protocol.wedged calling rfl fun _ _ => calling_erase.1
    | operate device operation n provision isLazy favors =>
      obtain ⟨c, begins, goes⟩ :=
        going_resume (b := b) (s := .operate device operation n provision isLazy favors) rfl
      refine later ?_ (goes id).dealings
      cases begins with
      | held keeps => exact absurd (keeps.symm.trans dropped) (by simp)
      | anew n' p d dropped' found created core operations =>
        obtain rfl : n' = name := Option.some.inj (dropped'.symm.trans dropped)
        refine protocol.wedged calling core fun n op calling' => ?_
        rw [operations, calling_set] at calling'
        split at calling'
        · exact absurd created calling'.2.1
        · next other => exact ⟨other, calling'⟩
    | _ => exact absurd dropped (by simp [dropped?])

/-! ## All runs -/

/-- **In every run** either no operation was dropped on the way, or the device shows one that was. -/
theorem Drops.talks_or_wedged (drops : Drops id lost b) :
    (lost = none ∧ ∃ ts, Talks id ts b) ∨ ∃ op, lost = some op ∧ Wedged id op.sessionCall b := by
  induction drops with
  | opening g t isLoaded manager naming => exact .inl ⟨rfl, [], .opening g t isLoaded manager naming⟩
  | @move lost b c m drops made ih =>
    rcases ih with ⟨rfl, ts, talks⟩ | ⟨op, rfl, wedged⟩
    · rw [Option.none_or]
      cases abandons : b.abandoned? id m with
      | none => exact .inl ⟨rfl, _, talks.move m (not_abandons_of_eq_none abandons) made⟩
      | some op =>
        obtain ⟨name, dropped, calling⟩ := abandoned?_eq_some.1 abandons
        exact .inr ⟨op, rfl, talks.protocol.abandon dropped calling made⟩
    · refine .inr ⟨op, rfl, ?_⟩
      exact (dealings_make drops.reachable made).preserves
        (fun _ _ wedged deals => wedged.deals deals) wedged

/-- A run in which nothing is dropped on the way. -/
theorem Talks.drops (talks : Talks id ts b) : Drops id none b := by
  induction talks with
  | opening g t isLoaded manager naming => exact .opening g t isLoaded manager naming
  | @move ts b c m talks kept made ih =>
    have none : b.abandoned? id m = none := by
      apply Option.eq_none_iff_forall_ne_some.2
      intro op lost
      obtain ⟨name, dropped, calling⟩ := abandoned?_eq_some.1 lost
      exact kept ⟨name, op, dropped, calling⟩
    have drops := ih.move m made
    rwa [none] at drops

/-- **What `in_flight` says when operations are dropped.** While a device exists, its session record has a call
in flight if an operation waits for such a call, or was dropped while it did (`lost`), and not otherwise. So
once no operation waits any longer: if none was dropped on its way then nothing is in flight, and an operation
is refused with `SessionBusy` only if it is a `connect` and a session is open; and if one was, every later
operation is refused with `SessionBusy`. -/
theorem inFlight_iff_of_drops (drops : Drops id lost b) (there : b.host.device? id = some d) :
    (∀ k, d.session.inFlight = some k ↔ ∃ op : Operation, op.sessionCall = k ∧
      ((∃ name, Calling b.operations id name op) ∨ lost = some op)) ∧
    ((∀ name op, ¬ Calling b.operations id name op) → lost = none →
      d.session.inFlight = none ∧ ∀ (op : Operation) after,
        op.start (some d) = .ended after (.error .sessionBusy) →
          ∃ r, op = .connect r ∧ d.session.role.isSome) ∧
    (lost ≠ none → ∀ op : Operation, op.start (some d) = .ended (some d) (.error .sessionBusy)) := by
  rcases drops.talks_or_wedged with ⟨rfl, ts, talks⟩ | ⟨lost, rfl, wedged⟩
  · obtain ⟨shape, has, -, agrees⟩ := talks.protocol.stands d there
    have record : d.session.inFlight = shape.call?.map Operation.sessionCall := by
      rw [Session.shape?_eq_some.1 has, shape.inFlight_session]
    have shown (k : SessionCall) : d.session.inFlight = some k ↔
        ∃ op : Operation, op.sessionCall = k ∧
          ((∃ name, Calling b.operations id name op) ∨ none = some op) := by
      rw [record, Option.map_eq_some_iff]
      refine exists_congr fun op => ?_
      rw [← agrees.call op, and_comm]
      simp
    refine ⟨shown, ?_, fun lost => absurd rfl lost⟩
    intro silent _
    have free : d.session.inFlight = none := by
      apply Option.eq_none_iff_forall_ne_some.2
      intro k out
      obtain ⟨op, -, ⟨name, calling⟩ | lost⟩ := (shown k).1 out
      · exact silent name op calling
      · exact absurd lost (by simp)
    exact ⟨free, fun op after busy => Operation.open_of_busy free busy⟩
  · obtain ⟨out, silent⟩ := wedged.stands d there
    refine ⟨fun k => ?_, fun _ none => absurd none (by simp), fun _ op => ?_⟩
    · rw [out]
      constructor
      · intro same
        exact ⟨lost, Option.some.inj same, .inr rfl⟩
      · rintro ⟨op, rfl, ⟨name, calling⟩ | same⟩
        · exact absurd calling (silent name op)
        · rw [Option.some.inj same]
    · exact Operation.start_of_inFlight (by rw [out]; rfl)

/-- A session is opened, and whoever closes it gives up before the call is over. -/
def cutShort : Bench := (hangingUp 2).makeAll [.step (.cancel "close")]

/-- The operation that closes a session is dropped while its call is on its way: nobody waits for it, and it
stays in flight. -/
theorem inFlight_cutShort :
    ∃ d, Drops 0 (some .disconnect) cutShort ∧ cutShort.host.device? 0 = some d ∧
      (∀ name op, ¬ Calling cutShort.operations 0 name op) ∧
      d.session.inFlight = some .disconnect := by
  have found : matched.host.device? 0 = some ((matched.host.device? 0).get (by rfl)) :=
    (Option.some_get _).symm
  have opened : (hangingUp 1).host.device? 0 = some (((hangingUp 1).host.device? 0).get (by rfl)) :=
    (Option.some_get _).symm
  have drops : Drops 0 (some .disconnect) cutShort :=
    (talks_hangingUp found opened).drops.move (.step (.cancel "close")) (c := cutShort) (by rfl)
  have there : cutShort.host.device? 0 = some ((cutShort.host.device? 0).get (by rfl)) :=
    (Option.some_get _).symm
  have silent (name : String) (op : Operation) : ¬ Calling cutShort.operations 0 name op := by
    rintro ⟨p, held, -⟩
    exact absurd held (by rw [show cutShort.operations = {} from rfl]; simp [Table.get?])
  exact ⟨_, drops, there, silent, ((inFlight_iff_of_drops drops there).1 _).2 ⟨_, rfl, .inr rfl⟩⟩

/-- **An operation that was dropped keeps all others out**: no operation is left and no session is open, and yet
both `connect` and `disconnect` are refused with `SessionBusy`. -/
theorem wedged_cutShort :
    Reachable free cutShort ∧ cutShort.operations = {} ∧
      ∃ d, cutShort.host.device? 0 = some d ∧ d.session.role = none ∧
        d.session.inFlight = some .disconnect ∧
        Operation.start (.connect .dun) (some d) = .ended (some d) (.error .sessionBusy) ∧
        Operation.start .disconnect (some d) = .ended (some d) (.error .sessionBusy) := by
  refine ⟨?_, by rfl, (cutShort.host.device? 0).get (by rfl), (Option.some_get _).symm, by rfl, by rfl,
    by rfl, by rfl⟩
  have reached : Reachable free (hangingUp 2) :=
    (reachable_matched trivial).trans (reaches_makeAll _ _ fun _ _ => trivial)
  exact reached.trans (reaches_makeAll _ _ fun _ _ => trivial)

end Bench

end Piconet
