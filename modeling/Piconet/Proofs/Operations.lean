import Piconet.Proofs.Simulation.Session
import Piconet.Proofs.Table
import Piconet.Proofs.SessionTalk

/-!
# Operations keep the protocol

An operation that goes on, however far it comes, is a matter of itself, its device and what passed on
the sessions of the device. The record of the session says which operations have their calls on their
way: one, or none (`Bench.Agrees`). `Bench.Protocol` is what holds of all three.

To go on with an operation is to take a few steps (`Bench.Going`): it is refused, makes its call or is
ended (`Bench.Goes`). Each of them keeps the protocol and adds to what passed (`Pending.talk`).
-/

namespace Piconet

open Session (Shape)

/-! ## What passes -/

/-- What passes when an operation goes on, up to where it waits for its call to end; nothing if its
checks end it without a call. -/
def Pending.goesOn (p : Pending) (d? : Option Device) : Option (List Talk) :=
  match p.phase with
  | .calling .. => some []
  | .created =>
    match d?, p.operation.start d? with
    | some d, .calling _ call => some [.called d call]
    | _, _ => none

/-- What passes when an operation goes on and comes to an outcome, or to none yet. -/
def Pending.talk (p : Pending) (d? : Option Device) (outcome : Option Outcome) : List Talk :=
  match p.goesOn d? with
  | some ts => ts ++ (outcome.map Talk.ended).toList
  | none => []

/-- A call, as a stub takes it down. -/
def Talk.logged? : Talk → Option Call
  | .called d call => some (.session d.path call)
  | .ended _ => none

namespace Pending

variable {p : Pending} {d : Device} {d? : Option Device}

/-- An operation whose call is on its way has nothing to say but how it ended. -/
theorem talk_of_calling (p : Pending) (calling : p.phase ≠ .created) (o : Option Outcome) :
    p.talk d? o = (o.map Talk.ended).toList := by
  cases phase : p.phase with
  | created => exact absurd phase calling
  | calling => simp [talk, goesOn, phase]

/-- One that its checks end has nothing to say. -/
theorem talk_ended (p : Pending) (created : p.phase = .created) {after : Option Device}
    {outcome : Outcome} (started : p.operation.start d? = .ended after outcome)
    (o : Option Outcome) : p.talk d? o = [] := by
  simp only [talk, goesOn, created, started]

/-- One that passes its checks says so first. -/
theorem talk_calling (p : Pending) (created : p.phase = .created) {after : Device}
    {call : EndpointCall} (started : p.operation.start (some d) = .calling after call)
    (o : Option Outcome) : p.talk (some d) o = .called d call :: (o.map Talk.ended).toList := by
  simp [talk, goesOn, created, started]

/-- How a call ended is said after everything else. -/
theorem talk_eq_append (p : Pending) (on : p.goesOn d? ≠ none) (o : Option Outcome) :
    p.talk d? o = p.talk d? none ++ (o.map Talk.ended).toList := by
  obtain ⟨said, on⟩ := Option.ne_none_iff_exists'.1 on
  simp [talk, on]

end Pending

namespace Bench

/-- An operation on the session of a device has its call on its way. -/
def Calling (operations : Table String Pending) (id : DeviceId) (name : String) (op : Operation) :
    Prop :=
  ∃ p, operations.get? name = some p ∧ p.device = id ∧ p.phase ≠ .created ∧ p.operation = op

/-- The operations on the session of a device that have their calls on their way are those that the
shape of the session says: one, or none. -/
structure Agrees (operations : Table String Pending) (id : DeviceId) (shape : Shape) : Prop where
  one : ∀ name name' op op', Calling operations id name op → Calling operations id name' op' →
    name = name'
  call : ∀ op, (∃ name, Calling operations id name op) ↔ shape.call? = some op

end Bench

open Bench (Calling Agrees)

variable {operations : Table String Pending} {id : DeviceId} {name : String} {p : Pending}
  {op : Operation} {shape : Shape} {ts : List Talk}

/-! ## Operations that are set and erased -/

namespace Bench

theorem calling_of_get? (under : operations.get? name = some p) :
    Calling operations id name op ↔ p.device = id ∧ p.phase ≠ .created ∧ p.operation = op := by
  rw [Calling, under]
  constructor
  · rintro ⟨q, same, h⟩
    obtain rfl := Option.some.inj same
    exact h
  · intro h
    exact ⟨p, rfl, h⟩

theorem calling_erase {n : String} : Calling (operations.erase name) id n op ↔
    n ≠ name ∧ Calling operations id n op := by
  rw [Calling, Table.get?_erase]
  by_cases same : n = name
  · simp [same]
  · simp only [ne_eq, same, not_false_eq_true, true_and]
    rfl

/-- To erase an operation whose call is not on its way makes no difference to those whose calls are. -/
theorem calling_erase_of_free {n : String} (free : ∀ op, ¬ Calling operations id name op) :
    Calling (operations.erase name) id n op ↔ Calling operations id n op := by
  rw [calling_erase, and_iff_right_iff_imp]
  rintro calling rfl
  exact free op calling

theorem calling_set {n : String} : Calling (operations.set name p) id n op ↔
    if n = name then p.device = id ∧ p.phase ≠ .created ∧ p.operation = op
    else Calling operations id n op := by
  rw [Calling, Table.get?_set]
  by_cases same : n = name
  · simp [same]
  · simp only [if_neg same]
    rfl

namespace Agrees

/-- What matters is which operations have their calls on their way. -/
theorem congr {operations' : Table String Pending} {shape' : Shape}
    (agrees : Agrees operations id shape) (calls : shape'.call? = shape.call?)
    (same : ∀ n op, Calling operations' id n op ↔ Calling operations id n op) :
    Agrees operations' id shape' where
  one n n' op op' h h' := agrees.one n n' op op' ((same n op).1 h) ((same n' op').1 h')
  call op := by
    rw [calls, ← agrees.call op]
    exact exists_congr fun n => same n op

/-- An operation that starts has its call on its way, where there was none. -/
theorem set {shape' : Shape} (agrees : Agrees operations id shape) (free : shape.call? = none)
    (device : p.device = id) (calling : p.phase ≠ .created)
    (calls : shape'.call? = some p.operation) : Agrees (operations.set name p) id shape' := by
  have none (n : String) (op : Operation) : ¬ Calling operations id n op := fun h => by
    have called := (agrees.call op).1 ⟨n, h⟩
    rw [free] at called
    exact absurd called (by simp)
  have only {n : String} {op : Operation} (h : Calling (operations.set name p) id n op) :
      n = name ∧ p.operation = op := by
    rw [calling_set] at h
    split at h
    · next same => exact ⟨same, h.2.2⟩
    · exact absurd h (none n op)
  refine ⟨fun n n' op op' h h' => (only h).1.trans (only h').1.symm, fun op => ?_⟩
  rw [calls, Option.some.injEq]
  constructor
  · rintro ⟨n, h⟩
    exact (only h).2
  · rintro rfl
    exact ⟨name, by rw [calling_set, if_pos rfl]; exact ⟨device, calling, rfl⟩⟩

/-- Where no call is on its way the shape says so. -/
theorem of_none (silent : ∀ n op, ¬ Calling operations id n op) (free : shape.call? = none) :
    Agrees operations id shape where
  one n _ op _ h := absurd h (silent n op)
  call op := by
    rw [free]
    refine iff_of_false ?_ (by simp)
    rintro ⟨n, h⟩
    exact silent n op h

/-- When the operation that has its call on its way is over, there is none. -/
theorem erase {shape' : Shape} (agrees : Agrees operations id shape)
    (calling : Calling operations id name op) (free : shape'.call? = none) :
    Agrees (operations.erase name) id shape' := by
  refine .of_none (fun n op' => ?_) free
  rw [calling_erase]
  rintro ⟨other, h⟩
  exact other (agrees.one n name op' op h calling)

end Agrees

/-! ## One operation at a time -/

/-- What holds of the sessions of a device after what passed on them. -/
structure Protocol (id : DeviceId) (ts : List Talk) (b : Bench) : Prop where
  /-- an operation is on the session of a device that has come -/
  given : ∀ name p, b.operations.get? name = some p → p.device < b.host.nextId
  proper : Talk.Proper ts
  stands : ∀ d, b.host.device? id = some d → ∃ shape, d.session.shape? = some shape ∧
    shape.Fits ts ∧ Agrees b.operations id shape

variable {b c : Bench}

/-- What the core leaves out but the operations does not matter. -/
theorem Protocol.congr (protocol : Protocol id ts b) (core : c.host.core = b.host.core)
    (same : c.operations = b.operations) : Protocol id ts c where
  given name p under := by
    rw [same] at under
    have next : c.host.nextId = b.host.nextId := congrArg Core.nextId core
    rw [next]
    exact protocol.given name p under
  proper := protocol.proper
  stands d there := by
    have devices : c.host.device? = b.host.device? := congrArg Core.devices core
    rw [devices] at there
    rw [same]
    exact protocol.stands d there

theorem nextId_putDevice (b : Bench) (j : DeviceId) (d? : Option Device) :
    (b.putDevice j d?).host.nextId = b.host.nextId := by
  cases d? <;> rfl

theorem device?_putDevice (b : Bench) (j : DeviceId) (d? : Option Device) :
    (b.putDevice j d?).host.device? id =
      if id = j then (b.host.device? j).map d?.getD else b.host.device? id := by
  cases d? with
  | none =>
    split
    · next same =>
      rw [same]
      exact Option.map_id.symm ▸ rfl
    · rfl
  | some d => exact Table.get?_modify b.host.devices j id fun _ => d

/-- An operation that is left when another one is erased was there before. -/
theorem Protocol.given_erase (protocol : Protocol id ts b) {n : String} {q : Pending}
    (held : (b.operations.erase name).get? n = some q) : q.device < b.host.nextId := by
  rw [Table.get?_erase] at held
  split at held
  · exact absurd held (by simp)
  · exact protocol.given n q held

/-- A call is over or is waited for. -/
theorem look_cases (b : Bench) (name : String) (p : Pending) :
    (∃ r, b.look name p = b.finish name p r) ∨ b.look name p = (b, none) := by
  rw [Bench.look]
  split
  · exact .inr rfl
  · split
    · exact .inl ⟨_, rfl⟩
    · split
      · exact .inl ⟨_, rfl⟩
      · exact .inr rfl

section

variable (protocol : Protocol id ts b) (under : b.operations.get? name = some p)

include protocol under

/-- The call of an operation is over. -/
theorem Protocol.finish (calling : p.phase ≠ .created) (r : SessionReply) :
    Protocol id (ts ++ if p.device = id then ((b.finish name p r).2.map Talk.ended).toList else [])
      (b.finish name p r).1 where
  given n q held := Nat.lt_of_lt_of_eq (protocol.given_erase held) (nextId_putDevice b _ _).symm
  proper := by
    split
    · exact protocol.proper.ended _
    · rw [List.append_nil]
      exact protocol.proper
  stands e there := by
    have there : (b.putDevice p.device (p.operation.finish r (b.host.device? p.device)).1).host.device?
        id = some e := there
    rw [device?_putDevice] at there
    by_cases mine : p.device = id
    · subst mine
      rw [if_pos rfl] at there ⊢
      obtain ⟨d, found, rfl⟩ := Option.map_eq_some_iff.1 there
      obtain ⟨shape, has, fits, agrees⟩ := protocol.stands d found
      have under' : Calling b.operations p.device name p.operation :=
        (calling_of_get? under).2 ⟨rfl, calling, rfl⟩
      obtain ⟨e, shape', after, has', free, fits'⟩ :=
        Operation.finish_calling has fits ((agrees.call _).1 ⟨name, under'⟩) r
      rw [← found] at after fits'
      rw [after]
      exact ⟨shape', has', fits', agrees.erase under' free⟩
    · rw [if_neg (Ne.symm mine)] at there
      rw [if_neg mine, List.append_nil]
      obtain ⟨shape, has, fits, agrees⟩ := protocol.stands e there
      exact ⟨shape, has, fits, agrees.congr rfl fun n op =>
        calling_erase_of_free fun _ other => mine ((calling_of_get? under).1 other).1⟩

/-- The checks of an operation end it. -/
theorem Protocol.refused {after : Option Device} {outcome : Outcome} (created : p.phase = .created)
    (started : p.operation.start (b.host.device? p.device) = .ended after outcome) :
    Protocol id ts { b.putDevice p.device after with operations := b.operations.erase name } where
  given n q held := Nat.lt_of_lt_of_eq (protocol.given_erase held) (nextId_putDevice b _ _).symm
  proper := protocol.proper
  stands e there := by
    have there : (b.putDevice p.device after).host.device? id = some e := there
    -- it had no call on its way
    have same (n : String) (op : Operation) :
        Calling (b.operations.erase name) id n op ↔ Calling b.operations id n op :=
      calling_erase_of_free fun _ calling => ((calling_of_get? under).1 calling).2.1 created
    rw [device?_putDevice] at there
    by_cases mine : p.device = id
    · subst mine
      rw [if_pos rfl] at there
      obtain ⟨d, found, rfl⟩ := Option.map_eq_some_iff.1 there
      obtain ⟨shape, has, fits, agrees⟩ := protocol.stands d found
      rw [found] at started
      obtain ⟨e, shape', rfl, has', calls, fits'⟩ := Operation.start_ended has fits started
      exact ⟨shape', has', fits', agrees.congr calls same⟩
    · rw [if_neg (Ne.symm mine)] at there
      obtain ⟨shape, has, fits, agrees⟩ := protocol.stands e there
      exact ⟨shape, has, fits, agrees.congr rfl same⟩

/-- An operation makes its call. -/
theorem Protocol.called {d after : Device} {call : EndpointCall} {q : Pending}
    (found : b.host.device? p.device = some d)
    (started : p.operation.start (some d) = .calling after call) (device : q.device = p.device)
    (operation : q.operation = p.operation) (calling : q.phase ≠ .created) :
    Protocol id (ts ++ if p.device = id then [.called d call] else [])
      { b.putDevice p.device (some after) with operations := b.operations.set name q } where
  given n x held := by
    have held : (b.operations.set name q).get? n = some x := held
    rw [Table.get?_set] at held
    split at held
    · obtain rfl := Option.some.inj held
      rw [device]
      exact Nat.lt_of_lt_of_eq (protocol.given name p under) (nextId_putDevice b _ _).symm
    · exact Nat.lt_of_lt_of_eq (protocol.given n x held) (nextId_putDevice b _ _).symm
  proper := by
    by_cases mine : p.device = id
    · subst mine
      obtain ⟨shape, has, fits, -⟩ := protocol.stands d found
      rw [if_pos rfl]
      exact protocol.proper.called (Operation.start_calling has fits started).2.1
    · rw [if_neg mine, List.append_nil]
      exact protocol.proper
  stands e there := by
    have there : (b.putDevice p.device (some after)).host.device? id = some e := there
    rw [device?_putDevice] at there
    by_cases mine : p.device = id
    · subst mine
      rw [if_pos rfl, found] at there
      rw [if_pos rfl]
      obtain rfl : after = e := Option.some.inj there
      obtain ⟨shape, has, fits, agrees⟩ := protocol.stands d found
      obtain ⟨free, -, shape', has', calls, fits'⟩ := Operation.start_calling has fits started
      exact ⟨shape', has', fits', agrees.set free device calling (by rw [operation, calls])⟩
    · rw [if_neg (Ne.symm mine)] at there
      rw [if_neg mine, List.append_nil]
      obtain ⟨shape, has, fits, agrees⟩ := protocol.stands e there
      refine ⟨shape, has, fits, agrees.congr rfl fun n op => calling_set.trans ?_⟩
      split
      · next same =>
        rw [same, calling_of_get? under, device]
        exact iff_of_false (fun h => mine h.1) fun h => mine h.1
      · exact Iff.rfl

end

/-! ## Starting and going on -/

theorem operations_sparedByCalls : SparedByCalls Bench.operations where
  log _ _ _ := rfl
  peer _ _ := rfl
  scripts _ _ := rfl

/-- Only an operation on a device that is there passes its checks. -/
theorem found_of_calling {d? : Option Device} {after : Device} {call : EndpointCall}
    (started : op.start d? = .calling after call) : ∃ d, d? = some d := by
  cases d? with
  | none => exact absurd started (by simp [Operation.start])
  | some d => exact ⟨d, rfl⟩

/-- An operation that passes its checks has its call on its way; and if that is answered at once, it
is over at once. -/
theorem start_calling {after : Device} {call : EndpointCall} (name : String)
    (started : p.operation.start (b.host.device? p.device) = .calling after call) :
    ∃ (c : Bench) (q : Pending), q.device = p.device ∧ q.operation = p.operation ∧ q.phase ≠ .created ∧
      c.host = ((b.putDevice p.device (some after)).call after.path call).1.host ∧
      c.operations = b.operations.set name q ∧
      ((∃ r, b.start name p = c.finish name q r) ∨ b.start name p = c.look name q) := by
  have operations : ((b.putDevice p.device (some after)).call after.path call).1.operations =
      b.operations := operations_sparedByCalls.call _ _ _
  rw [Bench.start, started]
  simp only
  generalize (b.putDevice p.device (some after)).call after.path call = called at operations ⊢
  obtain ⟨c, reception⟩ := called
  have set (q : Pending) : c.operations.set name q = b.operations.set name q :=
    congrArg (·.set name q) operations
  cases reception with
  | answered r =>
    -- the operation is over before anything was noted, as if it had been noted
    let q : Pending := { p with phase := .calling 0 none }
    have ends (result : SessionReply) :
        c.finish name p result = { c with operations := c.operations.set name q }.finish name q result := by
      simp only [Bench.finish, Table.erase_set]
      cases (p.operation.finish result (c.host.device? p.device)).1 <;> rfl
    exact ⟨{ c with operations := c.operations.set name q }, q, rfl, rfl, by simp [q], rfl, set q,
      .inl ⟨_, ends _⟩⟩
  | waits channel =>
    let q : Pending :=
      { p with phase := .calling (c.clock + p.operation.limit after.timeouts) channel }
    exact ⟨{ c with operations := c.operations.set name q }, q, rfl, rfl, by simp [q], rfl, set q,
      .inr rfl⟩

/-- A call that is not over is waited for. -/
theorem look_eq_self (waits : (b.look name p).2 = none) : b.look name p = (b, none) := by
  rcases look_cases b name p with ⟨r, ends⟩ | same
  · rw [ends] at waits
    exact absurd waits (by simp [Bench.finish])
  · exact same

/-- An operation that goes on and comes to no outcome has its call on its way. -/
theorem poll_waits (under : b.operations.get? name = some p) (waits : (b.poll name p).2 = none) :
    p.goesOn (b.host.device? p.device) ≠ none ∧
      ∃ q, (b.poll name p).1.operations.get? name = some q ∧ q.device = p.device ∧
        q.phase ≠ .created := by
  rw [Bench.poll] at waits ⊢
  cases phase : p.phase with
  | calling =>
    simp only [phase] at waits ⊢
    rw [look_eq_self waits]
    exact ⟨by simp [Pending.goesOn, phase], p, under, rfl, by simp [phase]⟩
  | created =>
    simp only [phase] at waits ⊢
    cases started : p.operation.start (b.host.device? p.device) with
    | ended after outcome =>
      rw [Bench.start, started] at waits
      exact absurd waits (by simp)
    | calling after call =>
      obtain ⟨c, q, device, -, calling, -, operations, ⟨r, ends⟩ | looks⟩ :=
        start_calling name started
      · rw [ends] at waits
        exact absurd waits (by simp [Bench.finish])
      · rw [looks] at waits ⊢
        rw [look_eq_self waits]
        refine ⟨?_, q, ?_, device, calling⟩
        · obtain ⟨d, found⟩ := found_of_calling started
          rw [found] at started ⊢
          simp [Pending.goesOn, phase, started]
        · rw [operations, Table.get?_set, if_pos rfl]

/-- The least that an operation does when it goes on, with what passes in it on the sessions of a
device. -/
inductive Goes (id : DeviceId) (b c : Bench) : List Talk → Prop
  /-- nothing happens to sessions and their operations -/
  | wait (core : c.host.core = b.host.core) (operations : c.operations = b.operations) :
      Goes id b c []
  /-- its checks end it -/
  | refuse (name : String) (p : Pending) (after : Option Device) (outcome : Outcome)
      (under : b.operations.get? name = some p) (created : p.phase = .created)
      (started : p.operation.start (b.host.device? p.device) = .ended after outcome)
      (core : c.host.core = (b.putDevice p.device after).host.core)
      (operations : c.operations = b.operations.erase name) : Goes id b c []
  /-- it passes its checks and makes its call -/
  | call (name : String) (p q : Pending) (d after : Device) (call : EndpointCall)
      (under : b.operations.get? name = some p) (created : p.phase = .created)
      (found : b.host.device? p.device = some d)
      (started : p.operation.start (some d) = .calling after call)
      (device : q.device = p.device) (operation : q.operation = p.operation)
      (calling : q.phase ≠ .created)
      (core : c.host.core = (b.putDevice p.device (some after)).host.core)
      (operations : c.operations = b.operations.set name q) :
      Goes id b c (if p.device = id then [.called d call] else [])
  /-- its call is over -/
  | finish (name : String) (p : Pending) (r : SessionReply)
      (under : b.operations.get? name = some p) (calling : p.phase ≠ .created)
      (core : c.host.core =
        (b.putDevice p.device (p.operation.finish r (b.host.device? p.device)).1).host.core)
      (operations : c.operations = b.operations.erase name) :
      Goes id b c
        (if p.device = id then [.ended (p.operation.finish r (b.host.device? p.device)).2] else [])

/-- Any number of such changes, with all that passes in them. -/
inductive Going (id : DeviceId) (b : Bench) : Bench → List Talk → Prop
  | refl : Going id b b []
  | tail {c d : Bench} {said more : List Talk} (going : Going id b c said) (goes : Goes id c d more) :
      Going id b d (said ++ more)

namespace Going

variable {d : Bench} {said more : List Talk}

theorem single (goes : Goes id b c said) : Going id b c said :=
  .tail .refl goes

theorem trans (first : Going id b c said) (second : Going id c d more) :
    Going id b d (said ++ more) := by
  induction second with
  | refl => rwa [List.append_nil]
  | tail _ goes ih =>
    rw [← List.append_assoc]
    exact ih.tail goes

/-- What each change keeps, in view of what passed, is kept by any number of them. -/
theorem preserves {P : List Talk → Bench → Prop}
    (each : ∀ ts b c said, P ts b → Goes id b c said → P (ts ++ said) c)
    (going : Going id b c said) (holds : P ts b) : P (ts ++ said) c := by
  induction going with
  | refl => rwa [List.append_nil]
  | tail _ goes ih =>
    rw [← List.append_assoc]
    exact each _ _ _ _ ih goes

end Going

section

variable (under : b.operations.get? name = some p)

include under

/-- An operation looks whether its call is over. -/
theorem going_look (calling : p.phase ≠ .created) :
    Going id b (b.look name p).1
      (if p.device = id then ((b.look name p).2.map Talk.ended).toList else []) := by
  rcases look_cases b name p with ⟨r, ends⟩ | waits
  · rw [ends]
    exact .single (.finish name p r under calling rfl rfl)
  · simp only [waits, Option.map_none, Option.toList_none, ite_self]
    exact .refl

/-- An operation starts. -/
theorem going_start (created : p.phase = .created) :
    Going id b (b.start name p).1
      (if p.device = id then p.talk (b.host.device? p.device) (b.start name p).2 else []) := by
  cases started : p.operation.start (b.host.device? p.device) with
  | ended after outcome =>
    have silent (o : Option Outcome) : p.talk (b.host.device? p.device) o = [] :=
      p.talk_ended created started o
    simp only [silent, ite_self]
    rw [Bench.start, started]
    exact .single (.refuse name p after outcome under created started rfl rfl)
  | calling after call =>
    obtain ⟨d, found⟩ := found_of_calling started
    obtain ⟨c, q, device, operation, calling, host, operations, ends⟩ :=
      start_calling name started
    have core : c.host.core = (b.putDevice p.device (some after)).host.core := by
      rw [host]
      exact core_sparedByCalls.call _ _ _
    rw [found] at started ⊢
    -- what passes is the call and, if it is over at once, its end
    have both (o : Option Outcome) : (if p.device = id then p.talk (some d) o else []) =
        (if p.device = id then [.called d call] else []) ++
          if q.device = id then (o.map Talk.ended).toList else [] := by
      rw [device, p.talk_calling created started]
      split <;> simp
    have called : Goes id b c (if p.device = id then [.called d call] else []) :=
      .call name p q d after call under created found started device operation calling core operations
    have held : c.operations.get? name = some q := by
      rw [operations, Table.get?_set, if_pos rfl]
    rw [both]
    refine (Going.single called).trans ?_
    rcases ends with ⟨r, ends⟩ | looks
    · rw [ends]
      exact .single (.finish name q r held calling rfl rfl)
    · rw [looks]
      exact going_look held calling

/-- An operation goes on. -/
theorem going_poll :
    Going id b (b.poll name p).1
      (if p.device = id then p.talk (b.host.device? p.device) (b.poll name p).2 else []) := by
  rw [Bench.poll]
  cases phase : p.phase with
  | created => exact going_start under phase
  | calling deadline channel =>
    have calling : p.phase ≠ .created := by simp [phase]
    simp only [p.talk_of_calling calling]
    exact going_look under calling

/-- An operation is waited for, whether its call ends in time or not. -/
theorem going_expire :
    Going id b (b.expire name p).1
      (if p.device = id then p.talk (b.host.device? p.device) (b.expire name p).2 else []) := by
  have polled : Going id b (b.poll name p).1
      (if p.device = id then p.talk (b.host.device? p.device) (b.poll name p).2 else []) :=
    going_poll under
  have waits := poll_waits under
  rw [Bench.expire]
  generalize b.poll name p = polling at polled waits ⊢
  obtain ⟨c, _ | outcome⟩ := polling
  · obtain ⟨on, q, held, device, calling⟩ := waits rfl
    simp only [held]
    cases phase : q.phase with
    | created => exact absurd phase calling
    | calling deadline channel =>
      -- what passes is what passed in the poll and, if the call is over, its end
      have both (o : Option Outcome) :
          (if p.device = id then p.talk (b.host.device? p.device) o else []) =
            (if p.device = id then p.talk (b.host.device? p.device) none else []) ++
              ([] ++ if q.device = id then (o.map Talk.ended).toList else []) := by
        rw [device, p.talk_eq_append on o]
        split <;> simp
      have later : Goes id c { c with clock := max c.clock deadline } [] := .wait rfl rfl
      rw [both]
      exact polled.trans ((Going.single later).trans (going_look held calling))
  · exact polled

end

/-- **Whatever an operation does when it goes on keeps the protocol.** -/
theorem Protocol.goes {said : List Talk} (protocol : Protocol id ts b) (goes : Goes id b c said) :
    Protocol id (ts ++ said) c := by
  cases goes with
  | wait core operations =>
    rw [List.append_nil]
    exact protocol.congr core operations
  | refuse name p after outcome under created started core operations =>
    rw [List.append_nil]
    exact (protocol.refused under created started).congr core operations
  | call name p q d after call under created found started device operation calling core operations =>
    exact (protocol.called under found started device operation calling).congr core operations
  | finish name p r under calling core operations =>
    exact (protocol.finish under calling r).congr core operations

/-! ## What the transport hears -/

theorem calls_putDevice (b : Bench) (j : DeviceId) (d? : Option Device) :
    (b.putDevice j d?).host.calls = b.host.calls := by
  cases d? <;> rfl

theorem calls_finish (b : Bench) (name : String) (p : Pending) (r : SessionReply) :
    (b.finish name p r).1.host.calls = b.host.calls :=
  calls_putDevice b p.device (p.operation.finish r (b.host.device? p.device)).1

theorem calls_look (b : Bench) (name : String) (p : Pending) :
    (b.look name p).1.host.calls = b.host.calls := by
  rcases look_cases b name p with ⟨r, ends⟩ | same
  · rw [ends]
    exact calls_finish b name p r
  · rw [same]

theorem calls_call {st : Stub} (stub : b.host.transport = .stub st) (path : String)
    (call : EndpointCall) :
    (b.call path call).1.host.calls = b.host.calls ++ [.session path call] := by
  rw [Bench.call, stub]
  simp only [takeScript]
  split <;> rfl

/-- **What passes is what the stub hears**: it takes down the calls that an operation makes. -/
theorem calls_poll {st : Stub} (stub : b.host.transport = .stub st) (name : String) (p : Pending)
    (o : Option Outcome) : (b.poll name p).1.host.calls =
      b.host.calls ++ (p.talk (b.host.device? p.device) o).filterMap Talk.logged? := by
  have unlogged (o : Option Outcome) : (o.map Talk.ended).toList.filterMap Talk.logged? = [] := by
    cases o <;> rfl
  rw [Bench.poll]
  cases phase : p.phase with
  | calling deadline channel =>
    rw [p.talk_of_calling (by simp [phase]), unlogged, List.append_nil]
    exact calls_look b name p
  | created =>
    simp only
    cases started : p.operation.start (b.host.device? p.device) with
    | ended after outcome =>
      rw [p.talk_ended phase started, Bench.start, started]
      exact (calls_putDevice b _ _).trans (List.append_nil _).symm
    | calling after call =>
      obtain ⟨c, q, -, -, -, host, -, ends⟩ := start_calling name started
      obtain ⟨d, found⟩ := found_of_calling started
      have path : after.path = d.path := by
        rw [found] at started
        obtain ⟨s, rfl⟩ := Operation.start_session (congrArg Started.device? started)
        rfl
      have stub' : (b.putDevice p.device (some after)).host.transport = .stub st := stub
      have heard : c.host.calls = b.host.calls ++ [.session d.path call] := by
        rw [host, calls_call stub', calls_putDevice, path]
      rw [found] at started ⊢
      have said : (Talk.called d call :: (o.map Talk.ended).toList).filterMap Talk.logged? =
          [.session d.path call] := congrArg (Call.session d.path call :: ·) (unlogged o)
      rw [p.talk_calling phase started, said, ← heard]
      rcases ends with ⟨r, ends⟩ | ends
      · rw [ends]
        exact calls_finish c name q r
      · rw [ends]
        exact calls_look c name q

/-- A call that is waited for was taken down already. -/
theorem calls_expire (b : Bench) (name : String) (p : Pending) :
    (b.expire name p).1.host.calls = (b.poll name p).1.host.calls := by
  rw [Bench.expire]
  generalize b.poll name p = polled
  obtain ⟨c, _ | outcome⟩ := polled
  · simp only
    split
    · split
      · exact calls_look _ _ _
      · rfl
    · rfl
  · rfl

/-! ## Operations that come and go -/

/-- An operation is created, in the place of none whose call is on its way. -/
theorem Protocol.create (protocol : Protocol id ts b) (known : p.device < b.host.nextId)
    (created : p.phase = .created) (free : ∀ op, ¬ Calling b.operations id name op) :
    Protocol id ts { b with operations := b.operations.set name p } where
  given n q held := by
    have held : (b.operations.set name p).get? n = some q := held
    rw [Table.get?_set] at held
    split at held
    · obtain rfl := Option.some.inj held
      exact known
    · exact protocol.given n q held
  proper := protocol.proper
  stands d there := by
    obtain ⟨shape, has, fits, agrees⟩ := protocol.stands d there
    refine ⟨shape, has, fits, agrees.congr rfl fun n op => calling_set.trans ?_⟩
    split
    · next same =>
      rw [same]
      exact iff_of_false (fun calling => calling.2.1 created) (free op)
    · exact Iff.rfl

/-- An operation whose call is not on its way is dropped. -/
theorem Protocol.cancel (protocol : Protocol id ts b)
    (free : ∀ op, ¬ Calling b.operations id name op) :
    Protocol id ts { b with operations := b.operations.erase name } where
  given _ _ held := protocol.given_erase held
  proper := protocol.proper
  stands d there := by
    obtain ⟨shape, has, fits, agrees⟩ := protocol.stands d there
    exact ⟨shape, has, fits, agrees.congr rfl fun _ _ => calling_erase_of_free free⟩

end Bench

end Piconet
