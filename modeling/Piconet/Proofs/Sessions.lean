import Piconet.Proofs.Operations
import Piconet.Proofs.Identifiers

/-!
# The session protocol

Any number of operations may be held on the sessions of a device, and be started, polled, answered
or waited for in any order. `Bench.Talks` is every run in which no operation is dropped while its
call is on its way, with what passes on the sessions of one device (`Bench.talk`). In all of them the
record of the device's session has one of four shapes, at most one call is on its way, the one that
the shape says, and each call is made when it is due.

A step that goes on with an operation is a matter of the operation and its device alone
(`Bench.Protocol`); no other move touches the record of a session (`Core.Change.sessions`).
-/

namespace Piconet

open Function (update)
open Bench (free)

/-! ## What passes in a move -/

/-- The outcome of an operation that an answer carries. -/
def Step.Result.outcome? : Step.Result → Option Outcome
  | .outcome o | .delivered _ (some (some o)) => some o
  | _ => none

namespace Bench

/-- The operation that a step goes on with. -/
def resumed? (b : Bench) : Step → Option Pending
  | .operate device operation _ _ false favors =>
    (b.host.find? device).bind fun id =>
      (b.host.device? id).map fun _ => { operation, device := id, favors }
  | .poll name | .expire name => b.operations.get? name
  | .reply name _ => (b.senders.get? name).bind fun _ => b.operations.get? name
  | _ => none

/-- What passes on the sessions of a device in a move. -/
def talk (b : Bench) (id : DeviceId) : Move → List Talk
  | .step s =>
    match b.resumed? s with
    | some p =>
      if p.device = id then p.talk (b.host.device? p.device) (b.doStep s).2.outcome? else []
    | none => []
  | .act | .poll _ | .follow _ | .report => []

/-- The name of an operation that a move drops, if there is one of that name. -/
def dropped? (b : Bench) : Move → Option String
  | .step (.cancel name) => some name
  | .step (.operate device _ name _ _ _) =>
    ((b.host.find? device).bind b.host.device?).map fun _ => name
  | _ => none

/-- A move drops an operation on the session of a device whose call is on its way. -/
def Abandons (b : Bench) (id : DeviceId) (m : Move) : Prop :=
  ∃ name op, b.dropped? m = some name ∧ Calling b.operations id name op

/-- The runs from an opening bench in which no operation on the session of a device is dropped while its call is
on its way, with the calls and their ends on the sessions of that device, in their order. -/
inductive Talks (id : DeviceId) : List Talk → Bench → Prop
  | opening (g : Generation) (t : Transport) (isLoaded : Bool) (manager : Option Timeouts)
      (naming : Naming) :
      Talks id [] (opening g t isLoaded manager naming)
  | move {ts : List Talk} {b c : Bench} (m : Move) (talks : Talks id ts b)
      (kept : ¬ b.Abandons id m) (made : b.make m = some c) : Talks id (ts ++ b.talk id m) c

end Bench

variable {law : Core → Registry.Request → Prop} {scope : Core.Scope} {c c' : Core}
  {s : Option (DeviceId × Profile)} {id : DeviceId} {ts : List Talk} {name : String}

/-! ## Moves that leave sessions alone -/

/-- A run leaves the session of the device that it edits alone. -/
theorem Device.Edit.session_eq {d e : Device} {stored : List Profile} {es : List Event}
    (edit : d.Edit stored e es) : e.session = d.session := by
  cases edit with
  | bus | power | report => rfl
  | batch b =>
    split
    · rw [survey_eq]
      rfl
    · rfl
  | fetch b =>
    rw [survey_eq]
    rfl

namespace Core

/-- The devices that stay keep their sessions, and those that come have none open. -/
structure KeepsSessions (c c' : Core) : Prop where
  nextId_le : c.nextId ≤ c'.nextId
  kept : ∀ id e, c'.devices id = some e →
    (∃ d, c.devices id = some d ∧ e.session = d.session) ∨ c.nextId ≤ id ∧ e.session = .idle

/-- Where no record changes no session does. -/
theorem KeepsSessions.of_devices (nextId : c.nextId ≤ c'.nextId) (same : c'.devices = c.devices) :
    c.KeepsSessions c' :=
  ⟨nextId, fun _ e there => .inl ⟨e, same ▸ there, rfl⟩⟩

theorem KeepsSessions.trans {c'' : Core} (first : c.KeepsSessions c')
    (second : c'.KeepsSessions c'') : c.KeepsSessions c'' where
  nextId_le := Nat.le_trans first.nextId_le second.nextId_le
  kept id e there := by
    rcases second.kept id e there with ⟨d, found, same⟩ | ⟨new, idle⟩
    · rw [same]
      exact first.kept id d found
    · exact .inr ⟨Nat.le_trans first.nextId_le new, idle⟩

/-- **Only session operations touch the record of a session.** -/
theorem Change.sessions (change : Change law scope c s c') (off : ¬ scope.sessions) :
    c.KeepsSessions c' := by
  have revised {j : DeviceId} {d x : Device} (found : c.devices j = some d)
      (same : x.session = d.session) (id : DeviceId) (e : Device)
      (there : update c.devices j (some x) id = some e) :
      (∃ d, c.devices id = some d ∧ e.session = d.session) ∨
        c.nextId ≤ id ∧ e.session = .idle := by
    rcases eq_of_update_some there with ⟨rfl, rfl⟩ | ⟨-, kept⟩
    · exact .inl ⟨d, found, same⟩
    · exact .inl ⟨e, kept, rfl⟩
  refine ⟨change.step.nextId_le, ?_⟩
  cases change with
  | enlist | cancel | receivers | reported | endRuns | comeUp | defer | summon | requestUnheard
  | request | heardByAll | watched | turn | unmoved | late | concede =>
    exact fun _ e there => .inl ⟨e, there, rfl⟩
  | session _ _ _ _ allowed => exact absurd allowed off
  | create path g t =>
    intro id e there
    rcases eq_of_update_some there with ⟨rfl, rfl⟩ | ⟨-, kept⟩
    · exact .inr ⟨Nat.le_refl _, rfl⟩
    · exact .inl ⟨e, kept, rfl⟩
  | destroy j =>
    intro id e there
    rcases eq_of_update there with ⟨-, gone⟩ | ⟨-, kept⟩
    · exact absurd gone (by simp)
    · exact .inl ⟨e, kept, rfl⟩
  | startRun j d found | findPower _ j d _ _ found | turnedDown j d _ _ _ _ found
  | handedIn j d _ _ _ _ found | decide j d _ _ _ found | conclude j d _ _ found =>
    exact revised found rfl
  | edit j d x es ds _ _ found edit =>
    exact revised found edit.session_eq
  | moved n j ls ds d x _ found hears =>
    refine revised found ?_
    rw [Device.hear_eq hears]
  | adopt j d uuid ds _ found =>
    refine revised found ?_
    rw [Device.track_eq]

/-- **What is outside of the scope of sessions keeps every session record.** -/
theorem Changes.sessions (changes : Changes law scope c c') (off : ¬ scope.sessions) :
    c.KeepsSessions c' := by
  induction changes with
  | refl => exact .of_devices (Nat.le_refl _) rfl
  | tail _ change ih => exact ih.trans (change.sessions off)

end Core

namespace Bench

variable {b b' : Bench}

/-- A step that is refused leaves the operations alone. -/
theorem operations_withSome {α : Type} {found : Option α} {f : α → Bench × Step.Result}
    (each : ∀ a, (f a).1.operations = b.operations) :
    (b.withSome found f).1.operations = b.operations := by
  cases found with
  | none => rfl
  | some a => exact each a

/-- Only session operations come and go in the list of those that have not ended. -/
theorem operations_doStep {s : Step} (waits : s.progresses = false)
    (keeps : ∀ name, s ≠ .cancel name) : (b.doStep s).1.operations = b.operations := by
  cases s with
  | operate | poll | reply | expire => exact absurd waits (by simp [Step.progresses])
  | cancel name => exact absurd rfl (keeps name)
  | command | newDevice | unlisten | unwatch => rfl
  | run | stop | listen => exact operations_withSome fun _ => rfl
  | putObject | prepare | monitorStop | closeBus => exact operations_withSome fun _ => rfl
  | signal s =>
    refine operations_withSome fun _ => ?_
    rw [receiveSignal]
    split <;> rfl
  | bindDevice name path | bindAdapter name path =>
    simp only [doStep, Bench.bind]
    split
    · rfl
    · rfl
    · split <;> rfl
  | fetch name =>
    refine operations_withSome fun p => operations_withSome fun path => ?_
    rw [fst_ofReading, Bench.fetch]
    split <;> rfl
  | watch name => exact operations_withSome fun p => operations_withSome fun path => rfl
  | connect name role | disconnect name role interface =>
    refine operations_withSome fun p => operations_withSome fun path => ?_
    rw [fst_ofReading]
    exact operations_sparedByCalls.callEndpoint b p path _
  | powered name =>
    refine operations_withSome fun p => operations_withSome fun a => ?_
    rw [fst_ofReading, powered]
    split <;> rfl
  | monitor => exact operations_withSome fun p => operations_withSome fun _ => rfl
  | monitorResult =>
    refine operations_withSome fun m => ?_
    rw [monitorResult]
    split <;> rfl

/-- Nothing passes on sessions but in steps that go on with operations. -/
theorem talk_eq_nil {m : Move} (off : ¬ (b.scopeOf m).sessions) : b.talk id m = [] := by
  cases m with
  | act | poll | follow | report => rfl
  | step s =>
    cases s with
    | operate | poll | reply | expire => exact absurd ⟨_, rfl, rfl⟩ off
    | _ => rfl

/-- A move that leaves the sessions and their operations alone keeps the protocol. -/
theorem Protocol.keep (protocol : Protocol id ts b) (operations : b'.operations = b.operations)
    (keeps : b.host.core.KeepsSessions b'.host.core) : Protocol id ts b' where
  given n q held := by
    rw [operations] at held
    exact Nat.lt_of_lt_of_le (protocol.given n q held) keeps.nextId_le
  proper := protocol.proper
  stands e there := by
    rw [operations]
    rcases keeps.kept id e there with ⟨d, found, same⟩ | ⟨new, idle⟩
    · rw [same]
      exact protocol.stands d found
    · -- no operation is on the session of a device that has just come
      have silent (n : String) (op : Operation) : ¬ Calling b.operations id n op := by
        rintro ⟨q, held, rfl, -⟩
        exact absurd (protocol.given n q held) (Nat.not_lt.2 new)
      exact ⟨.idle, by rw [idle]; rfl, trivial, .of_none silent rfl⟩

/-! ## Steps that go on with operations -/

theorem outcome?_progress (x : Bench × Option Outcome) : (progress x).2.outcome? = x.2 := by
  obtain ⟨c, _ | o⟩ := x <;> rfl

theorem outcome?_delivered (taken : Bool) (o : Option Outcome) :
    (Step.Result.delivered taken (some o)).outcome? = o := by
  cases o <;> rfl

/-- What a step does before it goes on with an operation: it may create one, in the place of another
one maybe. -/
inductive Begins (b : Bench) (s : Step) (c : Bench) : Prop
  | anew (name : String) (p : Pending) (d : Device) (dropped : b.dropped? (.step s) = some name)
      (found : b.host.device? p.device = some d) (created : p.phase = .created)
      (core : c.host.core = b.host.core) (operations : c.operations = b.operations.set name p)
  | held (keeps : b.dropped? (.step s) = none) (core : c.host.core = b.host.core)
      (operations : c.operations = b.operations)

/-- An operation is created and goes on, unless it is lazy. -/
theorem going_operate {j : DeviceId} (path : String) (operation : Operation) (name : String)
    (provision : Provision) (isLazy : Bool) (favors : Pending.Branch) :
    ∃ c : Bench, c.host.core = b.host.core ∧
      c.operations = b.operations.set name { operation, device := j, favors } ∧
      ∀ id, Going id c (b.operate j path operation name provision isLazy favors).1
        (if isLazy = false ∧ j = id then
          Pending.talk { operation, device := j, favors } (b.host.device? j)
            (b.operate j path operation name provision isLazy favors).2.outcome?
        else []) := by
  let p : Pending := { operation, device := j, favors }
  -- the script is set aside from the operations, whichever it is
  have begun (c : Bench) (core : c.host.core = b.host.core) (same : c.operations = b.operations) :
      let after := if isLazy then ({ c with operations := c.operations.set name p }, .created)
        else progress (Bench.poll { c with operations := c.operations.set name p } name p)
      ∃ x : Bench, x.host.core = b.host.core ∧ x.operations = b.operations.set name p ∧
        ∀ id, Going id x after.1
          (if isLazy = false ∧ j = id then p.talk (b.host.device? j) after.2.outcome? else []) := by
    refine ⟨{ c with operations := c.operations.set name p }, core, congrArg (·.set name p) same,
      fun id => ?_⟩
    cases isLazy with
    | true => exact .refl
    | false =>
      have devices : c.host.device? = b.host.device? := congrArg Core.devices core
      have held : (c.operations.set name p).get? name = some p := by
        rw [Table.get?_set, if_pos rfl]
      simp only [Bool.false_eq_true, if_false, true_and, fst_progress, outcome?_progress]
      rw [← devices]
      exact going_poll held
  cases provision with
  | usual => exact begun (b.setScript path none) rfl rfl
  | reply r => exact begun (b.setScript path (some r)) rfl rfl
  | hold => exact begun (b.holdScript path name) rfl rfl

/-- **A step that goes on with an operation** creates it first, if it was not held, and all that passes
on sessions passes after that. -/
theorem going_resume {s : Step} (goesOn : s.progresses) :
    ∃ c, Begins b s c ∧ ∀ id, Going id c (b.doStep s).1 (b.talk id (.step s)) := by
  have nothing (keeps : b.dropped? (.step s) = none) (same : (b.doStep s).1 = b)
      (silent : b.resumed? s = none) :
      ∃ c, Begins b s c ∧ ∀ id, Going id c (b.doStep s).1 (b.talk id (.step s)) := by
    refine ⟨b, .held keeps rfl rfl, fun id => ?_⟩
    rw [same, talk, silent]
    exact .refl
  cases s with
  | operate device operation name provision isLazy favors =>
    cases named : b.host.find? device with
    | none =>
      exact nothing (by simp [dropped?, named]) (by simp [doStep, withSome, named])
        (by cases isLazy <;> simp [resumed?, named])
    | some j =>
      cases found : b.host.device? j with
      | none =>
        exact nothing (by simp [dropped?, named, found]) (by simp [doStep, withSome, named, found])
          (by cases isLazy <;> simp [resumed?, named, found])
      | some d =>
        obtain ⟨c, core, operations, goes⟩ :=
          going_operate (b := b) (j := j) d.path operation name provision isLazy favors
        refine ⟨c, .anew name _ d (by simp [dropped?, named, found]) found rfl core operations, fun id => ?_⟩
        have operated := goes id
        cases isLazy <;> simpa [talk, resumed?, doStep, withSome, named, found] using operated
  | poll name =>
    cases under : b.operations.get? name with
    | none => exact nothing rfl (by simp [doStep, withSome, under]) under
    | some p =>
      refine ⟨b, .held rfl rfl rfl, fun id => ?_⟩
      have polled : Going id b (b.poll name p).1
          (if p.device = id then p.talk (b.host.device? p.device) (b.poll name p).2 else []) :=
        going_poll under
      simpa [talk, resumed?, doStep, withSome, under, fst_progress, outcome?_progress] using polled
  | reply name r =>
    cases sender : b.senders.get? name with
    | none => exact nothing rfl (by simp [doStep, withSome, sender]) (by simp [resumed?, sender])
    | some channel =>
      refine ⟨b.give name channel r, .held rfl rfl rfl, fun id => ?_⟩
      cases under : b.operations.get? name with
      | none =>
        have under' : (b.give name channel r).operations.get? name = none := under
        simpa [talk, resumed?, doStep, withSome, sender, under, Bench.reply, pollIfThere, under']
          using Going.refl
      | some p =>
        have under' : (b.give name channel r).operations.get? name = some p := under
        have polled : Going id (b.give name channel r) ((b.give name channel r).poll name p).1
            (if p.device = id then
              p.talk (b.host.device? p.device) ((b.give name channel r).poll name p).2 else []) :=
          going_poll under'
        simpa [talk, resumed?, doStep, withSome, sender, under, Bench.reply, pollIfThere, under',
          outcome?_delivered] using polled
  | expire name =>
    cases under : b.operations.get? name with
    | none => exact nothing rfl (by simp [doStep, withSome, under]) under
    | some p =>
      refine ⟨b, .held rfl rfl rfl, fun id => ?_⟩
      have expired : Going id b (b.expire name p).1
          (if p.device = id then p.talk (b.host.device? p.device) (b.expire name p).2 else []) :=
        going_expire under
      simpa [talk, resumed?, doStep, withSome, under, fst_progress, outcome?_progress] using expired
  | _ => exact absurd goesOn (by simp [Step.progresses])

/-- **A step that goes on with an operation keeps the protocol.** -/
theorem Protocol.resume {s : Step} (protocol : Protocol id ts b) (upkeep : b.host.core.Upkeep)
    (kept : ¬ b.Abandons id (.step s)) (goesOn : s.progresses) :
    Protocol id (ts ++ b.talk id (.step s)) (b.doStep s).1 := by
  obtain ⟨c, begins, goes⟩ := going_resume (b := b) goesOn
  refine (goes id).preserves (fun _ _ _ _ protocol goes => protocol.goes goes) ?_
  cases begins with
  | held _ core operations => exact protocol.congr core operations
  | anew name p d dropped found created core operations =>
    have free (op : Operation) : ¬ Calling b.operations id name op := fun calling =>
      kept ⟨name, op, dropped, calling⟩
    exact (protocol.create (upkeep.known _ d found) created free).congr core operations

/-- **What passes in a step is what a stub hears of it**, however the operation ends. -/
theorem calls_doStep {s : Step} {p : Pending} {st : Stub} (stub : b.host.transport = .stub st)
    (resumed : b.resumed? s = some p) (o : Option Outcome) :
    (b.doStep s).1.host.calls =
      b.host.calls ++ (p.talk (b.host.device? p.device) o).filterMap Talk.logged? := by
  cases s with
  | operate device operation name provision isLazy favors =>
    cases isLazy with
    | true => exact absurd resumed (by simp [resumed?])
    | false =>
      obtain ⟨j, named, resumed⟩ := Option.bind_eq_some_iff.1 resumed
      obtain ⟨d, found, rfl⟩ := Option.map_eq_some_iff.1 resumed
      let p : Pending := { operation, device := j, favors }
      -- the script is set aside from the host, whichever it is
      have begun (c : Bench) (same : c.host = b.host) : (c.poll name p).1.host.calls =
          b.host.calls ++ (p.talk (some d) o).filterMap Talk.logged? := by
        have polled := calls_poll (b := c) (same ▸ stub) name p o
        rwa [same, show b.host.device? p.device = some d from found] at polled
      simp only [doStep, withSome, named, found, Option.elim_some, Bench.operate, Bool.false_eq_true,
        if_false, fst_progress]
      cases provision <;> exact begun _ rfl
  | poll name =>
    have under : b.operations.get? name = some p := resumed
    simp only [doStep, withSome, under, Option.elim_some, fst_progress]
    exact calls_poll stub name p o
  | reply name r =>
    obtain ⟨channel, sender, under⟩ := Option.bind_eq_some_iff.1 resumed
    have under' : (b.give name channel r).operations.get? name = some p := under
    have given : (b.give name channel r).host.transport = .stub st := stub
    simp only [doStep, withSome, sender, Option.elim_some, Bench.reply, pollIfThere, under', Prod.map_fst,
      id]
    exact calls_poll given name p o
  | expire name =>
    have under : b.operations.get? name = some p := resumed
    simp only [doStep, withSome, under, Option.elim_some, fst_progress, calls_expire]
    exact calls_poll stub name p o
  | _ => exact absurd resumed (by simp [resumed?])

/-- An operation that a step goes on with was held, or is created by the step. -/
theorem held_of_resumed {s : Step} {p : Pending} (resumed : b.resumed? s = some p) :
    p.phase = .created ∨ ∃ name, b.operations.get? name = some p := by
  cases s with
  | operate device operation name provision isLazy favors =>
    cases isLazy with
    | true => exact absurd resumed (by simp [resumed?])
    | false =>
      obtain ⟨j, -, resumed⟩ := Option.bind_eq_some_iff.1 resumed
      obtain ⟨d, -, rfl⟩ := Option.map_eq_some_iff.1 resumed
      exact .inl rfl
  | poll name | expire name => exact .inr ⟨name, resumed⟩
  | reply name r =>
    obtain ⟨channel, -, held⟩ := Option.bind_eq_some_iff.1 resumed
    exact .inr ⟨name, held⟩
  | _ => exact absurd resumed (by simp [resumed?])

/-- **An operation that its checks end without a mark on its device** is over when it is started, and
the host does nothing, so no call is made. -/
theorem doStep_of_refused {s : Step} {p : Pending} {d : Device} {o : Outcome}
    (resumed : b.resumed? s = some p) (created : p.phase = .created)
    (found : b.host.device? p.device = some d)
    (refused : p.operation.start (some d) = .ended (some d) o) :
    (b.doStep s).1.host = b.host ∧ (b.doStep s).2.outcome? = some o := by
  have polled {c : Bench} (name : String) (host : c.host = b.host) :
      (c.poll name p).1.host = b.host ∧ (c.poll name p).2 = some o := by
    rw [← host] at found ⊢
    rw [Bench.poll, created]
    simp only
    rw [Bench.start, found, refused]
    refine ⟨?_, rfl⟩
    change { c.host with devices := c.host.devices.modify p.device fun _ => d } = c.host
    rw [Table.modify_eq_self found]
  cases s with
  | operate device operation name provision isLazy favors =>
    cases isLazy with
    | true => exact absurd resumed (by simp [resumed?])
    | false =>
      obtain ⟨j, named, resumed⟩ := Option.bind_eq_some_iff.1 resumed
      obtain ⟨d', found', rfl⟩ := Option.map_eq_some_iff.1 resumed
      simp only [doStep, withSome, named, found', Option.elim_some, Bench.operate, Bool.false_eq_true,
        if_false, fst_progress, outcome?_progress]
      cases provision <;> exact polled name rfl
  | poll name =>
    have held : b.operations.get? name = some p := resumed
    simp only [doStep, withSome, held, Option.elim_some, fst_progress, outcome?_progress]
    exact polled name rfl
  | expire name =>
    have held : b.operations.get? name = some p := resumed
    obtain ⟨host, outcome⟩ := polled (c := b) name rfl
    have ends : b.expire name p = b.poll name p := by
      rw [Bench.expire]
      generalize b.poll name p = polling at outcome ⊢
      obtain ⟨c, o'⟩ := polling
      obtain rfl : o' = some o := outcome
      rfl
    simp only [doStep, withSome, held, Option.elim_some, fst_progress, outcome?_progress, ends]
    exact ⟨host, outcome⟩
  | reply name r =>
    obtain ⟨channel, sender, held⟩ := Option.bind_eq_some_iff.1 resumed
    have under : (b.give name channel r).operations.get? name = some p := held
    simp only [doStep, withSome, sender, Option.elim_some, Bench.reply, pollIfThere, under, Prod.map_fst,
      Prod.map_snd, id, outcome?_delivered]
    exact polled (c := b.give name channel r) name rfl
  | _ => exact absurd resumed (by simp [resumed?])

/-! ## All runs -/

/-- No other move changes the list of operations that have not ended. -/
theorem operations_make {m : Move} (off : ¬ (b.scopeOf m).sessions)
    (keeps : ∀ name, m ≠ .step (.cancel name)) (made : b.make m = some b') :
    b'.operations = b.operations := by
  cases m with
  | act =>
    rw [make] at made
    split at made
    · obtain rfl := Option.some.inj made
      rfl
    · exact absurd made (by simp)
  | step s =>
    obtain ⟨-, made⟩ := Option.ite_none_right_eq_some.1 made
    obtain rfl := Option.some.inj made
    exact operations_doStep (Bool.eq_false_iff.2 fun goesOn => off ⟨s, rfl, goesOn⟩)
      fun name same => keeps name (same ▸ rfl)
  | poll | report =>
    obtain ⟨-, made⟩ := Option.ite_none_right_eq_some.1 made
    obtain rfl := Option.some.inj made
    rfl
  | follow branch =>
    obtain ⟨-, made⟩ := Option.ite_none_right_eq_some.1 made
    obtain ⟨m, -, rfl⟩ := Option.map_eq_some_iff.1 made
    rfl

/-- **Every move keeps the protocol**, unless it drops an operation whose call is on its way. -/
theorem Protocol.make {m : Move} (protocol : Protocol id ts b) (reached : Reachable free b)
    (kept : ¬ b.Abandons id m) (made : b.make m = some b') :
    Protocol id (ts ++ b.talk id m) b' := by
  by_cases off : (b.scopeOf m).sessions
  · obtain ⟨s, rfl, goesOn⟩ := off
    obtain ⟨-, made⟩ := Option.ite_none_right_eq_some.1 made
    obtain rfl := Option.some.inj made
    exact protocol.resume reached.upkeep kept goesOn
  · rw [talk_eq_nil off, List.append_nil]
    by_cases cancels : ∃ name, m = .step (.cancel name)
    · obtain ⟨name, rfl⟩ := cancels
      obtain ⟨-, made⟩ := Option.ite_none_right_eq_some.1 made
      obtain rfl := Option.some.inj made
      exact protocol.cancel fun op calling => kept ⟨name, op, rfl, calling⟩
    · refine protocol.keep (operations_make off (not_exists.1 cancels) made) ?_
      rcases reached.changes_make made with changes | ⟨-, s, change⟩
      · exact changes.sessions off
      · exact change.sessions off

/-- What passes can be taken along every run in which no operation is dropped on its way. -/
theorem Talks.reachable (talks : Talks id ts b) : Reachable free b := by
  induction talks with
  | opening g t isLoaded manager naming => exact ⟨g, t, isLoaded, manager, naming, .refl⟩
  | move m _ _ made ih => exact ih.trans (Reaches.refl.move m (fun _ _ _ => trivial) made)

/-- **The protocol is kept in all of these.** -/
theorem Talks.protocol (talks : Talks id ts b) : Protocol id ts b := by
  induction talks with
  | opening g t isLoaded manager naming =>
    refine ⟨fun _ _ held => absurd held ?_, Talk.proper_nil, fun _ there => absurd there ?_⟩
    · simp [Bench.opening, Table.get?]
    · simp [Bench.opening, Host.device?, Table.get?]
  | move m talks kept made ih => exact ih.make talks.reachable kept made

/-- **The session protocol.** Session operations on a device may be created, started, polled, answered and
waited for in any order (`Talks`), as long as none is dropped while its call is on its way. Then each call to
the transport was due when it was made (`Talk.Proper`): `Connect` is called on an initialized device for a role
that its generation supports and that it serves, and `Disconnect` for the session that was opened right before.
While the device exists its session record has one of four shapes, which agrees with what passed last, and the
one operation that waits for a call, if any, is the one that the shape names. -/
theorem session_protocol (talks : Talks id ts b) :
    Talk.Proper ts ∧ ∀ d, b.host.device? id = some d → ∃ shape,
      d.session.shape? = some shape ∧ shape.Fits ts ∧ Agrees b.operations id shape :=
  ⟨talks.protocol.proper, talks.protocol.stands⟩

/-- Moves that drop nothing and in which nothing passes, one after the other. -/
theorem Talks.makeAll {ms : List Move} (talks : Talks id ts b)
    (silent : ∀ m ∈ ms, ∀ b : Bench, b.dropped? m = none ∧ b.talk id m = []) :
    Talks id ts (b.makeAll ms) := by
  induction ms generalizing b with
  | nil => exact talks
  | cons m ms ih =>
    obtain ⟨first, rest⟩ := List.forall_mem_cons.1 silent
    rw [Bench.makeAll]
    split
    · next c made =>
      refine ih ?_ rest
      have kept : ¬ b.Abandons id m := by
        rintro ⟨_, _, dropped, _⟩
        exact absurd ((first b).1.symm.trans dropped) (by simp)
      have moved := talks.move m kept made
      rwa [(first b).2, List.append_nil] at moved
    · exact talks

theorem talks_matched : Talks 0 [] matched := by
  refine (Talks.opening _ _ _ _ _).makeAll ?_
  intro m hm b
  simp only [List.cons_append, List.nil_append, List.mem_cons, List.mem_replicate] at hm
  rcases hm with rfl | rfl | rfl | rfl | rfl | ⟨-, rfl⟩ <;> exact ⟨rfl, rfl⟩

/-- A bench on which the session of the only device was opened and is being closed; after as many
moves as given. -/
def hangingUp (moves : Nat) : Bench :=
  matched.makeAll
    (List.take moves [.step (.operate "D" (.connect .dun) "open" .usual false),
      .step (.operate "D" .disconnect "close" .hold false)])

/-- Nothing is held on sessions, so nothing can be dropped. -/
theorem not_abandons {m : Move} (none : b.operations = {}) : ¬ b.Abandons id m := by
  rintro ⟨name, op, -, p, held, -⟩
  rw [none] at held
  exact absurd held (by simp [Table.get?])

/-- The session is opened, then it is being closed. -/
theorem talks_hangingUp {d e : Device} (found : matched.host.device? 0 = some d)
    (opened : (hangingUp 1).host.device? 0 = some e) :
    Talks 0 [.called d (.connect .dun), .ended (.ok (some "rfcomm0")),
      .called e (.disconnect .dun (some "rfcomm0"))] (hangingUp 2) := by
  have first := talks_matched.move (.step (.operate "D" (.connect .dun) "open" .usual false))
    (not_abandons rfl) (c := hangingUp 1) (by rfl)
  have second := first.move (.step (.operate "D" .disconnect "close" .hold false))
    (not_abandons rfl) (c := hangingUp 2) (by rfl)
  obtain rfl : (matched.host.device? 0).get (by rfl) = d := by simp only [found, Option.get_some]
  obtain rfl : ((hangingUp 1).host.device? 0).get (by rfl) = e := by
    simp only [opened, Option.get_some]
  exact second

/-- A session is opened and is being closed: the talk so far is proper, and the record has the shape `closing`.
-/
theorem protocol_hangingUp :
    ∃ d e f, matched.host.device? 0 = some d ∧ (hangingUp 1).host.device? 0 = some e ∧
      (hangingUp 2).host.device? 0 = some f ∧ f.session.shape? = some .closing ∧
      Agrees (hangingUp 2).operations 0 .closing ∧
      Talk.Proper [.called d (.connect .dun), .ended (.ok (some "rfcomm0")),
        .called e (.disconnect .dun (some "rfcomm0"))] := by
  have found : matched.host.device? 0 = some ((matched.host.device? 0).get (by rfl)) :=
    (Option.some_get _).symm
  have opened : (hangingUp 1).host.device? 0 = some (((hangingUp 1).host.device? 0).get (by rfl)) :=
    (Option.some_get _).symm
  have there : (hangingUp 2).host.device? 0 = some (((hangingUp 2).host.device? 0).get (by rfl)) :=
    (Option.some_get _).symm
  have closing : (((hangingUp 2).host.device? 0).get (by rfl)).session.shape? = some .closing := by rfl
  obtain ⟨proper, stands⟩ := session_protocol (talks_hangingUp found opened)
  obtain ⟨shape, has, -, agrees⟩ := stands _ there
  obtain rfl := Option.some.inj (has.symm.trans closing)
  exact ⟨_, _, _, found, opened, there, closing, agrees, proper⟩

end Bench

end Piconet
