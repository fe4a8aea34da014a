import Piconet.Bench.Step
import Piconet.Proofs.Simulation.Command

/-!
# Session operations are steps of the core

An operation starts, goes on and ends by marking the session of its device, and its calls go to the
other side of the radio. So however far it comes, the core takes steps of one kind only.
-/

namespace Piconet

variable {law : Core → Registry.Request → Prop} {scope : Core.Scope}

namespace Device

variable {d : Device}

/-- Two records of a device that differ by their sessions alone. -/
def SameButSession (d e : Device) : Prop := ∃ s, e = { d with session := s }

theorem SameButSession.refl (d : Device) : d.SameButSession d := ⟨d.session, rfl⟩

/-- What `connect` leaves with its device is in the session record. -/
theorem sameButSession_finishConnect (d : Device) (r : Except ConnectionError String) :
    d.SameButSession (d.finishConnect r) := by
  cases r with
  | ok interface => exact ⟨_, rfl⟩
  | error _ => exact ⟨_, rfl⟩

end Device

/-- The device that an operation leaves after its checks. -/
def Started.device? : Started → Option Device
  | .ended after _ => after
  | .calling after _ => some after

namespace Operation

variable {op : Operation} {d e : Device}

/-- The checks of an operation touch nothing but the session. -/
theorem start_session (after : (op.start (some d)).device? = some e) : d.SameButSession e := by
  cases op with
  | connect r =>
    simp only [start, Device.beginConnect] at after
    split at after
    · obtain rfl := Option.some.inj after
      exact .refl d
    · split at after
      · obtain rfl := Option.some.inj after
        exact .refl d
      · split at after
        · obtain rfl := Option.some.inj after
          exact .refl d
        · split at after <;> obtain rfl := Option.some.inj after
          · exact .refl d
          · exact ⟨_, rfl⟩
  | disconnect =>
    simp only [start, Device.beginDisconnect] at after
    split at after
    · obtain rfl := Option.some.inj after
      exact .refl d
    · split at after
      · obtain rfl := Option.some.inj after
        exact .refl d
      · split at after
        · obtain rfl := Option.some.inj after
          exact ⟨_, rfl⟩
        · split at after <;> obtain rfl := Option.some.inj after <;> exact ⟨_, rfl⟩

/-- Nor does its end. -/
theorem finish_session {r : Except ConnectionError String}
    (after : (op.finish r (some d)).1 = some e) : d.SameButSession e := by
  cases op with
  | connect _ =>
    obtain rfl := Option.some.inj after
    exact d.sameButSession_finishConnect r
  | disconnect =>
    obtain rfl := Option.some.inj after
    exact ⟨_, rfl⟩

variable {d? : Option Device}

/-- Whatever device the checks leave, it differs from the one found by its session. -/
theorem start_marks (after : (op.start d?).device? = some e) :
    ∃ d, d? = some d ∧ d.SameButSession e := by
  cases d? with
  | none => exact absurd after (by simp [start, Started.device?])
  | some d => exact ⟨d, rfl, start_session after⟩

/-- So does the device that the end leaves. -/
theorem finish_marks {r : Except ConnectionError String} (after : (op.finish r d?).1 = some e) :
    ∃ d, d? = some d ∧ d.SameButSession e := by
  cases d? with
  | none => exact absurd after (by simp [finish])
  | some d => exact ⟨d, rfl, finish_session after⟩

end Operation

namespace Bench

/-- A bench gets to another one by changes of its host's core. -/
abbrev Changes (law : Core → Registry.Request → Prop) (scope : Core.Scope) (b c : Bench) : Prop :=
  Core.Changes law scope b.host.core c.host.core

/-- A bench gets to another one by steps of its host's core. -/
abbrev Steps (law : Core → Registry.Request → Prop) (b c : Bench) : Prop :=
  Core.Steps law b.host.core c.host.core

variable {b : Bench}

/-- A device that an operation puts back has another session, or is gone. -/
theorem steps_putDevice {id : DeviceId} {after : Option Device} (allowed : scope.sessions)
    (marked : ∀ e, after = some e → ∃ d, b.host.device? id = some d ∧ d.SameButSession e) :
    Changes law scope b (b.putDevice id after) := by
  cases after with
  | none => exact .refl
  | some e =>
    obtain ⟨d, found, s, rfl⟩ := marked e rfl
    change Core.Changes law scope b.host.core (b.host.setDevice id { d with session := s }).core
    rw [Host.core_setDevice found]
    exact .single (.session id d s found allowed)

/-- An operation ends. -/
theorem steps_finish (allowed : scope.sessions) (b : Bench) (name : String) (p : Pending)
    (r : SessionReply) : Changes law scope b (b.finish name p r).1 := by
  change Changes law scope b (b.putDevice p.device (p.operation.finish r (b.host.device? p.device)).1)
  exact steps_putDevice allowed fun _ => Operation.finish_marks

/-- An operation looks for its reply and for its deadline. -/
theorem steps_look (allowed : scope.sessions) (b : Bench) (name : String) (p : Pending) :
    Changes law scope b (b.look name p).1 := by
  rw [look]
  split
  · exact .refl
  · split
    · exact steps_finish allowed b name p _
    · split
      · exact steps_finish allowed b name p _
      · exact .refl

/-! ## Calls to the other side -/

/-- Something of a bench that calls do not touch: they show in the log, at the peer and in the
scripts. -/
structure SparedByCalls {α : Type} (f : Bench → α) : Prop where
  log : ∀ (b : Bench) (c : Call), c.submission? = none → f (b.log c) = f b
  peer : ∀ (b : Bench) (p : Peer), f (b.setPeer p) = f b
  scripts : ∀ (b : Bench) (t : Table String Script), f { b with scripts := t } = f b

namespace SparedByCalls

variable {α : Type} {f : Bench → α} (spared : SparedByCalls f)

include spared

/-- The next script of a stub is taken. -/
theorem takeScript (b : Bench) (path : String) (call : EndpointCall) :
    f (b.takeScript path call).1 = f b := by
  rw [Bench.takeScript]
  split
  · rfl
  · exact spared.scripts b _
  · exact spared.scripts b _

/-- A session call of the bus is answered by the peer. -/
theorem callPeer (b : Bench) (p : Peer) (path : String) (call : EndpointCall) :
    f (b.callPeer p path call).1 = f b := by
  rw [Bench.callPeer]
  split
  · rfl
  · next interface _ =>
    have logged : f (if p.connected then b.log (.bus call.member path interface call.arguments)
        else b) = f b := by
      split
      · exact spared.log b _ rfl
      · rfl
    simp only
    split <;> exact (spared.peer _ _).trans logged

/-- A session call is made of whatever transport there is. -/
theorem call (b : Bench) (path : String) (call : EndpointCall) :
    f (b.call path call).1 = f b := by
  rw [Bench.call]
  split
  · exact (spared.takeScript _ _ _).trans (spared.log b _ rfl)
  · exact spared.callPeer b _ _ _
  · rfl

/-- An endpoint makes a session call of its own. -/
theorem callEndpoint (b : Bench) (p : Peer) (path : String) (call : EndpointCall) :
    f (b.callEndpoint p path call).1 = f b := by
  have called := spared.callPeer b p path call
  rw [Bench.callEndpoint]
  split
  · next c r hc => rwa [hc] at called
  · next c w hc => rwa [hc] at called

end SparedByCalls

/-- The core shows no scripts and no replies. -/
theorem core_sparedByCalls : SparedByCalls fun b => b.host.core where
  log b _ other := Host.core_log b.host other
  peer _ _ := rfl
  scripts _ _ := rfl

/-! ## Progress -/

/-- An operation is refused, or marks its device's session and makes its call. -/
theorem steps_start (allowed : scope.sessions) (b : Bench) (name : String) (p : Pending) :
    Changes law scope b (b.start name p).1 := by
  have marked : ∀ e, (p.operation.start (b.host.device? p.device)).device? = some e →
      ∃ d, b.host.device? p.device = some d ∧ d.SameButSession e := fun _ => Operation.start_marks
  rw [start]
  split
  · next after outcome started =>
    rw [started] at marked
    exact steps_putDevice allowed marked
  · next d call started =>
    rw [started] at marked
    have put : Changes law scope b (b.putDevice p.device (some d)) := steps_putDevice allowed marked
    have called : ((b.putDevice p.device (some d)).call d.path call).1.host.core =
        (b.putDevice p.device (some d)).host.core := core_sparedByCalls.call _ _ _
    split
    · next c r hc =>
      rw [hc] at called
      exact (put.trans (Core.Changes.of_eq called)).trans (steps_finish allowed c name p _)
    · next c channel hc =>
      rw [hc] at called
      let q : Pending :=
        { p with phase := .calling (c.clock + p.operation.limit d.timeouts) channel }
      exact (put.trans (Core.Changes.of_eq called)).trans
        (steps_look allowed { c with operations := c.operations.set name q } name q)

/-- An operation is polled. -/
theorem steps_poll (allowed : scope.sessions) (b : Bench) (name : String) (p : Pending) :
    Changes law scope b (b.poll name p).1 := by
  rw [poll]
  split
  · exact steps_start allowed b name p
  · exact steps_look allowed b name p

/-- The deadline of an operation comes. -/
theorem steps_expire (allowed : scope.sessions) (b : Bench) (name : String) (p : Pending) :
    Changes law scope b (b.expire name p).1 := by
  have polled : Changes law scope b (b.poll name p).1 := steps_poll allowed b name p
  rw [expire]
  split
  · next c outcome hc => rwa [hc] at polled
  · next c hc =>
    rw [hc] at polled
    split
    · next q _ =>
      split
      · next deadline _ _ =>
        exact polled.trans (steps_look allowed { c with clock := max c.clock deadline } name q)
      · exact polled
    · exact polled

end Bench

end Piconet
