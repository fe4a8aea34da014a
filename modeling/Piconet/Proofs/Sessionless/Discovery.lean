import Piconet.Proofs.Sessionless.Command

/-!
# Discovery without sessions

A peer that was told replies to session calls answers everything else as it would have without them, so a
run of discovery comes to the same on a host without sessions.
-/

namespace Piconet

/-! ## The peer -/

namespace Peer

variable (p : Peer) {member : String}

/-- Without its replies to session calls a peer is as reachable as with them. -/
theorem connected_sessionless : p.sessionless.connected = p.connected := rfl

/-- A reply to anything but a session call is the same without the replies to session calls. -/
theorem reply_sessionless (other : isSessionMember member = false) (served : Reply) :
    p.sessionless.reply member served = (p.reply member served).map sessionless id := by
  have first : p.sessionless.replies.find? (·.1 = member) = p.replies.find? (·.1 = member) := by
    rw [sessionless, List.find?_filter]
    refine congrArg (List.find? · p.replies) (funext fun r => ?_)
    by_cases mine : r.1 = member <;> simp [mine, other]
  have rest : p.sessionless.replies.eraseP (·.1 = member) =
      (p.replies.eraseP (·.1 = member)).filter fun r => !isSessionMember r.1 := by
    rw [sessionless, List.eraseP_filter]
    refine congrArg (fun q => (p.replies.eraseP q).filter _) (funext fun r => ?_)
    by_cases mine : r.1 = member <;> simp [mine, other]
  rw [reply, reply, first, rest]
  cases p.replies.find? (·.1 = member) with
  | none => rfl
  | some r => rfl

/-- A reply to a session call is used up where there is none. -/
theorem sessionless_reply (session : isSessionMember member) (served : Reply) :
    (p.reply member served).1.sessionless = p.sessionless := by
  have rest (rs : List (String × Reply)) : (rs.eraseP (·.1 = member)).filter (!isSessionMember ·.1) =
      rs.filter (!isSessionMember ·.1) := by
    induction rs with
    | nil => rfl
    | cons r rs ih =>
      by_cases mine : r.1 = member
      · rw [List.eraseP_cons_of_pos (by simpa using mine), List.filter_cons_of_neg (by simp [mine, session])]
      · rw [List.eraseP_cons_of_neg (by simpa using mine), List.filter_cons, List.filter_cons, ih]
  rw [reply]
  split
  · simp only [sessionless, rest]
  · rfl

variable {α : Type}

/-- The peer answers a call that is no session call from the replies that are left. -/
theorem call_sessionless (other : isSessionMember member = false) (served : Reply)
    (read : Reply → Option α) :
    p.sessionless.call member served read = (p.call member served read).map sessionless id := by
  rw [call, call, connected_sessionless, reply_sessionless p other]
  split
  · rcases p.reply member served with ⟨p', r⟩
    cases r with
    | error | never => rfl
    | _ =>
      simp only [Prod.map_apply, id_eq]
      split <;> rfl
  · rfl

/-- A session call takes away none of the replies that are left. -/
theorem sessionless_call (session : isSessionMember member) (served : Reply)
    (read : Reply → Option α) : (p.call member served read).1.sessionless = p.sessionless := by
  have used := p.sessionless_reply session served
  rw [call]
  generalize p.reply member served = answer at used ⊢
  obtain ⟨p', r⟩ := answer
  split
  · cases r with
    | error | never => exact used
    | _ =>
      simp only
      split <;> exact used
  · rfl

/-- Neither `Connect` nor `Disconnect` leaves anything behind at the peer but the replies to session calls. -/
theorem sessionless_session (call : EndpointCall) : (p.session call).1.sessionless = p.sessionless := by
  cases call with
  | connect => exact p.sessionless_call (by decide) _ _
  | disconnect =>
    have used : (p.call "Disconnect" .empty fun _ => some ()).1.sessionless = p.sessionless :=
      p.sessionless_call (by decide) _ _
    simp only [session, disconnect]
    generalize p.call "Disconnect" .empty (fun _ => some ()) = answer at used ⊢
    rcases answer with ⟨p', _ | _ | _⟩ <;> exact used

/-- To read a property is no session call, so the reply to it is the same. -/
theorem get_sessionless (path interface name : String) :
    p.sessionless.get path interface name = (p.get path interface name).map sessionless id :=
  p.call_sessionless (by decide) _ _

/-- To read all properties of an interface is no session call either. -/
theorem getAll_sessionless (path interface : String) :
    p.sessionless.getAll path interface = (p.getAll path interface).map sessionless id :=
  p.call_sessionless (by decide) _ _

/-- The first reading of a device's properties gives the same in either generation. -/
theorem fetch_sessionless (g : Generation) (path : String) :
    p.sessionless.fetch g path = (p.fetch g path).map sessionless id := by
  cases g with
  | bluez4 => exact p.call_sessionless (by decide) _ _
  | bluez5 => exact p.getAll_sessionless path _

/-- The enumeration of all objects, which the monitor starts with, is no session call. -/
theorem managedObjects_sessionless :
    p.sessionless.managedObjects = p.managedObjects.map sessionless id :=
  p.call_sessionless (by decide) _ _

end Peer

namespace AdapterView

variable (a : AdapterView) (p : Peer)

/-- The first reading of an adapter makes no session call. -/
theorem load_sessionless : a.load p.sessionless = (a.load p).map Peer.sessionless id := by
  rw [load, load]
  cases a.kept with
  | some kept => rfl
  | none =>
    simp only [Peer.getAll_sessionless]
    rcases p.getAll a.path interface with ⟨p', _ | _ | _⟩ <;> rfl

/-- To ask for the power of an adapter later on makes no session call. -/
theorem current_sessionless : a.current p.sessionless = (a.current p).map Peer.sessionless id := by
  rw [current, current]
  cases a.kept with
  | none => rfl
  | some kept =>
    cases kept with
    | error e => rfl
    | ok entries =>
      simp only
      cases entries.lookup powerProperty with
      | some v => rfl
      | none =>
        simp only [Peer.get_sessionless]
        rcases p.get a.path interface powerProperty with ⟨p', _ | _ | _⟩ <;> rfl

end AdapterView

namespace Peer

variable (p : Peer)

/-- What discovery finds out about the power of an adapter does not depend on sessions. -/
theorem findPower_sessionless (path : String) :
    p.sessionless.findPower path = (p.findPower path).map sessionless id := by
  rw [findPower, findPower, AdapterView.load_sessionless]
  rcases ({ path } : AdapterView).load p with ⟨p', a | _ | _⟩
  · simp only [Prod.map_apply, id_eq, AdapterView.current_sessionless]
    rcases a.current p' with ⟨p'', _ | _ | _⟩ <;> rfl
  · rfl
  · rfl

/-- **A stage of discovery** makes no session call, so what it comes to is the same. -/
theorem attempt_sessionless (g : Generation) (path : String) (stage : Stage) :
    p.sessionless.attempt g path stage = (p.attempt g path stage).map sessionless id := by
  cases stage with
  | fetch =>
    simp only [attempt, fetch_sessionless]
    rcases p.fetch g path with ⟨p', _ | _ | _⟩ <;> rfl
  | readPower adapter => exact p.findPower_sessionless adapter
  | _ => rfl

end Peer

/-! ## Runs -/

namespace Host

variable (h : Host) (id : RunId) (r : Run) (d : Device)

/-- Discovery ends with the same `Initialized` event. -/
theorem report_sessionless (id : DeviceId) (success : Bool) :
    h.sessionless.report id success = (h.report id success).sessionless := by
  rw [report, report, device?_sessionless]
  cases h.device? id with
  | none => rfl
  | some d =>
    simp only [Option.map_some, show d.sessionless.reported = d.reported from rfl]
    split
    · rfl
    · exact congrArg (·.emit id (.initialized success))
        (h.setDevice_sessionless id { d with reported := true, initialized := d.initialized || success })

/-- A run enters its next stage. -/
theorem enter_sessionless (stage : Stage) :
    h.sessionless.enter id r stage = (h.enter id r stage).sessionless :=
  (h.setRun id (r.enter stage)).urge_sessionless [.pursue id]

/-- A run that failed is given up, and its device is assessed anew. -/
theorem abandon_sessionless : h.sessionless.abandon id r = (h.abandon id r).sessionless := by
  rw [abandon, abandon, show h.sessionless.endRun id = (h.endRun id).sessionless from rfl, report_sessionless]
  exact urge_sessionless _ [.reassess r.device]

/-- A device that is changed and a run that moves on. -/
theorem enter_setDevice_sessionless (id' : DeviceId) (stage : Stage) :
    (h.sessionless.setDevice id' d.sessionless).enter id r stage =
      ((h.setDevice id' d).enter id r stage).sessionless := by
  rw [setDevice_sessionless, enter_sessionless]

/-- A batch of changed properties gives the same events, and completes the same identity. -/
theorem applyBatch_sessionless (id : DeviceId) (b : PropertyBatch) :
    h.sessionless.applyBatch id d.sessionless b = (h.applyBatch id d b).sessionless := by
  let e := d.merge b
  have looked : (if (d.changes e).identity then e.sessionless.survey h.registry.profiles
      else e.sessionless) =
        (if (d.changes e).identity then e.survey h.registry.profiles else e).sessionless := by
    rw [Device.survey_sessionless]
    split <;> rfl
  simp only [applyBatch, emitAll_eq, Device.merge_sessionless]
  rw [show d.sessionless.changes e.sessionless = d.changes e from rfl,
    show h.sessionless.registry = h.registry from rfl, looked]
  have marked := setDevice_sessionless
    { h with receivers := tell id (e.eventsFor (d.changes e)) h.receivers } id
    (if (d.changes e).identity then e.survey h.registry.profiles else e)
  exact (congrArg (·.urge [.reassess id]) marked).trans (urge_sessionless _ [.reassess id])

/-- The first reading of the properties is taken in alike, after which the run goes on to the adapter or is
given up. -/
theorem fetched_sessionless (b : PropertyBatch) :
    h.sessionless.fetched id r d.sessionless b = (h.fetched id r d b).sessionless := by
  let e := d.merge b
  let g : Host :=
    { h with receivers := tell r.device (e.eventsFor (d.changes e)) h.receivers }.setDevice r.device
      { e.survey h.registry.profiles with bound := true }
  have marked : { h.sessionless with
      receivers := tell r.device (e.eventsFor (d.changes e)) h.receivers }.setDevice r.device
        { e.sessionless.survey h.registry.profiles with bound := true } = g.sessionless := by
    rw [Device.survey_sessionless]
    exact setDevice_sessionless
      { h with receivers := tell r.device (e.eventsFor (d.changes e)) h.receivers } r.device
      { e.survey h.registry.profiles with bound := true }
  have goesOn (stage : Stage) : (g.sessionless.enter id r stage).urge [.reassess r.device] =
      ((g.enter id r stage).urge [.reassess r.device]).sessionless := by
    rw [enter_sessionless]
    exact urge_sessionless _ [.reassess r.device]
  simp only [fetched, emitAll_eq, Device.merge_sessionless]
  rw [show d.sessionless.changes e.sessionless = d.changes e from rfl,
    show h.sessionless.registry = h.registry from rfl,
    show d.sessionless.generation = d.generation from rfl]
  split
  · cases b.adapter with
    | some adapter => exact (congrArg (fun k : Host => (k.enter id r (.bindAdapter adapter)).urge
        [.reassess r.device]) marked).trans (goesOn _)
    | none => exact (congrArg (·.abandon id r) marked).trans (g.abandon_sessionless id r)
  · exact (congrArg (fun k : Host => (k.enter id r .announce).urge [.reassess r.device]) marked).trans
      (goesOn _)

/-- What a stage has brought changes a device in everything but its session. -/
theorem proceed_sessionless (stage : Stage) (a : stage.Yield) :
    h.sessionless.proceed id r d.sessionless stage a = (h.proceed id r d stage a).sessionless := by
  cases stage with
  | acquire =>
    have moved := h.enter_setDevice_sessionless id r { d with busPresent := true } r.device .bind
    exact (congrArg (·.urge [.reassess r.device]) moved).trans (urge_sessionless _ [.reassess r.device])
  | bind | subscribe | bindAdapter | subscribePower => exact h.enter_sessionless id _ _
  | fetch => exact h.fetched_sessionless id r d a
  | readPower adapter =>
    exact h.enter_setDevice_sessionless id _ { d with adapter := .resolved a.on } r.device .announce
  | announce =>
    have reported := h.report_sessionless r.device true
    exact (congrArg (fun g : Host => (g.setRun id { r with phase := .follow }).urge
      [.reassess r.device, .pursue id]) reported).trans
        (urge_sessionless ((h.report r.device true).setRun id { r with phase := .follow })
          [.reassess r.device, .pursue id])

/-- A stage waits, fails or brings something, with or without sessions. -/
theorem settleStage_sessionless (stage : Stage) (finding : Finding stage.Yield) :
    h.sessionless.settleStage id r d.sessionless stage finding =
      (h.settleStage id r d stage finding).sessionless := by
  cases finding with
  | waits progress => rfl
  | failed => exact h.abandon_sessionless id r
  | yields a => exact h.proceed_sessionless id r d stage a

/-- The calls that discovery makes of a stub are noted. -/
theorem noteCall_sessionless (path : String) (stage : Stage) (progress : Progress) :
    h.sessionless.noteCall path stage progress = (h.noteCall path stage progress).sessionless := by
  unfold noteCall
  split
  · exact h.log_sessionless rfl
  · rfl

/-- A run makes the call of its stage. -/
theorem attempt_sessionless (stage : Stage) (progress : Progress) :
    h.sessionless.attempt id r d.sessionless stage progress =
      (h.attempt id r d stage progress).sessionless := by
  rw [attempt, attempt, show h.sessionless.transport = h.transport.sessionless from rfl]
  cases h.transport with
  | stub s =>
    simp only [Transport.sessionless, show d.sessionless.path = d.path from rfl, noteCall_sessionless]
    exact settleStage_sessionless _ id r d stage _
  | peer p =>
    simp only [Transport.sessionless, show d.sessionless.path = d.path from rfl,
      show h.sessionless.generation = h.generation from rfl, Peer.attempt_sessionless]
    rcases p.attempt h.generation d.path stage with ⟨p', finding⟩
    exact settleStage_sessionless { h with transport := .peer p' } id r d stage finding
  | unreachable => exact h.abandon_sessionless id r

/-- A device takes in an update that it follows. -/
theorem takeIn_sessionless (id : DeviceId) (u : Update) :
    h.sessionless.takeIn id d.sessionless u = (h.takeIn id d u).sessionless := by
  cases u with
  | properties b => exact h.applyBatch_sessionless d id b
  | power on =>
    have marked := h.setDevice_sessionless id { d with adapter := .resolved on }
    exact (congrArg (·.urge [.reassess id]) marked).trans (urge_sessionless _ [.reassess id])

/-- The feeds of changed properties and of power are not fed by sessions. -/
theorem followOn_sessionless :
    h.sessionless.followOn id r d.sessionless = (h.followOn id r d).sessionless := by
  rw [followOn, followOn]
  cases r.next? with
  | some next =>
    have urged := (h.setRun id next.2).urge_sessionless [.pursue id]
    exact (congrArg (·.takeIn next.2.device d.sessionless next.1) urged).trans
      (takeIn_sessionless _ d next.2.device next.1)
  | none =>
    simp only
    split <;> rfl

/-- **Discovery** goes on alike with and without sessions. -/
theorem pursue_sessionless : h.sessionless.pursue id = (h.pursue id).sessionless := by
  rw [pursue, pursue, show h.sessionless.run? id = h.run? id from rfl]
  cases h.run? id with
  | none => rfl
  | some r =>
    simp only [device?_sessionless]
    cases h.device? r.device with
    | none => rfl
    | some d =>
      simp only [Option.map_some]
      cases r.phase with
      | follow => exact h.followOn_sessionless id r d
      | bringUp stage progress =>
        cases progress with
        | stuck => rfl
        | fresh | waits => exact h.attempt_sessionless id r d stage _

/-! ## Duties -/

/-- **A duty is done in lockstep** on a host and on what is left of it without sessions. -/
theorem act_sessionless (duty : Duty) : h.sessionless.act duty.sessionless = (h.act duty).sessionless := by
  cases duty with
  | announce n listeners =>
    cases listeners with
    | nil => rfl
    | cons l ls =>
      exact (congrArg (·.hear n l) (h.urge_sessionless [.announce n ls])).trans (hear_sessionless _ n l)
  | react w n rule => exact h.react_sessionless w n rule
  | perform w cs => exact h.perform_sessionless w cs
  | record w a => exact h.record_sessionless w a
  | reassess id => exact h.reassess_sessionless id
  | adopt id uuid => exact h.adopt_sessionless id uuid
  | conclude id => exact h.conclude_sessionless id
  | pursue run => exact h.pursue_sessionless run

end Host

end Piconet
