import Piconet.Proofs.Deeds
import Piconet.Proofs.Pursuit
import Piconet.Proofs.Sessionless.Move
import Piconet.Proofs.Sessions

/-!
# Sessions and discovery do not interfere

Operations on sessions are held, polled, answered and waited for between all other moves, and work on the
records of the same devices. Leaving them out makes no difference to anything else: a session step leaves
nothing behind once sessions are erased (`Bench.sessionless_make`), and every other move is made in
lockstep with and without them (`Bench.make_sessionless`). So a run without its session steps can be made
as well, and shows the same after each of its moves.

The other way round, what is not a session step leaves the records of sessions and all operations on them
alone (`Core.Change.sessions`).
-/

namespace Piconet

open Bench (free)

/-! ## Session steps leave nothing behind -/

/-- Records that differ in their sessions are the same without them. -/
theorem Device.SameButSession.sessionless_eq {d e : Device} (same : d.SameButSession e) :
    e.sessionless = d.sessionless := by
  obtain ⟨s, rfl⟩ := same
  rfl

/-- To change the session of a device is nothing once sessions are erased. -/
theorem Host.sessionless_setDevice {h : Host} {id : DeviceId} {d e : Device}
    (found : h.device? id = some d) (same : d.SameButSession e) :
    (h.setDevice id e).sessionless = h.sessionless := by
  have looked : h.sessionless.device? id = some d.sessionless := by
    rw [device?_sessionless, found, Option.map_some]
  have devices : (h.sessionless.devices.modify id fun _ => d.sessionless) = h.sessionless.devices :=
    Table.modify_eq_self looked
  rw [← setDevice_sessionless, same.sessionless_eq, setDevice, devices]

/-- The trace of session calls is erased along with sessions. -/
theorem Host.sessionless_log (h : Host) {c : Call} (session : c.isSession) :
    (h.log c).sessionless = h.sessionless := by
  simp [log, sessionless, List.filter_append, session]

namespace Bench

variable (b : Bench)

/-- What leaves nothing behind at the host leaves nothing behind at the bench. -/
theorem sessionless_onHost {f : Host → Host} (leaves : (f b.host).sessionless = b.host.sessionless) :
    (b.onHost f).sessionless = b.sessionless :=
  congrArg (fun h : Host => ({ host := h, endpoints := b.endpoints, watches := b.watches } : Bench)) leaves

/-- The bench notes a session call in the trace of its host. -/
theorem sessionless_log {c : Call} (session : c.isSession) : (b.log c).sessionless = b.sessionless :=
  b.sessionless_onHost (f := (·.log c)) (b.host.sessionless_log session)

/-- An operation puts a device back that has another session, or finds that it is gone. -/
theorem sessionless_putDevice {id : DeviceId} {after : Option Device}
    (marked : ∀ e, after = some e → ∃ d, b.host.device? id = some d ∧ d.SameButSession e) :
    (b.putDevice id after).sessionless = b.sessionless := by
  cases after with
  | none => rfl
  | some e =>
    obtain ⟨d, found, same⟩ := marked e rfl
    exact b.sessionless_onHost (f := (·.setDevice id e)) (Host.sessionless_setDevice found same)

/-- An operation ends: it clears `in_flight`, and gives its result to its caller. -/
theorem sessionless_finish (name : String) (p : Pending) (r : SessionReply) :
    (b.finish name p r).1.sessionless = b.sessionless :=
  b.sessionless_putDevice fun _ => Operation.finish_marks

/-- An operation looks for its reply and for its deadline. -/
theorem sessionless_look (name : String) (p : Pending) : (b.look name p).1.sessionless = b.sessionless := by
  rw [look]
  split
  · rfl
  · split
    · exact b.sessionless_finish name p _
    · split
      · exact b.sessionless_finish name p _
      · rfl

/-- A session call of a stub takes the next script of its endpoint. -/
theorem sessionless_takeScript (path : String) (call : EndpointCall) :
    (b.takeScript path call).1.sessionless = b.sessionless := by
  rw [takeScript]
  split <;> rfl

/-- To put the peer back as it was changes nothing. -/
theorem setPeer_self {p : Peer} (there : b.peer? = some p) : b.setPeer p = b := by
  rw [setPeer, onHost, ← transport_of_peer? there]

/-- A session call of the bus takes one of the replies that are erased. -/
theorem sessionless_callPeer {p : Peer} (there : b.peer? = some p) (path : String) (call : EndpointCall) :
    (b.callPeer p path call).1.sessionless = b.sessionless := by
  have logged (interface : String) :
      (if p.connected then b.log (.bus call.member path interface call.arguments) else b).sessionless =
        b.sessionless := by
    split
    · exact b.sessionless_log (by cases call <;> rfl)
    · rfl
  -- the reply that is used up was none to anything else
  have used (c : Bench) (p' : Peer) (same : c.sessionless = b.sessionless)
      (left : p'.sessionless = p.sessionless) : (c.setPeer p').sessionless = b.sessionless := by
    rw [← setPeer_sessionless, same, left, setPeer_sessionless, b.setPeer_self there]
  rw [callPeer]
  split
  · rfl
  · next interface named =>
    have left := p.sessionless_session call
    generalize p.session call = answer at left ⊢
    rcases answer with ⟨p', _ | _ | _⟩ <;> exact used _ p' (logged interface) left

/-- **A session call leaves nothing behind**, whoever answers it. -/
theorem sessionless_call (path : String) (call : EndpointCall) :
    (b.call path call).1.sessionless = b.sessionless := by
  rw [Bench.call]
  split
  · exact (sessionless_takeScript _ path call).trans (b.sessionless_log rfl)
  · next p there => exact b.sessionless_callPeer (by rw [peer?, there]) path call
  · rfl

/-- An operation is started: it is refused, or marks the session of its device and makes its call. -/
theorem sessionless_start (name : String) (p : Pending) :
    (b.start name p).1.sessionless = b.sessionless := by
  have marked (e : Device) (after : (p.operation.start (b.host.device? p.device)).device? = some e) :
      ∃ d, b.host.device? p.device = some d ∧ d.SameButSession e := Operation.start_marks after
  rw [start]
  split
  · next after outcome started =>
    rw [started] at marked
    exact b.sessionless_putDevice marked
  · next d call started =>
    rw [started] at marked
    have called := (sessionless_call (b.putDevice p.device (some d)) d.path call).trans
      (b.sessionless_putDevice marked)
    split
    · next c r answered =>
      rw [answered] at called
      exact (c.sessionless_finish name p _).trans called
    · next c channel waits =>
      rw [waits] at called
      exact (sessionless_look _ name _).trans called

/-- An operation that is polled starts or looks for its reply. -/
theorem sessionless_poll (name : String) (p : Pending) : (b.poll name p).1.sessionless = b.sessionless := by
  rw [poll]
  split
  · exact b.sessionless_start name p
  · exact b.sessionless_look name p

/-- The deadline of an operation comes. -/
theorem sessionless_expire (name : String) (p : Pending) :
    (b.expire name p).1.sessionless = b.sessionless := by
  have polled := b.sessionless_poll name p
  rw [expire]
  split
  · next c outcome ended =>
    rw [ended] at polled
    exact polled
  · next c waits =>
    rw [waits] at polled
    split
    · split
      · exact (sessionless_look { c with clock := _ } name _).trans polled
      · exact polled
    · exact polled

/-- A session operation is created, and started at once unless it is lazy. -/
theorem sessionless_operate (id : DeviceId) (path : String) (operation : Operation) (name : String)
    (provision : Provision) (isLazy : Bool) (favors : Pending.Branch) :
    (b.operate id path operation name provision isLazy favors).1.sessionless = b.sessionless := by
  simp only [operate]
  split
  · cases provision <;> rfl
  · rw [fst_progress, sessionless_poll]
    cases provision <;> rfl

/-- A reply to a session call comes in. -/
theorem sessionless_reply (name : String) (channel : ChannelId) (r : SessionReply) :
    (b.reply name channel r).1.sessionless = b.sessionless := by
  change ((b.give name channel r).pollIfThere name).1.sessionless = b.sessionless
  rw [pollIfThere]
  split
  · exact sessionless_poll (b.give name channel r) name _
  · rfl

/-- Something that is done to what is found. -/
theorem sessionless_withSome {α : Type} {found : Option α} {f : α → Bench × Step.Result}
    (leaves : ∀ a, found = some a → (f a).1.sessionless = b.sessionless) :
    (b.withSome found f).1.sessionless = b.sessionless := by
  cases found with
  | none => rfl
  | some a => exact leaves a rfl

/-- **A session step leaves nothing behind** once sessions are erased. -/
theorem sessionless_doStep {s : Step} (session : s.isSession) :
    (b.doStep s).1.sessionless = b.sessionless := by
  have calls (p : Peer) (there : b.peer? = some p) (path : String) (call : EndpointCall) :
      (b.callEndpoint p path call).1.sessionless = b.sessionless := by
    have called := b.sessionless_callPeer there path call
    rw [callEndpoint]
    split
    · next c r answered => rwa [answered] at called
    · next c channel waits => rwa [waits] at called
  cases s with
  | operate device operation name provision isLazy favors =>
    exact b.sessionless_withSome fun id _ => b.sessionless_withSome fun d _ =>
      b.sessionless_operate id d.path operation name provision isLazy favors
  | poll name =>
    refine b.sessionless_withSome fun p _ => ?_
    rw [fst_progress]
    exact b.sessionless_poll name p
  | reply name r => exact b.sessionless_withSome fun channel _ => b.sessionless_reply name channel r
  | expire name =>
    refine b.sessionless_withSome fun p _ => ?_
    rw [fst_progress]
    exact b.sessionless_expire name p
  | cancel => rfl
  | connect name role =>
    refine b.sessionless_withSome fun p there => b.sessionless_withSome fun path _ => ?_
    rw [fst_ofReading]
    exact calls p there path _
  | disconnect name role interface =>
    refine b.sessionless_withSome fun p there => b.sessionless_withSome fun path _ => ?_
    rw [fst_ofReading]
    exact calls p there path _
  | _ => exact absurd session (by simp [Step.isSession])

variable {b} {b' c c' : Bench} {m : Move}

/-- **A session step leaves nothing behind** once sessions are erased. -/
theorem sessionless_make (session : m.isSession) (made : b.make m = some c) :
    c.sessionless = b.sessionless := by
  cases m with
  | step s =>
    obtain ⟨-, made⟩ := Option.ite_none_right_eq_some.1 made
    obtain rfl := Option.some.inj made
    exact b.sessionless_doStep session
  | act | poll | follow | report => exact absurd session (by simp [Move.isSession])

/-! ## Two runs -/

/-- The moves of a run with the benches that they lead to, if all of them can be made. -/
def course : Bench → List Move → Option (List (Move × Bench))
  | _, [] => some []
  | b, m :: ms => (b.make m).bind fun c => (c.course ms).map ((m, c) :: ·)

/-- What was made once can be made wherever the same is left without sessions. -/
theorem exists_make (same : b.sessionless = b'.sessionless) (other : m.isSession = false)
    (made : b.make m = some c) : ∃ c', b'.make m = some c' ∧ c.sessionless = c'.sessionless := by
  have lockstep : (b'.make m).map sessionless = some c.sessionless := by
    rw [← b'.make_sessionless other, ← same, b.make_sessionless other, made, Option.map_some]
  obtain ⟨c', made', same'⟩ := Option.map_eq_some_iff.1 lockstep
  exact ⟨c', made', same'.symm⟩

/-- **A run without its session steps**, made where the same is left without sessions. -/
theorem course_sessionless {ms : List Move} {xs : List (Move × Bench)}
    (same : b.sessionless = b'.sessionless) (run : b.course ms = some xs) :
    ∃ ys, b'.course (ms.filter fun m => !m.isSession) = some ys ∧
      ys.map (fun y => (y.1, y.2.sessionless)) =
        (xs.filter fun x => !x.1.isSession).map fun x => (x.1, x.2.sessionless) := by
  induction ms generalizing b b' xs with
  | nil =>
    obtain rfl := Option.some.inj run
    exact ⟨[], rfl, rfl⟩
  | cons m ms ih =>
    obtain ⟨c, made, rest⟩ := Option.bind_eq_some_iff.1 run
    obtain ⟨xs, run', rfl⟩ := Option.map_eq_some_iff.1 rest
    cases session : m.isSession with
    | true =>
      obtain ⟨ys, goes, shows_⟩ := ih ((sessionless_make session made).trans same) run'
      refine ⟨ys, ?_, ?_⟩
      · rw [List.filter_cons_of_neg (by simp [session])]
        exact goes
      · rw [List.filter_cons_of_neg (by simp [session])]
        exact shows_
    | false =>
      obtain ⟨c', made', same'⟩ := exists_make same session made
      obtain ⟨ys, goes, shows_⟩ := ih same' run'
      refine ⟨(m, c') :: ys, ?_, ?_⟩
      · rw [List.filter_cons_of_pos (by simp [session]), course, made', Option.bind_some, goes]
        rfl
      · rw [List.filter_cons_of_pos (by simp [session]), List.map_cons, List.map_cons, shows_, same']

/-- What there is to see apart from sessions: the devices, what those who keep their events were told, the
registry, and all calls but those that open and close sessions. -/
structure Showing where
  /-- the devices, each with an empty session record -/
  devices : DeviceId → Option Device
  /-- those who keep events, with the events that they have got -/
  receivers : List Receiver
  registry : Registry
  /-- the calls of discovery and the submissions, in their order -/
  calls : List Call

/-- What there is to be seen of a bench without asking for its sessions. -/
def showing (b : Bench) : Showing where
  devices id := (b.host.device? id).map Device.sessionless
  receivers := b.host.receivers
  registry := b.host.registry
  calls := b.host.calls.filter fun c => !c.isSession

/-- It is what shows when sessions are erased. -/
theorem showing_eq (b : Bench) : b.showing =
    ⟨b.sessionless.host.device?, b.sessionless.host.receivers, b.sessionless.host.registry,
      b.sessionless.host.calls⟩ := by
  have devices : b.sessionless.host.device? = fun id => (b.host.device? id).map Device.sessionless :=
    funext b.host.device?_sessionless
  rw [devices]
  rfl

/-! ## What leaves sessions alone -/

/-- No device comes or goes while nobody does anything. -/
theorem isSome_of_make (made : b.make m = some c) (itself : m = .act ∨ ∃ run, m = .poll run)
    (calm : b.command? m = none) (id : DeviceId) :
    (c.host.device? id).isSome = (b.host.device? id).isSome := by
  cases plays_of_make made with
  | backstage same => exact Host.isSome_of_scene same id
  | command ds x given => exact absurd (calm.symm.trans given) (by simp)
  | pursue ds run taken did =>
    have before : (b.host.withAgenda ds).device? id = b.host.device? id := rfl
    rw [did, ← before]
    cases running : (b.host.withAgenda ds).run? run with
    | none => rw [Host.pursue, running]
    | some r => exact (Host.apart_pursue running).there id
  | follow branch monitor turn => rcases itself with rfl | ⟨run, rfl⟩ <;> exact absurd turn (by simp)
  | step s turn => rcases itself with rfl | ⟨run, rfl⟩ <;> exact absurd turn (by simp)

/-- A move that is no session step leaves all operations and the records of sessions alone. -/
theorem sessions_of_make (reached : Reachable free b) (made : b.make m = some c)
    (other : m.isSession = false) : c.operations = b.operations ∧
      ∀ id d e, b.host.device? id = some d → c.host.device? id = some e → e.session = d.session := by
  have off : ¬ (b.scopeOf m).sessions := by
    rintro ⟨s, rfl, goesOn⟩
    cases s with
    | operate | poll | reply | expire => exact absurd other (by simp [Move.isSession, Step.isSession])
    | _ => exact absurd goesOn (by simp [Step.progresses])
  have keeps (name : String) : m ≠ .step (.cancel name) := by
    rintro rfl
    exact absurd other (by simp [Move.isSession, Step.isSession])
  have kept : b.host.core.KeepsSessions c.host.core := by
    rcases reached.changes_make made with changes | ⟨-, s, change⟩
    · exact changes.sessions off
    · exact change.sessions off
  refine ⟨operations_make off keeps made, fun id d e found there => ?_⟩
  rcases kept.kept id e there with ⟨d', found', same⟩ | ⟨new, -⟩
  · obtain rfl := Option.some.inj (found.symm.trans found')
    exact same
  · exact absurd (reached.upkeep.known id d found) (Nat.not_lt.2 new)

/-- **Sessions and discovery do not interfere.** Leave out of any run all session moves: operations that are
created, polled, answered, waited for or dropped, and session calls on the bus. The moves that are left can be
made as well, and after each of them the same shows as in the full run (`Bench.showing`): all devices apart from
their session records, what the receivers of their events have got, the registry, and all calls but the session
calls. Conversely, a move that is no session move leaves all pending operations as they are, and keeps the
session record of every device whose handle is not dropped in it. In particular a batch of properties, a change
of the adapter's power, a notification of the registry and the loss of usability keep every session record. -/
theorem sessions_apart (reached : Reachable free b) {ms : List Move} {xs : List (Move × Bench)}
    (run : b.course ms = some xs) :
    (∃ ys, b.course (ms.filter fun m => !m.isSession) = some ys ∧
      ys.map (fun y => (y.1, y.2.showing)) =
        (xs.filter fun x => !x.1.isSession).map fun x => (x.1, x.2.showing)) ∧
    ∀ c m c', Reaches free b c → c.make m = some c' → m.isSession = false →
      c'.operations = c.operations ∧
      (∀ id d, c.host.device? id = some d → c'.host.Keeps id →
        ∃ e, c'.host.device? id = some e ∧ e.session = d.session) ∧
      ((m = .act ∨ ∃ run, m = .poll run) → c.command? m = none →
        ∀ id d, c.host.device? id = some d → ∃ e, c'.host.device? id = some e ∧ e.session = d.session) := by
  refine ⟨?_, fun c m c' way made other => ?_⟩
  · obtain ⟨ys, goes, shows_⟩ := course_sessionless rfl run
    refine ⟨ys, goes, ?_⟩
    have seen := congrArg (List.map fun x : Move × Bench => (x.1, (⟨x.2.host.device?, x.2.host.receivers,
      x.2.host.registry, x.2.host.calls⟩ : Showing))) shows_
    rw [List.map_map, List.map_map] at seen
    simp only [showing_eq]
    exact seen
  · have reached' := reached.trans way
    obtain ⟨operations, same⟩ := sessions_of_make reached' made other
    have stays (id : DeviceId) (d : Device) (found : c.host.device? id = some d)
        (there : (c'.host.device? id).isSome) : ∃ e, c'.host.device? id = some e ∧ e.session = d.session := by
      obtain ⟨e, there⟩ := Option.isSome_iff_exists.1 there
      exact ⟨e, there, same id d e found there⟩
    have custody := (inCustody_make reached'.inCustody reached'.upkeep made).custody
    refine ⟨operations, fun id d found kept => ?_, fun itself calm id d found => ?_⟩
    · exact stays id d found ((custody.there_iff id).2 kept)
    · exact stays id d found ((isSome_of_make made itself calm id).trans (Option.isSome_of_eq_some found))

/-- A session is opened, and the only profile for its device is removed. -/
def deserting : List Move :=
  [.step (.operate "D" (.connect .dun) "open" .usual false), .step (.command (.request (.remove "u"))),
    .act, .act, .act]

/-- A session is opened and then the only profile of the device is removed, which makes the device unusable: the
run without the session move shows the same, and the session stays open. -/
theorem sessions_apart_deserting :
    (∃ xs ys, matched.course deserting = some xs ∧ matched.course deserting.tail = some ys ∧
      xs.length = 5 ∧ ys.map (fun y => (y.1, y.2.showing)) = xs.tail.map fun x => (x.1, x.2.showing)) ∧
    ∃ d e, (matched.makeAll (deserting.take 3)).host.device? 0 = some d ∧ d.usable = true ∧
      (matched.makeAll (deserting.take 4)).host.device? 0 = some e ∧ e.usable = false ∧
      d.session.role = some .dun ∧ e.session = d.session := by
  have reached : Reachable free matched := reachable_matched trivial
  have run : matched.course deserting = some ((matched.course deserting).get (by rfl)) :=
    (Option.some_get _).symm
  obtain ⟨⟨ys, goes, same⟩, kept⟩ := sessions_apart reached run
  have way : Reaches free matched (matched.makeAll (deserting.take 3)) :=
    reaches_makeAll _ _ fun _ _ => trivial
  obtain ⟨-, -, stays⟩ := kept _ .act (matched.makeAll (deserting.take 4)) way (by rfl) rfl
  have there : (matched.makeAll (deserting.take 3)).host.device? 0 =
      some (((matched.makeAll (deserting.take 3)).host.device? 0).get (by rfl)) :=
    (Option.some_get _).symm
  obtain ⟨e, stayed, session⟩ := stays (.inl rfl) (by rfl) 0 _ there
  refine ⟨⟨_, ys, run, goes, by rfl, same⟩, _, e, there, by rfl, stayed, ?_, by rfl, session⟩
  have after : ((matched.makeAll (deserting.take 4)).host.device? 0).map (·.usable) = some false := by rfl
  rw [stayed] at after
  exact Option.some.inj after

end Bench

end Piconet
