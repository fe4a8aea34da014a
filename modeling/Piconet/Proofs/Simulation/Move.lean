import Piconet.Proofs.Run
import Piconet.Proofs.Simulation.Discovery
import Piconet.Proofs.Simulation.Duty
import Piconet.Proofs.Simulation.Session

/-!
# Moves are steps of the core

Whatever a user of a bench does, and whatever the bench does by itself, its core takes steps. So an
invariant of the core that each step keeps holds in all that can become of a bench
(`Bench.Reachable.core_induction`). Each move keeps within a scope (`Bench.scopeOf`), so what the
scope leaves out can be followed through the other moves.
-/

namespace Piconet

variable {law : Bench.Law} {scope : Core.Scope}

/-- Session operations go on in such a step. -/
def Step.progresses : Step → Bool
  | .operate .. | .poll _ | .reply .. | .expire _ => true
  | _ => false

/-- The name under which a step sets a receiver up, or gives one up. -/
def Step.receiver? : Step → Option String
  | .command c => c.receiver?
  | .newDevice handle _ _ _ => some handle
  | .listen _ receiver | .unlisten receiver => some receiver
  | _ => none

/-- The signal of objects that a signal is, if it is one. -/
def Signal.object? : Signal → Option ObjectSignal
  | added object | removed object => some object
  | changed .. | property .. | malformed => none

namespace Host

/-! ## Signals -/

theorem transport_of_peer? {h : Host} {p : Peer} (there : h.peer? = some p) : h.transport = .peer p := by
  rw [peer?] at there
  split at there
  · next q same =>
    obtain ⟨-, there⟩ := Option.ite_none_right_eq_some.1 there
    rw [same, Option.some.inj there]
  · exact absurd there (by simp)
  · exact absurd there (by simp)

/-- What a signal keeps, if the feeds of runs, the monitor and the power of adapters keep it. -/
theorem receiveSignal_induction {P : Host → Prop} {h : Host} (s : Signal) (start : P h)
    (hears : ∀ path f, P (h.onChanges path f))
    (powers : ∀ g p path entries invalidated, g.transport = .peer p → P g →
      P (g.announcePower p path entries invalidated))
    (objects : s.object?.isSome → ∀ g f, P g → P (g.onMonitor f)) : P (h.receiveSignal s) := by
  rw [receiveSignal]
  split
  · exact start
  · next p there =>
    extract_lets g
    have held : g.transport = .peer p ∧ P g := by
      have transport := transport_of_peer? there
      simp only [g]
      split
      · exact ⟨transport, hears _ _⟩
      · exact ⟨transport, start⟩
    obtain ⟨transport, held⟩ := held
    split
    · split
      · exact powers g _ _ _ _ transport held
      · exact held
    · exact objects rfl g _ held
    · exact objects rfl g _ held
    · exact held
    · exact held

/-- A run whose adapter's power is read again stands where it stood. -/
theorem standing_rereadAll (p : Peer) (follows? : Run → Option (Feed Bool)) (rs : List (RunId × Run)) :
    (rereadAll p follows? rs).2.map (fun e => (e.1, e.2.standing)) = rs.map fun e => (e.1, e.2.standing) := by
  induction rs generalizing p with
  | nil => rfl
  | cons e rs ih =>
    obtain ⟨id, r⟩ := e
    simp only [rereadAll]
    split
    · next f _ => exact congrArg ((id, r.standing) :: ·) (ih _)
    · exact congrArg ((id, r.standing) :: ·) (ih _)

/-- The feeds of power changes show in no core. -/
theorem core_announcePower (h : Host) (p : Peer) (path : String)
    (entries : List (String × Bus.Value)) (invalidated : List String) :
    (h.announcePower p path entries invalidated).core = h.core := by
  rw [announcePower]
  split
  · next v _ =>
    cases v.flag? with
    | none => rfl
    | some on => exact core_onPower h path _
  · split
    · have standing : (⟨(rereadAll p (h.follows? path) h.runs.entries).2⟩ : Table RunId Run).mapValues Run.standing
          = h.runs.mapValues Run.standing :=
        congrArg Table.mk (standing_rereadAll p (h.follows? path) h.runs.entries)
      rw [core]
      simp only [standing]
      rfl
    · rfl

/-- A signal goes to feeds, of runs, of the monitor and of endpoints. -/
theorem core_receiveSignal (h : Host) (s : Signal) : (h.receiveSignal s).core = h.core :=
  receiveSignal_induction (P := fun g => g.core = h.core) s rfl (core_onChanges h)
    (fun g p path entries invalidated _ => (core_announcePower g p path entries invalidated).trans)
    fun _ _ _ held => held

/-- The streams that end with the bus show in none. -/
theorem core_loseBus (h : Host) : h.loseBus.core = h.core := by
  rw [loseBus]
  split
  · exact core_mapRuns h fun _ => rfl
  · rfl
  · rfl

end Host

namespace Bench

variable {b : Bench}

/-! ## Steps of a user -/

/-- A device is created under a handle, after the one that was held under it is dropped. -/
theorem steps_newDevice (b : Bench) {handle : String} (path : String) (g : Generation) (t : Timeouts)
    (listed : scope.roster handle) : Changes law scope b (b.newDevice handle path g t) := by
  -- the new device and its receiver come first, and the one that had the handle goes last
  have created : Core.Changes law scope b.host.core ((b.host.create (.fresh path g t)).1.receive handle
      (b.host.create (.fresh path g t)).2).core := by
    refine .trans ?_ (Host.steps_receive _ _ listed)
    rw [Host.core_create]
    exact .single (.create path g t)
  apply created.trans
  change Core.Changes law scope _ ((b.host.handles.get? handle).elim _ (Host.destroy _)).core
  cases b.host.handles.get? handle with
  | none => exact .refl
  | some old => exact Host.steps_destroy _ old

/-- To drop the events of a device is to give up its receiver. -/
theorem steps_stop (b : Bench) (device : String) : Changes law scope b (b.stop device) :=
  Host.steps_endRuns List.filter_sublist

/-- A session operation changes the session of its device, at most. -/
theorem steps_operate (allowed : scope.sessions) (b : Bench) (id : DeviceId) (path : String)
    (operation : Operation) (name : String) (provision : Provision) (isLazy : Bool) (favors : Pending.Branch) :
    Changes law scope b (b.operate id path operation name provision isLazy favors).1 := by
  let p : Pending := { operation, device := id, favors }
  -- the script is set aside from the core, whichever it is
  have begun (c : Bench) (same : c.host.core = b.host.core) :
      Changes law scope b (if isLazy then ({ c with operations := c.operations.set name p }, .created)
        else progress (poll { c with operations := c.operations.set name p } name p)).1 := by
    split
    · exact .of_eq same
    · rw [fst_progress]
      exact (Core.Changes.of_eq same).trans
        (steps_poll allowed { c with operations := c.operations.set name p } name p)
  cases provision with
  | usual => exact begun (b.setScript path none) rfl
  | reply r => exact begun (b.setScript path (some r)) rfl
  | hold => exact begun (b.holdScript path name) rfl

/-- An operation is polled if it is still there. -/
theorem steps_pollIfThere (allowed : scope.sessions) (b : Bench) (name : String) :
    Changes law scope b (b.pollIfThere name).1 := by
  rw [pollIfThere]
  split
  · next p _ => exact steps_poll allowed b name p
  · exact .refl

/-- A reply to a session call goes to its operation. -/
theorem steps_reply (allowed : scope.sessions) (b : Bench) (name : String) (channel : ChannelId)
    (r : SessionReply) : Changes law scope b (b.reply name channel r).1 :=
  steps_pollIfThere allowed (b.give name channel r) name

/-- An endpoint reads properties. -/
theorem core_fetch (b : Bench) (p : Peer) (path : String) :
    (b.fetch p path).1.host.core = b.host.core := by
  rw [fetch]
  split <;> rfl

/-- An endpoint reads the power of an adapter. -/
theorem core_powered (b : Bench) (p : Peer) (name : String) (a : AdapterView) :
    (b.powered p name a).1.host.core = b.host.core := by
  rw [powered]
  split <;> rfl

/-- An endpoint is bound to a name. -/
theorem core_bind (b : Bench) (name path : String) (endpoint : Endpoint) :
    (b.bind name path endpoint).1.host.core = b.host.core := by
  rw [Bench.bind]
  split
  · rfl
  · rfl
  · split <;> rfl

theorem core_receiveSignal (b : Bench) (s : Signal) :
    (b.receiveSignal s).host.core = b.host.core := by
  rw [receiveSignal]
  split
  · rfl
  · exact Host.core_receiveSignal b.host s

/-- The result of the monitor is handed out. -/
theorem core_monitorResult (b : Bench) (m : Monitor) :
    (b.monitorResult m).1.host.core = b.host.core := by
  rw [monitorResult]
  split <;> rfl

/-- What is refused changes nothing. -/
theorem steps_withSome {α : Type} {found : Option α} {f : α → Bench × Step.Result}
    (each : ∀ a, Changes law scope b (f a).1) : Changes law scope b (b.withSome found f).1 := by
  cases found with
  | none => exact .refl
  | some a => exact each a

/-- **What a user does is a number of steps**, if the request to the registry, should it be one,
obeys the law, and what is done keeps within the scope. -/
theorem steps_doStep {s : Step} (isOpen : b.host.core.isOpen)
    (lawful : ∀ q, s = .command (.request q) → law b.host.core q)
    (allowed : s.progresses → scope.sessions)
    (listed : ∀ name, s.receiver? = some name → scope.roster name) :
    Changes law scope b (b.doStep s).1 := by
  cases s with
  | command c =>
    refine Host.steps_obey c isOpen ?_ listed
    rintro q rfl
    exact lawful q rfl
  | newDevice handle path generation timeouts =>
    exact b.steps_newDevice path _ timeouts (listed handle rfl)
  | run device => exact steps_withSome fun id => b.host.steps_startRun id (some device)
  | stop device => exact steps_withSome fun _ => b.steps_stop device
  | listen device receiver =>
    exact steps_withSome fun id => b.host.steps_receive id (listed receiver rfl)
  | unlisten receiver => exact b.host.steps_unlisten (listed receiver rfl)
  | operate device operation name provision isLazy favors =>
    exact steps_withSome fun id => steps_withSome fun d =>
      steps_operate (allowed rfl) b id d.path operation name provision isLazy favors
  | poll name =>
    exact steps_withSome fun p => by
      rw [fst_progress]
      exact steps_poll (allowed rfl) b name p
  | reply name r =>
    exact steps_withSome fun channel => steps_reply (allowed rfl) b name channel r
  | expire name =>
    exact steps_withSome fun p => by
      rw [fst_progress]
      exact steps_expire (allowed rfl) b name p
  | cancel | unwatch => exact .refl
  | putObject path interfaces => exact steps_withSome fun _ => .refl
  | prepare member reply => exact steps_withSome fun _ => .refl
  | watch name => exact steps_withSome fun p => steps_withSome fun path => .refl
  | signal s => exact steps_withSome fun _ => .of_eq (b.core_receiveSignal s)
  | bindDevice name path => exact .of_eq (b.core_bind name path _)
  | bindAdapter name path => exact .of_eq (b.core_bind name path _)
  | fetch name =>
    exact steps_withSome fun p => steps_withSome fun path => by
      rw [fst_ofReading]
      exact .of_eq (b.core_fetch p path)
  | connect name role =>
    exact steps_withSome fun p => steps_withSome fun path => by
      rw [fst_ofReading]
      exact .of_eq (core_sparedByCalls.callEndpoint b p path _)
  | disconnect name role interface =>
    exact steps_withSome fun p => steps_withSome fun path => by
      rw [fst_ofReading]
      exact .of_eq (core_sparedByCalls.callEndpoint b p path _)
  | powered name =>
    exact steps_withSome fun p => steps_withSome fun a => by
      rw [fst_ofReading]
      exact .of_eq (b.core_powered p name a)
  | monitor => exact steps_withSome fun p => steps_withSome fun _ => b.host.steps_startMonitor p
  | monitorStop => exact steps_withSome fun _ => .refl
  | monitorResult => exact steps_withSome fun m => .of_eq (b.core_monitorResult m)
  | closeBus => exact steps_withSome fun _ => .of_eq (Host.core_loseBus b.host)

end Bench

/-! ## The order of duties -/

namespace Core

variable {c c' : Core} {s : Option (DeviceId × Profile)} {ws ds : List Duty}

/-- A duty that is no pursuit can be put in front of the others. -/
theorem pairwise_cons {duty : Duty} (front : duty.isPursuit = false)
    (last : ds.Pairwise fun a b => a.isPursuit → b.isPursuit) :
    (duty :: ds).Pairwise fun a b => a.isPursuit → b.isPursuit := by
  refine List.pairwise_cons.2 ⟨?_, last⟩
  intro d _ pursuit
  rw [front] at pursuit
  exact absurd pursuit (by simp)

/-- What is not discovery may be put in front of an agenda where discovery comes last. -/
theorem pairwise_append (front : ∀ w ∈ ws, w.isPursuit = false)
    (last : ds.Pairwise fun a b => a.isPursuit → b.isPursuit) :
    (ws ++ ds).Pairwise fun a b => a.isPursuit → b.isPursuit := by
  induction ws with
  | nil => exact last
  | cons w ws ih =>
    obtain ⟨head, rest⟩ := List.forall_mem_cons.1 front
    exact pairwise_cons head (ih rest)

/-- An agenda of discovery only is in that order. -/
theorem pairwise_of_all (quiet : ds.all Duty.isPursuit) :
    ds.Pairwise fun a b => a.isPursuit → b.isPursuit :=
  List.pairwise_of_forall_mem_list fun _ _ d hd _ => List.all_eq_true.1 quiet d hd

theorem isPursuit_of_isWatch (watch : ws.all Duty.isWatch) : ∀ w ∈ ws, w.isPursuit = false := by
  intro w mem
  obtain ⟨_, _, _, rfl⟩ | ⟨_, _, rfl⟩ | ⟨_, _, rfl⟩ := Duty.eq_of_isWatch (List.all_eq_true.1 watch w mem) <;> rfl

/-- No step gets a pursuit in front of another duty. -/
theorem Step.pursuitsLast (step : Step law c s c') (last : c.PursuitsLast) : c'.PursuitsLast := by
  have rest {duty : Duty} {ds : List Duty} (next : c.agenda = duty :: ds) :
      ds.Pairwise fun a b => a.isPursuit → b.isPursuit := by
    rw [PursuitsLast, next] at last
    exact last.of_cons
  cases step with
  | create | destroy | enlist | cancel | receivers | reported | startRun | endRuns | comeUp | session
  | edit | findPower | requestUnheard => exact last
  | defer ds quiet pursuits => exact pairwise_of_all pursuits
  | summon id => exact pairwise_cons rfl last
  | request q r n lives =>
    exact pairwise_cons rfl last
  | heardByAll n ds next => exact rest next
  | watched n w ls ds ws next watch =>
    apply pairwise_append (isPursuit_of_isWatch watch)
    exact pairwise_cons rfl (rest next)
  | turn duty ds ws next _ watch => exact pairwise_append (isPursuit_of_isWatch watch) (rest next)
  | unmoved n id ls ds next =>
    exact pairwise_cons rfl (rest next)
  | moved n id ls ds d e next =>
    exact pairwise_cons rfl (pairwise_cons rfl (rest next))
  | late duty id ds next => exact rest next
  | decide id d ds usable next => exact rest next
  | concede id d ds next =>
    exact pairwise_cons rfl (rest next)
  | turnedDown id d ds name why next =>
    exact pairwise_cons rfl (rest next)
  | handedIn id d ds name lives next =>
    exact pairwise_cons rfl (pairwise_cons rfl (pairwise_cons rfl (rest next)))
  | adopt id d uuid ds next => exact rest next
  | conclude id d ds next => exact rest next

/-- Steps in a row are a run of the core. -/
theorem Steps.runs (steps : Steps law c c') : Runs law c c' := by
  induction steps with
  | refl => exact .refl
  | tail _ step ih => exact ih.tail ⟨none, step⟩

/-- What every step keeps is kept by any number of steps. -/
theorem Runs.preserves {P : Core → Prop} (step : ∀ c s c', P c → Step law c s c' → P c')
    (runs : Runs law c c') (holds : P c) : P c' := by
  induction runs with
  | refl => exact holds
  | tail _ hs ih =>
    obtain ⟨s, hs⟩ := hs
    exact step _ s _ ih hs

end Core

/-! ## Moves -/

namespace Bench

variable {b b' : Bench}

/-- The name under which a move sets a receiver up, or gives one up. -/
def receiver? (b : Bench) : Move → Option String
  | .act =>
    match b.host.agenda with
    | .perform _ (c :: _) :: _ => c.receiver?
    | _ => none
  | .step s => s.receiver?
  | .poll _ | .follow _ | .report => none

/-- The announcement that a move goes on with: the change, and who is still to hear of it. -/
def announcing? (b : Bench) : Move → Option (Registry.Notice × List Listener)
  | .act =>
    match b.host.agenda with
    | .announce n ls :: _ => some (n, ls)
    | _ => none
  | .step _ | .poll _ | .follow _ | .report => none

/-- The run of discovery that a move goes on with. -/
def pursued? (b : Bench) : Move → Option RunId
  | .act =>
    match b.host.agenda with
    | .pursue run :: _ => some run
    | _ => none
  | .poll run => some run
  | .step _ | .follow _ | .report => none

/-- What a move may do that not all moves do. -/
def scopeOf (b : Bench) (m : Move) : Core.Scope where
  sessions := ∃ s, m = .step s ∧ s.progresses
  roster name := m = .report ∨ b.receiver? m = some name
  discovery id := ∃ run r, b.pursued? m = some run ∧ b.host.run? run = some r ∧ r.device = id
  hearing := (b.announcing? m).isSome

/-- **A move is a number of changes of the core** within its scope, when it can be made and its
request, should it have one, obeys the law. When a device is assessed it is a single one, in which
the device may submit a profile; no other move has it submit one. -/
theorem changes_make {m : Move} (last : b.host.core.PursuitsLast)
    (lawful : ∀ h q, b.request? m = some (h, q) → law h.core q) (made : b.make m = some b') :
    Changes law (b.scopeOf m) b b' ∨
      m = .act ∧ ∃ s, Core.Change law (b.scopeOf m) b.host.core s b'.host.core := by
  cases m with
  | act =>
    rw [make] at made
    split at made
    · next duty ds next =>
      obtain rfl := Option.some.inj made
      cases duty with
      | announce n listeners =>
        have hearing : (b.scopeOf .act).hearing := by rw [scopeOf, announcing?, next]; rfl
        cases listeners with
        | nil => exact .inl (.single (.heardByAll n ds next hearing))
        | cons l ls => exact .inl (.single (Host.change_hear next hearing))
      | react w n rule => exact .inl (.single (Host.change_react next))
      | perform w cs =>
        refine .inl (Host.steps_perform next ?_ ?_)
        · rintro q cs' rfl
          exact lawful _ q (by rw [request?, next])
        · rintro c cs' name rfl listed
          exact .inr (by rw [receiver?, next]; exact listed)
      | record w a => exact .inl (.single (Host.change_record next))
      | reassess id => exact .inr ⟨rfl, Host.step_reassess next⟩
      | adopt id uuid => exact .inl (.single (Host.change_adopt next))
      | conclude id => exact .inl (.single (Host.change_conclude next))
      | pursue run =>
        -- what comes after a pursuit are pursuits, so the run can be taken up
        have pursuits : ds.all Duty.isPursuit := by
          rw [Core.PursuitsLast, show b.host.core.agenda = _ from next, List.pairwise_cons] at last
          exact List.all_eq_true.2 fun d hd => last.1 d hd rfl
        have quiet : b.host.core.isQuiet := by
          rw [Core.isQuiet, show b.host.core.agenda = _ from next, List.all_cons, pursuits]
          rfl
        have taken : Core.Changes law (b.scopeOf .act) b.host.core (b.host.withAgenda ds).core :=
          .single (.defer ds quiet pursuits)
        refine .inl (taken.trans (Host.steps_pursue (h := b.host.withAgenda ds) pursuits run ?_))
        exact fun r running => ⟨run, r, by rw [pursued?, next], running, rfl⟩
    · exact absurd made (by simp)
  | step s =>
    obtain ⟨isOpen, made⟩ := Option.ite_none_right_eq_some.1 made
    obtain rfl := Option.some.inj made
    -- only a command can put a request to the registry
    refine .inl (steps_doStep isOpen ?_ (fun goesOn => ⟨s, rfl, goesOn⟩) fun _ listed => .inr listed)
    rintro q rfl
    exact lawful b.host q rfl
  | poll run =>
    obtain ⟨quiet, made⟩ := Option.ite_none_right_eq_some.1 made
    obtain rfl := Option.some.inj made
    exact .inl (Host.steps_pursue quiet run fun r running => ⟨run, r, rfl, running, rfl⟩)
  | follow branch =>
    obtain ⟨-, made⟩ := Option.ite_none_right_eq_some.1 made
    obtain ⟨m, -, rfl⟩ := Option.map_eq_some_iff.1 made
    exact .inl (b.host.steps_follow m branch)
  | report =>
    obtain ⟨-, made⟩ := Option.ite_none_right_eq_some.1 made
    obtain rfl := Option.some.inj made
    have reported : Core.Changes law (b.scopeOf .report) b.host.core
        { b.host.core with submissions := [] } := .single .reported
    refine .inl (reported.tail (.receivers _ (fun _ => .inl (.inl rfl)) fun r mem => ?_))
    obtain ⟨r', -, rfl⟩ := List.mem_map.1 mem
    exact .inr rfl

/-- A move is a number of steps of the core. -/
theorem steps_make {m : Move} (last : b.host.core.PursuitsLast)
    (lawful : ∀ h q, b.request? m = some (h, q) → law h.core q) (made : b.make m = some b') :
    Steps law b b' ∨ m = .act ∧ ∃ s, Core.Step law b.host.core s b'.host.core := by
  rcases changes_make last lawful made with changes | ⟨act, s, change⟩
  · exact .inl changes.steps
  · exact .inr ⟨act, s, change.step⟩

/-- **A move is a run of the core**, under the law that its requests obey. -/
theorem runs_make {m : Move} (last : b.host.core.PursuitsLast)
    (lawful : ∀ h q, b.request? m = some (h, q) → law h.core q) (made : b.make m = some b') :
    Core.Runs law b.host.core b'.host.core := by
  rcases steps_make last lawful made with steps | ⟨-, step⟩
  · exact steps.runs
  · exact .single step

/-- A run of a bench is a run of its core. -/
theorem Reaches.runs (last : b.host.core.PursuitsLast) (run : Reaches law b b') :
    Core.Runs law b.host.core b'.host.core := by
  induction run with
  | refl => exact .refl
  | move m _ lawful made ih =>
    have kept := Core.Runs.preserves (fun _ _ _ last step => step.pursuitsLast last) ih last
    exact ih.trans (runs_make kept lawful made)

end Bench

/-- A bench opens with the core at its start. -/
theorem Bench.core_opening (g : Generation) (t : Transport) (isLoaded : Bool)
    (manager : Option Timeouts) (naming : Naming) :
    (Bench.opening g t isLoaded manager naming).host.core = .opening isLoaded naming := rfl

/-- **Invariants of the core**: what holds at first and is kept by every step holds in everything
that can become of a bench. -/
theorem Bench.Reachable.core_induction {P : Core → Prop} (start : ∀ isLoaded naming, P (.opening isLoaded naming))
    (step : ∀ c s c', P c → Core.Step law c s c' → P c') {b : Bench} (reached : Reachable law b) :
    P b.host.core := by
  obtain ⟨g, t, isLoaded, manager, naming, run⟩ := reached
  have last : (opening g t isLoaded manager naming).host.core.PursuitsLast := List.Pairwise.nil
  exact Core.Runs.preserves step (run.runs last) (start isLoaded naming)

/-- Discovery has its turns when nobody is being notified any more. -/
theorem Bench.Reachable.pursuitsLast {b : Bench} (reached : Reachable law b) :
    b.host.core.PursuitsLast :=
  reached.core_induction (fun _ _ => List.Pairwise.nil) fun _ _ _ last step => step.pursuitsLast last

/-- A move in a run, whatever it asks of the registry, is a number of changes within its scope. -/
theorem Bench.Reachable.changes_make {b b' : Bench} {m : Move} (reached : Reachable law b)
    (made : b.make m = some b') :
    Changes free (b.scopeOf m) b b' ∨
      m = .act ∧ ∃ s, Core.Change free (b.scopeOf m) b.host.core s b'.host.core :=
  Bench.changes_make reached.pursuitsLast (fun _ _ _ => trivial) made

/-- A move with which nobody asks the registry for anything is a number of changes in which nobody
does. -/
theorem Bench.Reachable.changes_unasked {b b' : Bench} {m : Move} (reached : Reachable law b)
    (unasked : b.request? m = none) (made : b.make m = some b') :
    Changes shut (b.scopeOf m) b b' ∨
      m = .act ∧ ∃ s, Core.Change shut (b.scopeOf m) b.host.core s b'.host.core := by
  refine Bench.changes_make reached.pursuitsLast (fun h q asked => ?_) made
  exact absurd (unasked.symm.trans asked) (by simp)

/-- **A move of a reachable bench** is a number of changes of the core or one step of its agenda. -/
theorem Bench.Reachable.steps_make {b b' : Bench} {m : Move} (reached : Reachable law b)
    (made : b.make m = some b') :
    Steps free b b' ∨ m = .act ∧ ∃ s, Core.Step free b.host.core s b'.host.core :=
  Bench.steps_make reached.pursuitsLast (fun _ _ _ => trivial) made

end Piconet
