import Piconet.Proofs.AddressLocality

/-!
# The deeds of a move

That a run in which nobody calls back is told by some deeds is shown without saying which
(`Bench.unfolds_make`). Here they are read off: `Host.deedsOfPursuit` says which deeds a run of discovery
does when it is taken one step further, `Bench.deeds?` which ones a move does, and `Bench.tell?` goes
through a list of moves (`Bench.unfolds_tell?`). Moves in which a session operation goes on or a watcher
gives a command, and those of the manager, are left out.
-/

namespace Piconet

open Bench (shut)

variable {roster : String → Prop} {c c' c'' : Core} {s : Option (DeviceId × Profile)} {id j : DeviceId}
  {deed : Deed} {ds ds' : List Deed}

/-! ## What deeds amount to -/

namespace Core

/-- A core becomes another one through some deeds, whatever a device says of itself meanwhile. -/
def AmountsTo (roster : String → Prop) (id : DeviceId) (c : Core) (ds : List Deed) (c' : Core) : Prop :=
  ∃ es, Unfolds roster id c ds es c'

namespace AmountsTo

theorem refl : AmountsTo roster id c [] c := ⟨[], .refl⟩

/-- A core that stays as it is has no deed to account for. -/
theorem of_eq (same : c' = c) : AmountsTo roster id c [] c' := by
  subst same
  exact refl

theorem trans (first : AmountsTo roster id c ds c') (second : AmountsTo roster id c' ds' c'') :
    AmountsTo roster id c (ds ++ ds') c'' := by
  obtain ⟨es, first⟩ := first
  obtain ⟨es', second⟩ := second
  exact ⟨es ++ es', first.trans second⟩

/-- What the core does in one step is one deed. -/
theorem of_does (does : c.Does deed c') : AmountsTo roster id c [deed] c' := ⟨_, .of_does does⟩

/-- What follows while no device waits to be assessed is no deed. -/
theorem of_change (change : Change shut (.inward roster) c s c') (known : c'.nextId = c.nextId)
    (there : ∀ j, (c'.devices j).isSome = (c.devices j).isSome) (unsummoned : ∀ j, ¬ c.Summoned j) :
    AmountsTo roster id c [] c' :=
  ⟨_, Unfolds.refl.proceed ⟨change, there, .inl known⟩ fun j summoned => absurd summoned (unsummoned j)⟩

/-- So is what follows while nobody is being notified. -/
theorem of_quiet (quiet : c.isQuiet) (change : Change shut (.inward roster) c s c')
    (known : c'.nextId = c.nextId) (same : c'.devices = c.devices) : AmountsTo roster id c [] c' :=
  of_change change known (fun j => by rw [same]) fun _ => not_summoned_of_quiet quiet

end AmountsTo

end Core

/-! ## The deeds of discovery -/

/-- What an update tells the device that is followed. -/
def Update.tiding : Update → Tiding
  | .properties batch => .batch batch
  | .power on => .power on

/-- To report the end of discovery is a deed the first time only. -/
def Device.deedsOfReport (d : Device) (j : DeviceId) (success : Bool) : List Deed :=
  if d.reported then [] else [.tell j (.report success)]

namespace Run

/-- The deeds of a run that is given up. -/
def deedsOfAbandoning (r : Run) (d : Device) : List Deed := .summon r.device :: d.deedsOfReport r.device false

/-- The deeds of a run whose stage has brought what it was to bring. -/
def deedsOfYield (r : Run) (d : Device) : (stage : Stage) → stage.Yield → List Deed
  | .acquire, () => [.summon r.device, .tell r.device .bus]
  | .fetch, batch =>
    [.summon r.device, .tell r.device (.fetch batch)] ++
      if d.generation.requiresAdapter && batch.adapter.isNone then d.deedsOfReport r.device false else []
  | .readPower _, reading => [.power r.device reading.on]
  | .announce, () => .summon r.device :: d.deedsOfReport r.device true
  | .bind, () | .subscribe, _ | .bindAdapter _, () | .subscribePower _, () => []

/-- The deeds of a run whose stage has come to something. -/
def deedsOfFinding (r : Run) (d : Device) (stage : Stage) : Finding stage.Yield → List Deed
  | .waits _ => []
  | .failed => r.deedsOfAbandoning d
  | .yields a => r.deedsOfYield d stage a

/-- The deeds of a run that takes the next update of its device. -/
def deedsOfUpdate (r : Run) : List Deed :=
  match r.next? with
  | some (u, _) => [.summon r.device, .tell r.device u.tiding]
  | none => []

end Run

namespace Host

/-- The deeds of a run that makes the call of its stage, or sees how far it has come. -/
def deedsOfAttempt (h : Host) (r : Run) (d : Device) (stage : Stage) (progress : Progress) : List Deed :=
  match h.transport with
  | .stub s => r.deedsOfFinding d stage (s.attempt d.path stage progress)
  | .peer p => r.deedsOfFinding d stage (p.attempt h.generation d.path stage).2
  | .unreachable => r.deedsOfAbandoning d

/-- The deeds of a run of discovery that is taken one step further. -/
def deedsOfPursuit (h : Host) (run : RunId) : List Deed :=
  match h.run? run with
  | none => []
  | some r =>
    match h.device? r.device, r.phase with
    | none, _ | some _, .bringUp _ .stuck => []
    | some _, .follow => r.deedsOfUpdate
    | some d, .bringUp stage progress => h.deedsOfAttempt r d stage progress

/-- To start discovery of a device is a deed the first time only. -/
def deedsOfStart (h : Host) (j : DeviceId) : List Deed :=
  match h.device? j with
  | some d => if d.started then [] else [.start j]
  | none => []

variable {h : Host} {run : RunId} {r : Run} {d e : Device} {es : List Event} {t : Tiding}

/-! ### What does no deed -/

/-- A run that ends is only the bookkeeping of discovery. -/
theorem amounts_endRun (quiet : h.core.isQuiet) (run : RunId) :
    h.core.AmountsTo roster id [] (h.endRun run).core :=
  .of_quiet quiet (.endRuns _ (List.filter_sublist.map _)) rfl rfl

/-- To give a run another turn is only the bookkeeping of discovery. -/
theorem amounts_urge (quiet : h.core.isQuiet) (run : RunId) :
    h.core.AmountsTo roster id [] (h.urge [.pursue run]).core :=
  .of_quiet quiet (.defer _ quiet (isQuiet_urge quiet run)) rfl rfl

/-- A run that enters its next stage has found out nothing for its device. -/
theorem amounts_enter (quiet : h.core.isQuiet) (running : h.run? run = some r) (rising : r.phase ≠ .follow)
    (r' : Run) (same : r'.device = r.device) (stage : Stage) :
    h.core.AmountsTo roster id [] (h.enter run r' stage).core := by
  rw [core_enter running rising same]
  exact .of_quiet quiet (.defer _ quiet quiet) rfl rfl

/-! ### What tells a device something -/

/-- A device is to be assessed, which is a deed of its own. -/
theorem amounts_summon (quiet : h.core.isQuiet) (found : h.device? j = some d) :
    h.core.AmountsTo roster id [.summon j] (h.urge [.reassess j]).core :=
  .of_does (.summon j d quiet found)

/-- **What discovery finds out is told to the device**: the record is changed and the events are published,
while the device's assessment is next on the agenda. -/
theorem amounts_tell (next : h.summoned j) (found : h.device? j = some d)
    (edit : d.Edit h.registry.profiles e es) (learns : d.learn h.registry.profiles t = (e, es))
    (up : e.initialized = true → d.initialized = true ∨
      ∃ run, h.core.standing.get? run = some ⟨j, true⟩) :
    h.core.AmountsTo roster id [.tell j t] ((h.emitAll j es).setDevice j e).core := by
  obtain ⟨ds, next, quiet⟩ := next
  have told : (h.emitAll j es).device? j = some d := by
    rw [emitAll_eq]
    exact found
  rw [core_setDevice told, core_emitAll]
  exact .of_does (.tell j d e es ds t next quiet found edit learns up)

/-- The end of discovery is told to its device, and has it assessed. -/
theorem amounts_report (next : h.summoned j) (found : h.device? j = some d) (success : Bool)
    (up : success = true → ∃ run, h.core.standing.get? run = some ⟨j, true⟩) :
    h.core.AmountsTo roster id (d.deedsOfReport j success) (h.report j success).core := by
  rw [report, Device.deedsOfReport, found]
  simp only
  split
  · exact .refl
  · next first =>
    have edit : d.Edit h.registry.profiles _ [.initialized success] :=
      .report success (Bool.eq_false_iff.2 first)
    refine amounts_tell next found edit rfl fun initialized => ?_
    rcases Bool.or_eq_true_iff.1 initialized with was | succeeded
    · exact .inl was
    · exact .inr (up succeeded)

/-- A run that failed reports the failure, unless its device is initialized already. -/
theorem amounts_abandon (quiet : h.core.isQuiet) (found : h.device? r.device = some d) :
    h.core.AmountsTo roster id (r.deedsOfAbandoning d) (h.abandon run r).core := by
  rw [abandon, report_urge]
  have ended : (h.endRun run).core.isQuiet := quiet
  have looked : (h.endRun run).device? r.device = some d := found
  exact ((amounts_endRun quiet run).trans (amounts_summon ended looked)).trans
    (amounts_report (summoned_urge ended _) looked false fun h => absurd h (by simp))

/-- An update of the properties or of the adapter's power is told to the device. -/
theorem amounts_takeIn (quiet : h.core.isQuiet) (found : h.device? j = some d) (u : Update) :
    h.core.AmountsTo roster id [.summon j, .tell j u.tiding] (h.takeIn j d u).core := by
  cases u with
  | properties b =>
    rw [takeIn, applyBatch_eq]
    refine (amounts_summon quiet found).trans
      (amounts_tell (summoned_urge quiet j) found (.batch b) rfl fun initialized => .inl ?_)
    split at initialized
    · rwa [Device.survey_eq] at initialized
    · exact initialized
  | power on =>
    have edit : d.Edit h.registry.profiles _ [] := .power on
    exact (amounts_summon quiet found).trans (amounts_tell (summoned_urge quiet j) found edit rfl .inl)

/-! ### The stages -/

/-- The first batch of properties is told to the device. -/
theorem amounts_edited (quiet : h.core.isQuiet) (found : h.device? j = some d) (b : PropertyBatch) :
    h.core.AmountsTo roster id [.summon j, .tell j (.fetch b)] (h.edited j d b).core :=
  (amounts_summon quiet found).trans (amounts_tell (summoned_urge quiet j) found (.fetch b) rfl
    fun initialized => .inl (initialized_readIn h d b ▸ initialized))

/-- After the first batch the run goes on to the adapter, or is given up for lack of one. -/
theorem amounts_fetched (quiet : h.core.isQuiet) (running : h.run? run = some r) (rising : r.phase ≠ .follow)
    (found : h.device? r.device = some d) (b : PropertyBatch) :
    h.core.AmountsTo roster id (r.deedsOfYield d .fetch b) (h.fetched run r d b).core := by
  rcases h.fetched_eq run r d b with ⟨goesOn, stage, entered⟩ | ⟨lacks, abandoned⟩
  · simp only [entered, Run.deedsOfYield, goesOn]
    exact (amounts_enter quiet running rising r rfl stage).trans
      (amounts_edited (isQuiet_enter quiet r stage) found b)
  · have ended : (h.endRun run).core.isQuiet := quiet
    have looked := device?_edited (h := h.endRun run) found b
    have told : h.core.AmountsTo roster id [.summon r.device, .tell r.device (.fetch b)]
        ((h.endRun run).edited r.device d b).core :=
      (amounts_endRun quiet run).trans (amounts_edited ended found b)
    have given := told.trans
      (amounts_report (summoned_edited ended d b) looked false fun h => absurd h (by simp))
    rw [Device.deedsOfReport, reported_readIn] at given
    simp only [abandoned, Run.deedsOfYield, lacks]
    exact given

/-- The last stage reports the success of discovery, and the run follows its device from then on. -/
theorem amounts_announce (quiet : h.core.isQuiet) (running : h.run? run = some r) (rising : r.phase ≠ .follow)
    (found : h.device? r.device = some d) :
    h.core.AmountsTo roster id (r.deedsOfYield d .announce ())
      (((h.report r.device true).setRun run { r with phase := .follow }).urge
        [.reassess r.device, .pursue run]).core := by
  let g := h.setRun run { r with phase := .follow }
  have calm : g.core.isQuiet := quiet
  have up : h.core.AmountsTo roster id [] g.core := by
    rw [core_follow]
    exact .of_quiet quiet (.comeUp run r.device (standing_of_rising running rising)) rfl rfl
  have next : (g.urge [.pursue run]).core.isQuiet := isQuiet_urge calm run
  rw [announce_eq found]
  exact ((up.trans (amounts_urge calm run)).trans (amounts_summon next found)).trans
    (amounts_report (summoned_urge next _) found true fun _ => ⟨run, follows_of_rising running rising⟩)

/-- **What a stage has brought** is told to the device of the run, in the deeds `Run.deedsOfYield`. -/
theorem amounts_proceed (quiet : h.core.isQuiet) (running : h.run? run = some r) (rising : r.phase ≠ .follow)
    (found : h.device? r.device = some d) (stage : Stage) (a : stage.Yield) :
    h.core.AmountsTo roster id (r.deedsOfYield d stage a) (h.proceed run r d stage a).core := by
  cases stage with
  | acquire =>
    have calm : (h.enter run r .bind).core.isQuiet := isQuiet_enter quiet r .bind
    have edit : d.Edit h.registry.profiles _ [] := .bus
    exact ((amounts_enter quiet running rising r rfl .bind).trans (amounts_summon calm found)).trans
      (amounts_tell (summoned_urge calm _) found edit rfl .inl)
  | bind => exact amounts_enter quiet running rising r rfl .subscribe
  | subscribe =>
    exact amounts_enter quiet running rising { r with changes := some { source := d.path, link := a } } rfl .fetch
  | fetch => exact amounts_fetched quiet running rising found a
  | bindAdapter adapter => exact amounts_enter quiet running rising r rfl (.subscribePower adapter)
  | subscribePower adapter =>
    exact amounts_enter quiet running rising { r with power := some { source := adapter } } rfl
      (.readPower adapter)
  | readPower adapter =>
    have standing := standing_of_rising running rising
    have power : h.core.AmountsTo roster id [.power r.device a.on]
        (h.setDevice r.device { d with adapter := .resolved a.on }).core := by
      rw [core_setDevice found]
      exact .of_does (.power run r.device d a.on quiet found standing)
    exact power.trans (amounts_enter
      (h := h.setDevice r.device { d with adapter := .resolved a.on }) quiet running rising
      { r with power := if a.heard then r.power else r.power.map (·.silence) } rfl .announce)
  | announce => exact amounts_announce quiet running rising found

/-- A stage that waits tells nothing, one that failed ends the run, and any other brings something. -/
theorem amounts_settleStage (quiet : h.core.isQuiet) (running : h.run? run = some r)
    (rising : r.phase ≠ .follow) (found : h.device? r.device = some d) (stage : Stage)
    (finding : Finding stage.Yield) :
    h.core.AmountsTo roster id (r.deedsOfFinding d stage finding) (h.settleStage run r d stage finding).core := by
  cases finding with
  | waits progress =>
    refine .of_eq (core_setRun running ?_)
    simp [Run.standing, rising]
  | failed => exact amounts_abandon quiet found
  | yields a => exact amounts_proceed quiet running rising found stage a

/-- A run makes the call of its stage and settles it by the reply. -/
theorem amounts_attempt (quiet : h.core.isQuiet) (running : h.run? run = some r)
    (rising : r.phase ≠ .follow) (found : h.device? r.device = some d) (stage : Stage) (progress : Progress) :
    h.core.AmountsTo roster id (h.deedsOfAttempt r d stage progress) (h.attempt run r d stage progress).core := by
  rw [attempt, deedsOfAttempt]
  cases transport : h.transport with
  | stub s =>
    let g := h.noteCall d.path stage progress
    have core : g.core = h.core := core_noteCall h d.path stage progress
    have device : g.device? r.device = some d := (congrFun (congrArg Core.devices core) _).trans found
    have runs : g.run? run = some r := by
      simp only [g, noteCall]
      split <;> exact running
    rw [← core]
    exact amounts_settleStage (core ▸ quiet) runs rising device stage _
  | peer p =>
    exact amounts_settleStage (h := { h with transport := .peer (p.attempt h.generation d.path stage).1 })
      quiet running rising found stage _
  | unreachable => exact amounts_abandon quiet found

/-- A run that follows its device takes the next update, and ends when both of its feeds have ended. -/
theorem amounts_followOn (quiet : h.core.isQuiet) (running : h.run? run = some r)
    (found : h.device? r.device = some d) :
    h.core.AmountsTo roster id r.deedsOfUpdate (h.followOn run r d).core := by
  rw [followOn, Run.deedsOfUpdate]
  cases next : r.next? with
  | some x =>
    obtain ⟨u, r'⟩ := x
    have takes := Run.takes_of_next? next
    have core : (h.setRun run r').core = h.core := core_setRun running takes.standing
    have device : r'.device = r.device := congrArg Standing.device takes.standing
    have calm : (h.setRun run r').core.isQuiet := quiet
    have off : h.core.AmountsTo roster id [] ((h.setRun run r').urge [.pursue run]).core := by
      rw [← core]
      exact amounts_urge calm run
    simp only
    rw [device]
    exact off.trans (amounts_takeIn (isQuiet_urge calm run) found u)
  | none =>
    simp only
    split
    · exact amounts_endRun quiet run
    · exact .of_eq (core_setRun running rfl)

/-- **The deeds of discovery**: a run that is taken one step further does those that are read off. -/
theorem amounts_pursue (quiet : h.core.isQuiet) (run : RunId) :
    h.core.AmountsTo roster id (h.deedsOfPursuit run) (h.pursue run).core := by
  rw [pursue, deedsOfPursuit]
  cases running : h.run? run with
  | none => exact .refl
  | some r =>
    simp only
    cases found : h.device? r.device with
    | none =>
      simp only
      exact amounts_endRun quiet run
    | some d =>
      cases phase : r.phase with
      | follow => exact amounts_followOn quiet running found
      | bringUp stage progress =>
        have rising : r.phase ≠ .follow := by simp [phase]
        cases progress with
        | stuck => exact .refl
        | fresh => exact amounts_attempt quiet running rising found stage .fresh
        | waits atPath => exact amounts_attempt quiet running rising found stage (.waits atPath)

/-! ## The deeds of a user -/

/-- Discovery is started at most once for a device. -/
theorem amounts_startRun (quiet : h.core.isQuiet) (j : DeviceId) (label : Option String) :
    h.core.AmountsTo roster id (h.deedsOfStart j) (h.startRun j label).core := by
  rw [deedsOfStart]
  cases found : h.device? j with
  | none => exact .of_eq (by rw [startRun, found])
  | some d =>
    cases first : d.started with
    | true =>
      rw [show h.startRun j label = h by simp [startRun, found, first]]
      simp only [first]
      exact .refl
    | false =>
      rw [core_startRun found first]
      simp only [first]
      exact .of_does (.start j d quiet found first)

/-- A request of a caller is a deed, whatever the registry makes of it. -/
theorem amounts_request (quiet : h.core.isQuiet) (q : Registry.Request) :
    h.core.AmountsTo roster id [.request q] (h.request q).core := by
  rw [request]
  rcases handled : h.registry.handle q with ⟨r, n⟩
  cases n with
  | none => exact .of_does (.requestUnheard q r quiet handled)
  | some n =>
    exact .of_does (.request q r n ({ h with registry := r } : Host).listenerLives quiet handled fun _ => rfl)

/-! ## The other duties -/

/-- What follows a duty while no device waits to be assessed is no deed. -/
theorem amounts_act {duty : Duty} {duties : List Duty} (noRun : duty.isPursuit = false)
    (noCommand : ∀ w c cs, duty ≠ .perform w (c :: cs)) (unsummoned : ∀ j, ¬ h.core.Summoned j)
    (change : Core.Change shut (.inward roster) h.core s ((h.withAgenda duties).act duty).core) :
    h.core.AmountsTo roster id [] ((h.withAgenda duties).act duty).core :=
  .of_change change ((h.withAgenda duties).nextId_act noRun noCommand)
    (isSome_of_scene ((h.withAgenda duties).scene_act noRun noCommand)) unsummoned

/-- When all listeners of a change have been notified, the change is off the agenda. -/
theorem amounts_announce_act {n : Registry.Notice} {ls : List Listener} {duties : List Duty}
    (next : h.agenda = .announce n ls :: duties) :
    h.core.AmountsTo roster id [] ((h.withAgenda duties).act (.announce n ls)).core := by
  have change : Core.Change shut (.inward roster) h.core none ((h.withAgenda duties).act (.announce n ls)).core := by
    cases ls with
    | nil => exact .heardByAll n duties next trivial
    | cons l ls => exact change_hear next trivial
  exact amounts_act rfl (by simp) (Core.unsummoned next (by simp)) change

/-- A device that is assessed waits for it no longer. -/
theorem turn_reassess {duties : List Duty} (next : h.agenda = .reassess j :: duties) :
    ((h.withAgenda duties).reassess j).core.agenda ≠ h.core.agenda := by
  rw [show h.core.agenda = _ from next]
  have done : duties ≠ .reassess j :: duties := (List.cons_ne_self _ _).symm
  have other {duty : Duty} {ds : List Duty} (different : duty ≠ .reassess j) :
      duty :: ds ≠ .reassess j :: duties := fun same => different (List.cons.inj same).1
  rw [reassess]
  split
  · next d found =>
    split
    · rw [core_setUsable found]
      exact done
    · split
      · next name due =>
        cases accepted : (h.withAgenda duties).registry.rejection with
        | some why =>
          rw [core_provision_turnedDown found name accepted]
          exact other (by simp)
        | none =>
          obtain ⟨lives, -, same⟩ := core_provision_handedIn found name accepted
          rw [same]
          exact other (by simp)
      · exact other (by simp)
  · exact done

/-- To assess a device is a deed when it was told something, and otherwise follows. -/
theorem amounts_reassess {duties : List Duty} (next : h.agenda = .reassess j :: duties) :
    h.core.AmountsTo roster id (if duties.all Duty.isPursuit then [.assess j] else [])
      ((h.withAgenda duties).reassess j).core := by
  obtain ⟨s, change⟩ : ∃ s, Core.Change shut (.inward roster) h.core s
      ((h.withAgenda duties).act (.reassess j)).core := step_reassess next
  have noRun : (Duty.reassess j).isPursuit = false := rfl
  have noCommand (w : WatcherId) (c : Command) (cs : List Command) : Duty.reassess j ≠ .perform w (c :: cs) := by
    simp
  split
  · next quiet =>
    have there := isSome_of_scene ((h.withAgenda duties).scene_act noRun noCommand)
    have known := (h.withAgenda duties).nextId_act noRun noCommand
    exact ⟨_, Core.Unfolds.refl.assess j ⟨duties, next, quiet⟩ ⟨change, there, .inl known⟩ (turn_reassess next)⟩
  · next busy =>
    refine amounts_act noRun noCommand ?_ change
    rintro i ⟨ds, next', quiet⟩
    exact busy ((List.cons.inj (next.symm.trans next')).2 ▸ quiet)

end Host

/-! ## The deeds of a bench -/

namespace Bench

/-- The deeds of a step, unless a session operation goes on with it or it is about the remote side. -/
def deedsOfStep? (b : Bench) : Step → Option (List Deed)
  | .command (.request q) => some [.request q]
  | .newDevice handle path g t =>
    some (.create b.host.nextId path (g.getD b.host.generation) t ::
      (b.host.handles.get? handle).elim [] fun old => [.destroy old])
  | .run device => some ((b.host.find? device).elim [] b.host.deedsOfStart)
  | _ => none

/-- The deeds of a move in which nobody calls back, where they can be read off. -/
def deeds? (b : Bench) : Move → Option (List Deed)
  | .act =>
    match b.host.agenda with
    | [] | .perform _ _ :: _ => none
    | .pursue run :: duties =>
      if duties.all Duty.isPursuit then some ((b.host.withAgenda duties).deedsOfPursuit run) else none
    | .reassess j :: duties => some (if duties.all Duty.isPursuit then [.assess j] else [])
    | .announce .. :: _ | .react .. :: _ | .record .. :: _ | .adopt .. :: _ | .conclude _ :: _ => some []
  | .step s => if b.host.core.isQuiet then b.deedsOfStep? s else none
  | .poll run => if b.host.core.isQuiet then some (b.host.deedsOfPursuit run) else none
  | .follow _ | .report => none

/-- Goes through moves as `Bench.makeAll` does, and gathers their deeds. -/
def tell? (b : Bench) : List Move → Option (List Deed)
  | [] => some []
  | m :: ms =>
    match b.deeds? m, b.make m with
    | some ds, some c => (c.tell? ms).map (ds ++ ·)
    | _, _ => none

variable {b b' : Bench} {m : Move} {ms : List Move}

/-- Deeds are told of a move on a quiet host only, or of one that goes on with discovery or the monitor. -/
theorem left_of_deeds? (told : b.deeds? m = some ds) :
    b.host.core.isQuiet ∨ m = .act ∧ b.command? m = none := by
  cases m with
  | act =>
    refine .inr ⟨rfl, ?_⟩
    rw [command?]
    split
    · next next => simp [deeds?, next] at told
    · rfl
  | step s => exact .inl (Option.ite_none_right_eq_some.1 told).1
  | poll run => exact .inl (Option.ite_none_right_eq_some.1 told).1
  | follow | report => exact absurd told (by simp [deeds?])

/-- A new device comes up under a handle, and the device that was held under it before is dropped. -/
theorem amounts_newDevice (quiet : b.host.core.isQuiet) (handle path : String) (g : Generation) (t : Timeouts)
    (listed : roster handle) :
    b.host.core.AmountsTo roster id (.create b.host.nextId path g t ::
      (b.host.handles.get? handle).elim [] fun old => [.destroy old])
      (b.newDevice handle path g t).host.core := by
  let h := (b.host.create (.fresh path g t)).1
  have created : b.host.core.AmountsTo roster id [.create b.host.nextId path g t] h.core := by
    rw [Host.core_create]
    exact .of_does (.create path g t quiet)
  have received : h.core.AmountsTo roster id [] (h.receive handle b.host.nextId).core :=
    .of_quiet quiet (h.change_receive b.host.nextId listed) rfl rfl
  change b.host.core.AmountsTo roster id _
    ((b.host.handles.get? handle).elim _ (Host.destroy _)).core
  cases b.host.handles.get? handle with
  | none => exact created.trans received
  | some old =>
    refine (created.trans received).trans ?_
    rw [Option.elim_some, Host.core_destroy]
    exact .of_does (.destroy old quiet)

/-- **A step of a user comes to the deeds that are told of it**, on a quiet host. -/
theorem amounts_step {st : Step} (quiet : b.host.core.isQuiet) (told : b.deedsOfStep? st = some ds)
    (listed : ∀ name, st.receiver? = some name → roster name) :
    b.host.core.AmountsTo roster id ds (b.doStep st).1.host.core := by
  cases st with
  | command x =>
    cases x with
    | request q =>
      obtain rfl := Option.some.inj told
      exact Host.amounts_request quiet q
    | _ => exact absurd told (by simp [deedsOfStep?])
  | newDevice handle path g t =>
    obtain rfl := Option.some.inj told
    exact amounts_newDevice quiet handle path _ t (listed handle rfl)
  | run device =>
    obtain rfl := Option.some.inj told
    simp only [doStep, withSome]
    cases b.host.find? device with
    | none => exact .refl
    | some j => exact Host.amounts_startRun quiet j _
  | _ => exact absurd told (by simp [deedsOfStep?])

/-- **The deeds of a move** are those that are read off. -/
theorem amounts_make (told : b.deeds? m = some ds) (made : b.make m = some b') (id : DeviceId) :
    b.host.core.AmountsTo (b.scopeOf m).roster id ds b'.host.core := by
  cases m with
  | act =>
    rcases next : b.host.agenda with _ | ⟨duty, duties⟩
    · simp [deeds?, next] at told
    · simp only [make, next, Option.some.injEq] at made
      subst made
      rw [deeds?, next] at told
      cases duty with
      | pursue run =>
        obtain ⟨quiet, told⟩ := Option.ite_none_right_eq_some.1 told
        obtain rfl := Option.some.inj told
        have calm : b.host.core.isQuiet := by
          rw [Core.isQuiet, show b.host.core.agenda = _ from next, List.all_cons, quiet]
          rfl
        have taken : b.host.core.AmountsTo (b.scopeOf .act).roster id [] (b.host.withAgenda duties).core :=
          .of_quiet calm (.defer duties calm quiet) rfl rfl
        exact taken.trans (Host.amounts_pursue (h := b.host.withAgenda duties) quiet run)
      | reassess j =>
        obtain rfl := Option.some.inj told
        exact Host.amounts_reassess next
      | perform w cs => exact absurd told (by simp)
      | announce n ls =>
        obtain rfl := Option.some.inj told
        exact Host.amounts_announce_act next
      | react w n rule =>
        obtain rfl := Option.some.inj told
        exact Host.amounts_act rfl (by simp) (Core.unsummoned next (by simp)) (Host.change_react next)
      | record w a =>
        obtain rfl := Option.some.inj told
        exact Host.amounts_act rfl (by simp) (Core.unsummoned next (by simp)) (Host.change_record next)
      | adopt j uuid =>
        obtain rfl := Option.some.inj told
        exact Host.amounts_act rfl (by simp) (Core.unsummoned next (by simp)) (Host.change_adopt next)
      | conclude j =>
        obtain rfl := Option.some.inj told
        exact Host.amounts_act rfl (by simp) (Core.unsummoned next (by simp)) (Host.change_conclude next)
  | step s =>
    obtain ⟨quiet, told⟩ := Option.ite_none_right_eq_some.1 told
    obtain ⟨-, made⟩ := Option.ite_none_right_eq_some.1 made
    obtain rfl := Option.some.inj made
    exact amounts_step quiet told fun _ listed => .inr listed
  | poll run =>
    obtain ⟨quiet, told⟩ := Option.ite_none_right_eq_some.1 told
    obtain ⟨-, made⟩ := Option.ite_none_right_eq_some.1 made
    obtain rfl := Option.some.inj told
    obtain rfl := Option.some.inj made
    exact Host.amounts_pursue quiet run
  | follow | report => exact absurd told (by simp [deeds?])

/-- **The deeds of a run may be read off its moves**, one after the other. -/
theorem Unfolds.tell {es : List Event} {b₁ : Bench} (run : b₁.Aloof (fun _ => True) b)
    (unfolds : b₁.Unfolds (fun _ => True) id ds es b) (told : b.tell? ms = some ds') :
    b₁.Aloof (fun _ => True) (b.makeAll ms) ∧
      ∃ es', b₁.Unfolds (fun _ => True) id (ds ++ ds') es' (b.makeAll ms) := by
  induction ms generalizing b ds ds' es with
  | nil =>
    obtain rfl := Option.some.inj told
    rw [List.append_nil]
    exact ⟨run, es, unfolds⟩
  | cons m ms ih =>
    rw [tell?] at told
    split at told
    · next ds₁ c first made =>
      obtain ⟨ds₂, rest, rfl⟩ := Option.map_eq_some_iff.1 told
      obtain ⟨es', move⟩ := amounts_make first made id
      rw [makeAll, made, ← List.append_assoc]
      exact ih (run.move m (left_of_deeds? first) made fun _ _ => trivial)
        (unfolds.move m made (fun _ _ => trivial) move) rest
    · exact absurd told (by simp)

/-- **The deeds of a run** that is given move by move are those that are read off. -/
theorem unfolds_tell? (told : b.tell? ms = some ds) (id : DeviceId) :
    b.Aloof (fun _ => True) (b.makeAll ms) ∧ ∃ es, b.Unfolds (fun _ => True) id ds es (b.makeAll ms) :=
  Unfolds.refl.tell .refl told

end Bench

end Piconet
