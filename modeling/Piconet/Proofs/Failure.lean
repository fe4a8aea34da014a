import Piconet.Proofs.OperationSteps
import Piconet.Proofs.Provisioning

/-!
# Devices that are not initialized

Until discovery succeeds a device is not usable, has no profile of its own and no session, whatever
the registry announces and whoever tries to open one (`Core.Upright`, `Bench.Unopened`). When discovery
failed that is for good (`Core.Failed`).
-/

namespace Piconet

open Function (update)
open Bench (free)

variable {law : Core → Registry.Request → Prop} {c c' : Core} {s : Option (DeviceId × Profile)}
  {id : DeviceId} {d e : Device}

namespace Core

/-! ## Success and failure are for good -/

/-- An initialized device stays so. -/
theorem Revises.initialized_of_initialized (revises : c.Revises c' id d e) (lit : d.initialized = true) :
    e.initialized = true := by
  cases revises with
  | same | start | session | power | decide | turnedDown | handedIn | conclude => exact lit
  | edit _ _ edit _ _ =>
    cases edit with
    | bus | power => exact lit
    | report => simp [lit]
    | batch b =>
      split
      · rw [Device.survey_eq]
        exact lit
      · exact lit
    | fetch b =>
      rw [Device.survey_eq]
      exact lit
  | hear _ hears _ =>
    rw [Device.hear_eq hears]
    exact lit
  | adopt =>
    rw [Device.track_eq]
    exact lit

/-- A device is initialized, if it is still there. -/
def Lit (id : DeviceId) (c : Core) : Prop :=
  id < c.nextId ∧ ∀ d, c.devices id = some d → d.initialized = true

/-- A device that was initialized is so until it is dropped. -/
theorem Step.lit (step : Step law c s c') (lit : c.Lit id) : c'.Lit id := by
  obtain ⟨known, initialized⟩ := lit
  refine ⟨Nat.lt_of_lt_of_le known step.nextId_le, fun e there => ?_⟩
  rcases step.origin there with ⟨d, found, revises⟩ | ⟨rfl, -⟩
  · exact revises.initialized_of_initialized (initialized d found)
  · exact absurd known (Nat.lt_irrefl _)

theorem Steps.lit (steps : Steps law c c') (lit : c.Lit id) : c'.Lit id :=
  steps.runs.preserves (fun _ _ _ lit step => step.lit lit) lit

/-- Discovery of a device failed, if it is still there. -/
def Failed (id : DeviceId) (c : Core) : Prop :=
  id < c.nextId ∧ ∀ d, c.devices id = some d → d.reported = true ∧ d.initialized = false

/-- A device whose discovery has failed is never initialized. -/
theorem Revises.failed (revises : c.Revises c' id d e)
    (failed : d.reported = true ∧ d.initialized = false) : e.reported = true ∧ e.initialized = false := by
  cases revises with
  | same | start | session | power | decide | turnedDown | handedIn | conclude => exact failed
  | edit _ _ edit _ _ =>
    cases edit with
    | bus | power => exact failed
    | report success first => exact absurd failed.1 (by simp [first])
    | batch b =>
      split
      · rw [Device.survey_eq]
        exact failed
      · exact failed
    | fetch b =>
      rw [Device.survey_eq]
      exact failed
  | hear _ hears _ =>
    rw [Device.hear_eq hears]
    exact failed
  | adopt =>
    rw [Device.track_eq]
    exact failed

/-- **Failure is final.** -/
theorem Step.failed (step : Step law c s c') (failed : c.Failed id) : c'.Failed id := by
  obtain ⟨known, ended⟩ := failed
  refine ⟨Nat.lt_of_lt_of_le known step.nextId_le, fun e there => ?_⟩
  rcases step.origin there with ⟨d, found, revises⟩ | ⟨rfl, -⟩
  · exact revises.failed (ended d found)
  · exact absurd known (Nat.lt_irrefl _)

/-! ## What comes after initialization -/

/-- Only an initialized device is usable, has a profile of its own or is about to have one. -/
structure Upright (c : Core) : Prop where
  low : ∀ id d, c.devices id = some d → d.initialized = false → d.usable = false ∧ d.provisioned = none
  adopting : ∀ id uuid, .adopt id uuid ∈ c.agenda → ∀ d, c.devices id = some d → d.initialized = true

theorem upright_opening (isLoaded : Bool) (naming : Naming) : (opening isLoaded naming).Upright where
  low _ _ found := absurd found (by simp [opening])
  adopting _ _ due := absurd due (by simp [opening])

/-- The gate asks for an initialized device. -/
theorem initialized_of_ready (ready : d.gate.ready) : d.initialized = true := by
  simp only [Device.gate, Gate.ready, Bool.and_eq_true] at ready
  exact ready.1.1.1.1.1

/-- A device that is not initialized becomes neither usable nor provisioned. -/
theorem Revises.low (revises : c.Revises c' id d e) (found : c.devices id = some d) (upright : c.Upright)
    (dark : e.initialized = false) : e.usable = false ∧ e.provisioned = none := by
  have was : d.initialized = false :=
    Bool.eq_false_iff.2 fun lit => absurd (revises.initialized_of_initialized lit) (by simp [dark])
  have low := upright.low id d found was
  cases revises with
  | same | start | session | power | turnedDown | handedIn => exact low
  | edit _ _ edit _ _ =>
    obtain ⟨-, -, -, provisioned, usable⟩ := edit.kept
    exact ⟨usable.trans low.1, provisioned.trans low.2⟩
  | hear _ hears _ =>
    rcases Device.hear_cases hears with ⟨p, -, -, -, rfl⟩ | ⟨p, -, -, rfl⟩ | ⟨-, rfl⟩
    · exact low
    · exact ⟨low.1, by simp [low.2]⟩
    · rw [Device.survey_eq]
      exact low
  | decide usable _ decided _ =>
    refine ⟨Bool.eq_false_iff.2 ?_, low.2⟩
    rintro rfl
    have lit : d.initialized = true := initialized_of_ready (Device.ready_of_decided decided)
    exact absurd lit (by simp [was])
  | @adopt uuid ds next _ =>
    have lit := upright.adopting id uuid (by rw [next]; exact List.mem_cons_self) d found
    exact absurd lit (by simp [was])
  | conclude _ _ => exact ⟨by simp [low.2], low.2⟩

/-- **A device becomes usable, or gets a profile, only after it is initialized.** -/
theorem Step.upright (step : Step law c s c') (upkeep : c.Upkeep) (upright : c.Upright) : c'.Upright where
  low id e there dark := by
    rcases step.origin there with ⟨d, found, revises⟩ | ⟨-, -, -, path, g, t, rfl⟩
    · exact revises.low found upright dark
    · exact ⟨rfl, rfl⟩
  adopting id uuid due e there := by
    rcases step.origin there with ⟨d, found, revises⟩ | ⟨rfl, -⟩
    · apply revises.initialized_of_initialized
      cases step.arises.2 _ due with
      | kept due => exact upright.adopting id uuid due d found
      | adopt _ found' lacks =>
        obtain rfl := Option.some.inj (found.symm.trans found')
        exact initialized_of_ready (Device.of_provision lacks).1
      | pursuit isPursuit => exact absurd isPursuit (by simp [Duty.isPursuit])
      | watch isWatch => exact absurd isWatch (by simp [Duty.isWatch])
    · rcases step.about due rfl with ⟨duty, due, about⟩ | old
      · exact absurd about (upkeep.about_ne due)
      · exact absurd old (by simp [upkeep.devices_nextId])

end Core

namespace Bench

variable {law : Law} {b b' : Bench} {p : Pending} {name : String}

/-- In every run a device that is not initialized is unusable and has no profile of its own. -/
theorem Reachable.upright (reached : Reachable law b) : b.host.core.Upright := by
  suffices both : b.host.core.Upkeep ∧ b.host.core.Upright from both.2
  refine reached.core_induction (P := fun c => c.Upkeep ∧ c.Upright) ?_ ?_
  · exact fun isLoaded naming => ⟨Core.upkeep_opening isLoaded naming, Core.upright_opening isLoaded naming⟩
  · rintro c s c' ⟨upkeep, upright⟩ step
    exact ⟨step.upkeep upkeep, step.upright upkeep upright⟩

/-! ## Sessions -/

/-- On a device that is not initialized no session is open, and none is being opened or closed. -/
structure Unopened (b : Bench) : Prop where
  idle : ∀ id d, b.host.device? id = some d → d.initialized = false → d.session = .idle
  calling : ∀ name p, b.operations.get? name = some p → p.phase ≠ .created →
    b.host.core.Lit p.device

/-- The checks of an operation leave a device alone that is not initialized and has no session, and no
call is made. -/
theorem start_of_dark (op : Operation) {d : Device} (dark : d.initialized = false) (idle : d.session = .idle) :
    op.start (some d) = .ended (some d)
      (match op with
        | .connect _ => .error .notInitialized
        | .disconnect => .error .notConnected) := by
  cases op with
  | connect r => simp [Operation.start, Device.beginConnect, dark, idle, Session.idle]
  | disconnect => simp [Operation.start, Device.beginDisconnect, idle, Session.idle]

namespace Unopened

/-- An operation makes its mark on a device, unless that is not initialized. -/
theorem mark (unopened : b.Unopened) {j : DeviceId} {after : Option Device}
    {operations : Table String Pending}
    (marked : ∀ e, after = some e → ∃ d, b.host.device? j = some d ∧ d.SameButSession e)
    (kept : ∀ d e, b.host.device? j = some d → after = some e → d.initialized = false → e = d)
    (calling : ∀ n q, operations.get? n = some q → q.phase ≠ .created → b.host.core.Lit q.device) :
    Unopened { b.putDevice j after with operations } where
  idle id e there dark := by
    have there : (b.putDevice j after).host.device? id = some e := there
    rw [device?_putDevice] at there
    split at there
    · next same =>
      subst same
      obtain ⟨d, found, rfl⟩ := Option.map_eq_some_iff.1 there
      cases result : after with
      | none =>
        rw [result] at dark
        exact unopened.idle id d found dark
      | some e =>
        rw [result] at dark
        obtain ⟨d', found', s, same⟩ := marked e result
        obtain rfl := Option.some.inj (found.symm.trans found')
        have was : d.initialized = false := by
          have same' : e.initialized = d.initialized := by rw [same]
          exact same'.symm.trans dark
        obtain rfl := kept d e found result was
        exact unopened.idle id e found was
    · exact unopened.idle id e there dark
  calling n q held out := by
    have changes : Changes free .wide b (b.putDevice j after) := steps_putDevice trivial marked
    exact changes.steps.lit (calling n q held out)

/-- What the core leaves out does not matter to the devices. -/
theorem idle_congr (unopened : b.Unopened) (core : b'.host.core = b.host.core) (id : DeviceId)
    (d : Device) (there : b'.host.device? id = some d) : d.initialized = false → d.session = .idle := by
  have devices : b'.host.device? = b.host.device? := congrArg Core.devices core
  rw [devices] at there
  exact unopened.idle id d there

/-- What the core leaves out but the operations does not matter. -/
theorem congr (unopened : b.Unopened) (core : b'.host.core = b.host.core)
    (operations : b'.operations = b.operations) : b'.Unopened where
  idle := unopened.idle_congr core
  calling n q held := by
    rw [operations] at held
    rw [core]
    exact unopened.calling n q held

variable (unopened : b.Unopened)

include unopened

/-- An operation that is over has left the others as they were. -/
theorem calling_erase {n : String} {q : Pending} (held : (b.operations.erase name).get? n = some q)
    (out : q.phase ≠ .created) : b.host.core.Lit q.device := by
  rw [Table.get?_erase] at held
  split at held
  · exact absurd held (by simp)
  · exact unopened.calling n q held out

/-- An operation that makes its call has been let through by its device. -/
theorem calling_set {n : String} {q : Pending} (lit : p.phase ≠ .created → b.host.core.Lit p.device)
    (held : (b.operations.set name p).get? n = some q) (out : q.phase ≠ .created) :
    b.host.core.Lit q.device := by
  rw [Table.get?_set] at held
  split at held
  · obtain rfl := Option.some.inj held
    exact lit out
  · exact unopened.calling n q held out

/-- What has nothing to do with sessions leaves those that are not initialized without one. -/
theorem keep (keeps : b.host.core.KeepsSessions b'.host.core)
    (runs : Core.Runs free b.host.core b'.host.core) (upkeep : b.host.core.Upkeep)
    (operations : b'.operations = b.operations) : b'.Unopened where
  idle id e there dark := by
    rcases keeps.kept id e there with ⟨d, found, same⟩ | ⟨-, idle⟩
    · rw [same]
      refine unopened.idle id d found (Bool.eq_false_iff.2 fun lit => ?_)
      have stays : b'.host.core.Lit id := by
        refine runs.preserves (fun _ _ _ lit step => step.lit lit) ⟨upkeep.known id d found, ?_⟩
        intro d' found'
        obtain rfl := Option.some.inj (found.symm.trans found')
        exact lit
      exact absurd (stays.2 e there) (by simp [dark])
    · exact idle
  calling n q held out := by
    rw [operations] at held
    exact runs.preserves (fun _ _ _ lit step => step.lit lit) (unopened.calling n q held out)

/-- **Whatever happens to operations keeps what is not initialized without a session.** -/
theorem deals (upkeep : b.host.core.Upkeep) (deals : Deals b b') : b'.Unopened := by
  -- the checks of an operation on a device that is not initialized end it
  have ends {p : Pending} {d : Device} (found : b.host.device? p.device = some d)
      (dark : d.initialized = false) :=
    start_of_dark p.operation dark (unopened.idle p.device d found dark)
  cases deals with
  | aside keeps runs operations => exact unopened.keep keeps runs upkeep operations
  | create name p known created core operations =>
    refine ⟨unopened.idle_congr core, fun n q held out => ?_⟩
    rw [operations] at held
    rw [core]
    exact unopened.calling_set (absurd created) held out
  | drop name core operations =>
    refine ⟨unopened.idle_congr core, fun n q held out => ?_⟩
    rw [operations] at held
    rw [core]
    exact unopened.calling_erase held out
  | refuse name p after outcome under created started core operations =>
    have marked : Unopened
        { b.putDevice p.device after with operations := b.operations.erase name } := by
      refine unopened.mark (fun e same => Operation.start_marks (by rw [started]; exact same)) ?_
        fun n q => unopened.calling_erase
      rintro d e found rfl dark
      rw [found, ends found dark] at started
      exact (Option.some.inj (Started.ended.inj started).1).symm
    exact marked.congr core operations
  | call name p q d after call under created found started device operation calling core operations =>
    have lit : d.initialized = true := by
      by_contra dark
      rw [ends found (Bool.eq_false_iff.2 dark)] at started
      exact absurd started (by simp)
    have marked : Unopened
        { b.putDevice p.device (some after) with operations := b.operations.set name q } := by
      refine unopened.mark (fun e same => ?_) ?_ fun n x => unopened.calling_set fun _ => ?_
      · rw [found]
        exact Operation.start_marks (by rw [started]; exact same)
      · intro d' e found' _ dark
        obtain rfl := Option.some.inj (found.symm.trans found')
        exact absurd lit (by simp [dark])
      · rw [device]
        refine ⟨upkeep.known _ d found, fun d' found' => ?_⟩
        obtain rfl := Option.some.inj (found.symm.trans found')
        exact lit
    exact marked.congr core operations
  | finish name p r under calling core operations =>
    have marked : Unopened
        { b.putDevice p.device (p.operation.finish r (b.host.device? p.device)).1 with
          operations := b.operations.erase name } := by
      refine unopened.mark (fun e after => Operation.finish_marks after) ?_
        fun n q => unopened.calling_erase
      intro d e found _ dark
      exact absurd ((unopened.calling name p under calling).2 d found) (by simp [dark])
    exact marked.congr core operations

end Unopened

/-- **Every move keeps what is not initialized without a session.** -/
theorem unopened_make {m : Move} (reached : Reachable free b) (unopened : b.Unopened)
    (made : b.make m = some b') : b'.Unopened := by
  suffices both : b'.host.core.Upkeep ∧ b'.Unopened from both.2
  refine (dealings_make reached made).preserves (P := fun c => c.host.core.Upkeep ∧ c.Unopened) ?_
    ⟨reached.upkeep, unopened⟩
  rintro b c ⟨upkeep, unopened⟩ deals
  exact ⟨deals.runs.preserves (fun _ _ _ upkeep step => step.upkeep upkeep) upkeep,
    unopened.deals upkeep deals⟩

/-- **In every run a call on a session belongs to a device that is initialized, or gone.** -/
theorem Reachable.unopened (reached : Reachable free b) : b.Unopened := by
  obtain ⟨g, t, isLoaded, manager, naming, run⟩ := reached
  induction run with
  | refl =>
    refine ⟨fun id d found => ?_, fun n q held => ?_⟩
    · exact absurd found (by simp [opening, Host.device?, Table.get?])
    · exact absurd held (by simp [opening, Table.get?])
  | move m run lawful made ih =>
    exact unopened_make ⟨g, t, isLoaded, manager, naming, run⟩ ih made

/-! ## Attempts to open a session -/

/-- **No session is opened on a device that is not initialized**: whoever tries is told so, and the host
does nothing, so no call is made. -/
theorem connect_of_dark {d : Device} {r : Role} {s : Step} (unopened : b.Unopened)
    (resumed : b.resumed? s = some p) (connects : p.operation = .connect r)
    (found : b.host.device? p.device = some d) (dark : d.initialized = false) :
    (b.doStep s).1.host = b.host ∧ (b.doStep s).2.outcome? = some (.error .notInitialized) := by
  -- its call cannot be on its way
  have created : p.phase = .created := by
    rcases held_of_resumed resumed with created | ⟨name, held⟩
    · exact created
    · by_contra out
      exact absurd ((unopened.calling name p held out).2 d found) (by simp [dark])
  have refused := start_of_dark p.operation dark (unopened.idle _ d found dark)
  rw [connects] at refused
  exact doStep_of_refused resumed created found (connects ▸ refused)

end Bench

end Piconet
