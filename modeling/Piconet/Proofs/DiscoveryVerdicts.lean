import Piconet.Proofs.DiscoveryFrame
import Piconet.Proofs.DiscoveryTurn

/-!
# The course of discovery

`Bench.Discovers` is every run of a bench, with what the calls of one device's run of discovery came to
in it. That list says all there is to say of how far discovery has come (`Course`): a device whose
discovery is on its way has reported nothing, one that everything was found out for is initialized, and
one that a call failed for never will be (`Host.Discovered`).
-/

namespace Piconet

open Function (update)
open Bench (free)

/-! ## Where discovery stands -/

/-- Where the discovery of a device stands. -/
inductive Status where
  /-- it has come to a stage -/
  | rising (stage : Stage)
  | up
  /-- it failed -/
  | down

/-- Where discovery stands after a stage that succeeded. A device of a generation that asks for its
adapter has to name one. -/
def Stage.after (g : Generation) : (stage : Stage) → stage.Yield → Status
  | .acquire, () => .rising .bind
  | .bind, () => .rising .subscribe
  | .subscribe, _ => .rising .fetch
  | .fetch, batch =>
    if g.requiresAdapter then batch.adapter.elim .down fun adapter => .rising (.bindAdapter adapter)
    else .rising .announce
  | .bindAdapter adapter, () => .rising (.subscribePower adapter)
  | .subscribePower adapter, () => .rising (.readPower adapter)
  | .readPower _, _ => .rising .announce
  | .announce, () => .up

/-- Where discovery stands after what its stages came to. -/
inductive Course (g : Generation) : List Verdict → Status → Prop
  | start : Course g [] (.rising .acquire)
  | next {vs : List Verdict} {stage : Stage} (course : Course g vs (.rising stage)) (a : stage.Yield) :
      Course g (vs ++ [⟨stage, some a⟩]) (stage.after g a)
  | fail {vs : List Verdict} {stage : Stage} (course : Course g vs (.rising stage)) :
      Course g (vs ++ [⟨stage, none⟩]) .down

/-- A device shows how its discovery stands. -/
def Status.Shows (d : Device) : Status → Prop
  | rising _ => d.reported = false ∧ d.initialized = false
  | up => d.reported = true ∧ d.initialized = true
  | down => d.reported = true ∧ d.initialized = false

/-- A run of discovery is where it has to be. The last stage makes no call that it could wait for. -/
def Status.Allows (phase : Phase) : Status → Prop
  | rising stage => ∃ progress, phase = .bringUp stage progress ∧ (stage = .announce → progress = .fresh)
  | up => phase = .follow
  | down => False

namespace Course

variable {g : Generation} {vs : List Verdict} {stage : Stage} {status : Status}

/-- Before any call discovery stands at its first stage. -/
theorem of_nil (course : Course g [] status) : status = .rising .acquire := by
  generalize none : ([] : List Verdict) = vs at course
  cases course with
  | start => rfl
  | next | fail => exact absurd none (by simp)

/-- Discovery that is on its way succeeded so far. -/
theorem isSome_of_rising (course : Course g vs (.rising stage)) : ∀ v ∈ vs, v.2.isSome := by
  generalize stands : Status.rising stage = status at course
  induction course generalizing stage with
  | start => exact fun v mem => absurd mem (by simp)
  | @next vs stage' course a ih =>
    intro v mem
    rcases List.mem_append.1 mem with mem | new
    · exact ih rfl v mem
    · obtain rfl := List.mem_singleton.1 new
      rfl
  | fail => exact absurd stands (by simp)

/-- **A turn takes discovery on as far as its verdict says.** -/
theorem turn {r : Run} {d e : Device} {v : Option Verdict} {next : Option Run}
    (course : Course d.generation vs status) (shows_ : status.Shows d) (allows : status.Allows r.phase)
    (turns : Turns r d v next e) :
    ∃ status', Course e.generation (vs ++ v.toList) status' ∧ status'.Shows e ∧
      ∀ r', next = some r' → status'.Allows r'.phase := by
  rw [turns.kept.2.1]
  -- the run is at the stage that discovery has come to, or follows
  have rising {stage : Stage} {progress : Progress} (phase : r.phase = .bringUp stage progress) :
      status = .rising stage := by
    cases status with
    | rising stage' =>
      obtain ⟨progress', same, -⟩ := allows
      obtain ⟨rfl, -⟩ := Phase.bringUp.inj (phase.symm.trans same)
      rfl
    | up => exact absurd (phase.symm.trans allows) (by simp)
    | down => exact allows.elim
  have up (phase : r.phase = .follow) : status = .up := by
    cases status with
    | rising stage =>
      obtain ⟨progress, same, -⟩ := allows
      exact absurd (phase.symm.trans same) (by simp)
    | up => rfl
    | down => exact allows.elim
  have enters {stage : Stage} {r' r₁ : Run} (same : some (r'.enter stage) = some r₁) :
      (Status.rising stage).Allows r₁.phase := by
    obtain rfl := Option.some.inj same
    exact ⟨.fresh, rfl, fun _ => rfl⟩
  have first (stored : List Profile) (b : PropertyBatch) :
      (d.takeFirst stored b).reported = d.reported ∧ (d.takeFirst stored b).initialized = d.initialized := by
    have bare := d.bare_takeFirst stored b
    exact ⟨(congrArg Device.reported bare :), (congrArg Device.initialized bare :)⟩
  have ended {d : Device} (success : Bool) (reported : d.reported = false) (initialized : d.initialized = false) :
      (d.endDiscovery success).reported = true ∧ (d.endDiscovery success).initialized = success := by
    simp [Device.endDiscovery, reported, initialized]
  cases turns with
  | stuck phase =>
    rw [Option.toList_none, List.append_nil]
    refine ⟨status, course, shows_, fun r' same => ?_⟩
    obtain rfl := Option.some.inj same
    exact allows
  | waits phase calls q =>
    obtain rfl := rising phase
    rw [Option.toList_none, List.append_nil]
    refine ⟨_, course, shows_, fun r' same => ?_⟩
    obtain rfl := Option.some.inj same
    exact ⟨q, rfl, fun last => absurd last calls⟩
  | fails phase =>
    obtain rfl := rising phase
    exact ⟨.down, course.fail, ended false shows_.1 shows_.2, fun r' same => absurd same (by simp)⟩
  | @yields stage progress a next e phase advances =>
    obtain rfl := rising phase
    obtain ⟨reported, initialized⟩ := shows_
    refine ⟨stage.after d.generation a, course.next a, ?_⟩
    cases advances with
    | acquire | bind | subscribe | bindAdapter | subscribePower | readPower =>
      exact ⟨⟨reported, initialized⟩, fun r' => enters⟩
    | fetch batch stored free =>
      simp only [Stage.after, free, Bool.false_eq_true, if_false]
      exact ⟨⟨(first stored batch).1.trans reported, (first stored batch).2.trans initialized⟩, fun r' => enters⟩
    | named batch stored requires names =>
      simp only [Stage.after, requires, if_true, names, Option.elim_some]
      exact ⟨⟨(first stored batch).1.trans reported, (first stored batch).2.trans initialized⟩, fun r' => enters⟩
    | unnamed batch stored requires names =>
      simp only [Stage.after, requires, if_true, names, Option.elim_none]
      refine ⟨ended false ?_ ?_, fun r' same => absurd same (by simp)⟩
      · exact (first stored batch).1.trans reported
      · exact (first stored batch).2.trans initialized
    | announce =>
      refine ⟨ended true reported initialized, fun r' same => ?_⟩
      obtain rfl := Option.some.inj same
      rfl
  | @takes u r' phase takes stored =>
    obtain rfl := up phase
    have kept : (d.takeIn stored u).reported = d.reported ∧ (d.takeIn stored u).initialized = d.initialized := by
      cases u with
      | power on => exact ⟨rfl, rfl⟩
      | properties b =>
        rw [Device.takeIn]
        split
        · rw [Device.survey_eq]
          exact ⟨rfl, rfl⟩
        · exact ⟨rfl, rfl⟩
    rw [Option.toList_none, List.append_nil]
    refine ⟨.up, course, ⟨kept.1.trans shows_.1, kept.2.trans shows_.2⟩, fun r₁ same => ?_⟩
    obtain rfl := Option.some.inj same
    cases takes <;> exact phase
  | idle phase =>
    obtain rfl := up phase
    rw [Option.toList_none, List.append_nil]
    refine ⟨.up, course, shows_, fun r' same => ?_⟩
    obtain rfl := Option.some.inj same
    exact phase
  | ends phase =>
    obtain rfl := up phase
    rw [Option.toList_none, List.append_nil]
    exact ⟨.up, course, shows_, fun r' same => absurd same (by simp)⟩

end Course

/-! ## What holds of the discovery of a device -/

/-- The discovery of a device has come as far as its verdicts say. -/
structure Host.Discovered (id : DeviceId) (vs : List Verdict) (h : Host) : Prop where
  /-- the device is not another one that got the identifier later -/
  known : vs ≠ [] → id < h.nextId
  /-- nothing succeeds without a bus -/
  unreachable : h.transport = .unreachable → ∀ v ∈ vs, v.2 = none
  steady : ∀ v ∈ vs, v.2 = none → v.1.canFail
  stands : ∀ d, h.device? id = some d → ∃ status, Course d.generation vs status ∧ status.Shows d ∧
    (d.started = false → vs = []) ∧
    ∀ x ∈ h.runs.entries, x.2.device = id → status.Allows x.2.phase

namespace Host

namespace Discovered

variable {id : DeviceId} {vs : List Verdict} {h h' : Host} {run : RunId} {r : Run} {d e : Device}

/-- **Discovery that rests stays as far as it has come.** -/
theorem rest {fed : Prop} (discovered : h.Discovered id vs) (upkeep : h.core.Upkeep)
    (rests : Rests fed h h') : h'.Discovered id vs where
  known some := Nat.lt_of_lt_of_le (discovered.known some) rests.nextId_le
  unreachable gone := by
    rw [← Transport.kind_eq_unreachable, rests.kind, Transport.kind_eq_unreachable] at gone
    exact discovered.unreachable gone
  steady := discovered.steady
  stands e there := by
    have unknown (new : h.nextId ≤ id) : vs = [] := by
      by_contra some
      exact absurd (discovered.known some) (Nat.not_lt.2 new)
    rcases rests.device id e there with ⟨d, found, same⟩ | ⟨new, path, g, t, same⟩
    · obtain ⟨status, course, shows_, started, allows⟩ := discovered.stands d found
      have generation := same.congr Device.generation fun _ _ => rfl
      have reported := same.congr Device.reported fun _ _ => rfl
      have initialized := same.congr Device.initialized fun _ _ => rfl
      refine ⟨status, ?_, ?_, ?_, ?_⟩
      · exact generation ▸ course
      · cases status <;> simpa only [Status.Shows, reported, initialized] using shows_
      · intro first
        refine started (Bool.eq_false_iff.2 fun was => ?_)
        exact absurd (same.started was) (by simp [first])
      · intro x mem device
        rcases rests.run x mem with ⟨y, mem, -, place⟩ | ⟨label, j, place, unstarted⟩
        · rw [place.phase]
          exact allows y mem (place.device.symm.trans device)
        · obtain rfl : j = id := place.device.symm.trans device
          -- a run begins only where nothing was begun before
          rcases unstarted with new | ⟨d', found', first⟩
          · exact absurd (upkeep.known j d found) (Nat.not_lt.2 new)
          · obtain rfl := Option.some.inj (found.symm.trans found')
            obtain rfl := started first
            obtain rfl := course.of_nil
            exact ⟨_, place.phase, by simp⟩
    · obtain rfl := unknown new
      have reported := same.congr Device.reported fun _ _ => rfl
      have initialized := same.congr Device.initialized fun _ _ => rfl
      refine ⟨.rising .acquire, .start, ⟨reported, initialized⟩, fun _ => rfl, ?_⟩
      intro x mem device
      rcases rests.run x mem with ⟨y, mem, -, place⟩ | ⟨label, j, place, -⟩
      · have bound := (upkeep.bound (y.1, y.2.standing) (List.mem_map.2 ⟨y, mem, rfl⟩)).2
        have same : y.2.device = id := place.device.symm.trans device
        exact absurd (show y.2.device < h.nextId from bound) (Nat.not_lt.2 (same ▸ new))
      · exact ⟨_, place.phase, by simp⟩

/-! ### A run goes on -/

/-- **A run that has its turn brings its device as far as the verdict says.** -/
theorem turn (discovered : h.Discovered r.device vs) (upkeep : h.core.Upkeep)
    (running : h.run? run = some r) (found : h.device? r.device = some d) :
    (h.pursue run).Discovered r.device (vs ++ (h.verdict? r).toList) := by
  obtain ⟨status, course, shows_, -, allows⟩ := discovered.stands d found
  obtain ⟨next, e, turns, there, only⟩ := turns_pursue upkeep running found
  have apart := apart_pursue running
  have allowed := allows (run, r) (Table.mem_entries_of_get? running) rfl
  obtain ⟨status', course', shows', allows'⟩ := course.turn shows_ allowed turns
  refine ⟨fun _ => ?_, fun gone => ?_, ?_, fun e' there' => ?_⟩
  · rw [apart.nextId]
    exact upkeep.known _ d found
  · have gone := Transport.unreachable_of_bare apart.transport gone
    refine List.forall_mem_append.2 ⟨discovered.unreachable gone, fun v mem => ?_⟩
    obtain ⟨stage, progress, -, said⟩ := bringUp_of_verdict? found (Option.mem_toList.1 mem)
    simp only [finding, gone, Stage.verdict?] at said
    rw [← Option.some.inj said]
  · refine List.forall_mem_append.2 ⟨discovered.steady, fun v mem failed => ?_⟩
    obtain ⟨stage, progress, phase, said⟩ := bringUp_of_verdict? found (Option.mem_toList.1 mem)
    obtain ⟨rfl, finding⟩ := Stage.of_verdict? said
    rcases canFail_of_finding (finding failed) with could | gone
    · exact could
    · -- without a bus there is no stage before this one
      have none : vs = [] := by
        cases status with
        | rising stage' =>
          refine List.eq_nil_iff_forall_not_mem.2 fun v mem => ?_
          exact absurd (course.isSome_of_rising v mem) (by simp [discovered.unreachable gone v mem])
        | up => exact absurd (phase.symm.trans allowed) (by simp)
        | down => exact allowed.elim
      subst none
      obtain rfl := course.of_nil
      obtain ⟨progress', same, -⟩ := allowed
      obtain ⟨same, -⟩ := Phase.bringUp.inj (phase.symm.trans same)
      rw [same]
      rfl
  · obtain rfl := Option.some.inj (there.symm.trans there')
    have started := turns.kept.2.2.trans (started_of_running upkeep running found)
    exact ⟨status', course', shows', fun first => absurd started (by simp [first]),
      fun x mem device => allows' x.2 (only x mem device)⟩

/-- The run of another device makes no difference. -/
theorem of_apart_ne (discovered : h.Discovered id vs) {other : DeviceId} (ne : id ≠ other)
    (apart : Apart run other h h') : h'.Discovered id vs where
  known some := by
    rw [apart.nextId]
    exact discovered.known some
  unreachable gone := discovered.unreachable (Transport.unreachable_of_bare apart.transport gone)
  steady := discovered.steady
  stands d there := by
    rw [apart.device? id ne] at there
    obtain ⟨status, course, shows_, started, allows⟩ := discovered.stands d there
    refine ⟨status, course, shows_, started, fun x mem device => ?_⟩
    rcases apart.runs x mem with old | mine
    · exact allows x old device
    · exact absurd (device.symm.trans mine) ne

end Discovered

/-- What comes of the run of a device, if it goes on now and the run is that device's. -/
def verdictOf? (h : Host) (id : DeviceId) (run : RunId) : Option Verdict :=
  ((h.run? run).filter (·.device = id)).bind h.verdict?

/-- A run that is over says nothing. -/
theorem verdictOf?_of_none {h : Host} {run : RunId} (ended : h.run? run = none) (id : DeviceId) :
    h.verdictOf? id run = none := by
  rw [verdictOf?, ended]
  rfl

/-- A run says what its call came to for its own device. -/
theorem verdictOf?_self {h : Host} {run : RunId} {r : Run} (running : h.run? run = some r) :
    h.verdictOf? r.device run = h.verdict? r := by
  rw [verdictOf?, running, Option.filter_some, if_pos (by simp)]
  rfl

/-- What was said was said by a run of the device. -/
theorem running_of_verdictOf? {h : Host} {run : RunId} {id : DeviceId} {v : Verdict}
    (said : h.verdictOf? id run = some v) :
    ∃ r, h.run? run = some r ∧ r.device = id ∧ h.verdict? r = some v := by
  obtain ⟨r, mine, said⟩ := Option.bind_eq_some_iff.1 said
  obtain ⟨running, device⟩ := Option.filter_eq_some_iff.1 mine
  exact ⟨r, running, by simpa using device, said⟩

/-- A run says nothing of other devices. -/
theorem verdictOf?_of_ne {h : Host} {run : RunId} {r : Run} (running : h.run? run = some r) {id : DeviceId}
    (ne : r.device ≠ id) : h.verdictOf? id run = none := by
  rw [verdictOf?, running, Option.filter_some, if_neg (by simpa using ne)]
  rfl

/-- **To take up a run is to come as far as its verdict says.** -/
theorem Discovered.pursue {h : Host} {id : DeviceId} {vs : List Verdict} (discovered : h.Discovered id vs)
    (upkeep : h.core.Upkeep) (run : RunId) :
    (h.pursue run).Discovered id (vs ++ (h.verdictOf? id run).toList) := by
  cases running : h.run? run with
  | none =>
    rw [Host.pursue, running, verdictOf?_of_none running, Option.toList_none, List.append_nil]
    exact discovered
  | some r =>
    by_cases device : r.device = id
    · subst device
      rw [verdictOf?_self running]
      cases found : h.device? r.device with
      | none =>
        have silent : h.verdict? r = none := by rw [verdict?, found]
        have ends : h.pursue run = h.endRun run := by simp only [Host.pursue, running, found]
        rw [silent, ends, Option.toList_none, List.append_nil]
        refine ⟨discovered.known, discovered.unreachable, discovered.steady, fun d there => ?_⟩
        exact absurd (found.symm.trans there) (by simp)
      | some d => exact discovered.turn upkeep running found
    · rw [verdictOf?_of_ne running device, Option.toList_none, List.append_nil]
      exact discovered.of_apart_ne (Ne.symm device) (apart_pursue running)

end Host

namespace Bench

variable {law : Law} {id : DeviceId} {vs : List Verdict} {b c : Bench}

/-! ## All runs -/

/-- What comes of the run of discovery of a device in a move. -/
def verdicts (b : Bench) (id : DeviceId) (m : Move) : List Verdict :=
  ((b.pursued? m).bind (b.host.verdictOf? id)).toList

/-- A move says of a device what its pursued run says. -/
theorem mem_verdicts {m : Move} {v : Verdict} : v ∈ b.verdicts id m ↔
    ∃ run, b.pursued? m = some run ∧ b.host.verdictOf? id run = some v := by
  rw [verdicts, Option.mem_toList, Option.bind_eq_some_iff]

/-- All runs from an opening bench, with what each call of a device's discovery came to, in their order. -/
inductive Discovers (id : DeviceId) : List Verdict → Bench → Prop
  | opening (g : Generation) (t : Transport) (isLoaded : Bool) (manager : Option Timeouts)
      (naming : Naming) :
      Discovers id [] (opening g t isLoaded manager naming)
  | move {vs : List Verdict} {b c : Bench} (m : Move) (discovers : Discovers id vs b)
      (made : b.make m = some c) : Discovers id (vs ++ b.verdicts id m) c

/-- Verdicts can be taken along every run. -/
theorem Discovers.reachable (discovers : Discovers id vs b) : Reachable free b := by
  induction discovers with
  | opening g t isLoaded manager naming => exact ⟨g, t, isLoaded, manager, naming, .refl⟩
  | move m _ made ih => exact ih.trans (Reaches.refl.move m (fun _ _ _ => trivial) made)

/-- What the stages of discovery of a device come to in moves. -/
def verdictsAll (id : DeviceId) : Bench → List Move → List Verdict
  | _, [] => []
  | b, m :: ms => match b.make m with
    | some c => b.verdicts id m ++ c.verdictsAll id ms
    | none => []

/-- The verdicts of a run may be read off its moves. -/
theorem discovers_makeAll (discovers : Discovers id vs b) (ms : List Move) :
    Discovers id (vs ++ b.verdictsAll id ms) (b.makeAll ms) := by
  induction ms generalizing b vs with
  | nil =>
    rw [verdictsAll, List.append_nil]
    exact discovers
  | cons m ms ih =>
    rw [verdictsAll, makeAll]
    cases made : b.make m with
    | some c =>
      simp only [← List.append_assoc]
      exact ih (discovers.move m made)
    | none =>
      simp only [List.append_nil]
      exact discovers

/-- Every bench that can be reached is reached with some verdicts. -/
theorem Reachable.discovers (reached : Reachable law b) (id : DeviceId) : ∃ vs, Discovers id vs b := by
  obtain ⟨g, t, isLoaded, manager, naming, run⟩ := reached
  induction run with
  | refl => exact ⟨[], .opening g t isLoaded manager naming⟩
  | move m _ _ made ih =>
    obtain ⟨vs, discovers⟩ := ih
    exact ⟨_, discovers.move m made⟩

/-- A move that takes up a run does nothing else. -/
theorem pursue_of_make {m : Move} {run : RunId} (made : b.make m = some c)
    (pursued : b.pursued? m = some run) :
    ∃ ds, ds ⊆ b.host.agenda ∧ c.host = (b.host.withAgenda ds).pursue run := by
  cases m with
  | act =>
    rw [pursued?] at pursued
    split at pursued
    · next run' ds next =>
      obtain rfl := Option.some.inj pursued
      rw [make, next] at made
      obtain rfl := Option.some.inj made
      exact ⟨ds, by rw [next]; exact List.subset_cons_self _ ds, rfl⟩
    · exact absurd pursued (by simp)
  | poll run' =>
    obtain ⟨-, made⟩ := Option.ite_none_right_eq_some.1 made
    obtain rfl := Option.some.inj made
    obtain rfl := Option.some.inj pursued
    exact ⟨b.host.agenda, List.Subset.refl _, rfl⟩
  | step | follow | report => exact absurd pursued (by simp [pursued?])

/-- **In all runs discovery has come as far as its verdicts say.** -/
theorem Discovers.discovered (discovers : Discovers id vs b) : b.host.Discovered id vs := by
  induction discovers with
  | opening g t isLoaded manager naming =>
    refine ⟨fun some => absurd rfl some, fun _ v mem => absurd mem (by simp), fun v mem => absurd mem (by simp),
      fun d found => absurd found (by simp [Bench.opening, Host.device?, Table.get?])⟩
  | @move vs b c m discovers made ih =>
    have upkeep := discovers.reachable.upkeep
    cases pursued : b.pursued? m with
    | none =>
      rw [verdicts, pursued, Option.bind_none, Option.toList_none, List.append_nil]
      exact ih.rest upkeep (rests_make discovers.reachable made pursued)
    | some run =>
      obtain ⟨ds, fewer, did⟩ := pursue_of_make made pursued
      rw [verdicts, pursued, Option.bind_some, did]
      have aside : (b.host.withAgenda ds).Discovered id vs := { ih with }
      have upkeep' : (b.host.withAgenda ds).core.Upkeep :=
        { upkeep with due := fun duty mem => upkeep.due duty (fewer mem) }
      exact aside.pursue upkeep' run

end Bench

end Piconet
