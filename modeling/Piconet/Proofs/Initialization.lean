import Piconet.Proofs.DiscoveryVerdicts
import Piconet.Proofs.Failure
import Piconet.Proofs.Streams

/-!
# Discovery is reported once, and failure is final

What the calls of a run came to leads to one stage only (`Stage.Follows`), and so decides whether a
device is initialized, has failed, or is still on its way (`Bench.Concludes`). The device says so in one
step of the core, and in no other does it say anything of its discovery (`Heralds`); so whoever keeps
its events is told once, and of what is the case (`Bench.Announced`). A device that failed stays that
way (`Bench.Barred`).
-/

namespace Piconet

open Bench (free)

/-! ## Success and failure -/

namespace Verdict

/-- The bus was acquired, the device was bound, its changes were subscribed to and its properties read;
and where the generation asks for an adapter they named one, which was bound and subscribed to. -/
def Success (g : Generation) (vs : List Verdict) : Prop :=
  ⟨.acquire, some ()⟩ ∈ vs ∧ ⟨.bind, some ()⟩ ∈ vs ∧ (∃ link, ⟨.subscribe, some link⟩ ∈ vs) ∧
    ∃ batch, ⟨.fetch, some batch⟩ ∈ vs ∧ (g.requiresAdapter = true → ∃ adapter,
      batch.adapter = some adapter ∧ ⟨.bindAdapter adapter, some ()⟩ ∈ vs ∧
        ⟨.subscribePower adapter, some ()⟩ ∈ vs)

/-- One of these failed, or no adapter was named where one is asked for. -/
def Failure (g : Generation) (vs : List Verdict) : Prop :=
  (∃ stage, ⟨stage, none⟩ ∈ vs) ∨
    g.requiresAdapter = true ∧ ∃ batch, ⟨.fetch, some batch⟩ ∈ vs ∧ batch.adapter = none

/-- The power of the adapter was read, or could not be, where the generation asks for an adapter. -/
def PowerRead (g : Generation) (vs : List Verdict) : Prop :=
  g.requiresAdapter = true → ∃ adapter reading, ⟨.readPower adapter, some reading⟩ ∈ vs

/-- The verdicts up to the reading of a device's properties. -/
def read (link : Feed.Link) (batch : PropertyBatch) : List Verdict :=
  [⟨.acquire, some ()⟩, ⟨.bind, some ()⟩, ⟨.subscribe, some link⟩, ⟨.fetch, some batch⟩]

end Verdict

open Verdict (Success Failure PowerRead)

/-- The verdicts that lead to a stage. -/
def Stage.Follows (g : Generation) (vs : List Verdict) : Stage → Prop
  | acquire => vs = []
  | bind => vs = [⟨.acquire, some ()⟩]
  | subscribe => vs = [⟨.acquire, some ()⟩, ⟨.bind, some ()⟩]
  | fetch => ∃ link, vs = [⟨.acquire, some ()⟩, ⟨.bind, some ()⟩, ⟨.subscribe, some link⟩]
  | bindAdapter adapter => g.requiresAdapter = true ∧ ∃ link batch, batch.adapter = some adapter ∧
      vs = Verdict.read link batch
  | subscribePower adapter => g.requiresAdapter = true ∧ ∃ link batch, batch.adapter = some adapter ∧
      vs = Verdict.read link batch ++ [⟨.bindAdapter adapter, some ()⟩]
  | readPower adapter => g.requiresAdapter = true ∧ ∃ link batch, batch.adapter = some adapter ∧
      vs = Verdict.read link batch ++ [⟨.bindAdapter adapter, some ()⟩, ⟨.subscribePower adapter, some ()⟩]
  | announce => (g.requiresAdapter = false ∧ ∃ link batch, vs = Verdict.read link batch) ∨
      g.requiresAdapter = true ∧ ∃ link batch adapter reading, batch.adapter = some adapter ∧
        vs = Verdict.read link batch ++ [⟨.bindAdapter adapter, some ()⟩,
          ⟨.subscribePower adapter, some ()⟩, ⟨.readPower adapter, some reading⟩]

namespace Course

variable {g : Generation} {vs : List Verdict} {stage : Stage} {status : Status}

/-- A stage leads to the next one, and what led to it led to that one too. -/
theorem follows_after {next : Stage} (before : stage.Follows g vs) {a : stage.Yield}
    (after : stage.after g a = .rising next) : next.Follows g (vs ++ [⟨stage, some a⟩]) := by
  cases stage with
  | acquire =>
    obtain rfl := Status.rising.inj after
    obtain rfl : vs = [] := before
    rfl
  | bind =>
    obtain rfl := Status.rising.inj after
    obtain rfl : vs = [⟨.acquire, some ()⟩] := before
    rfl
  | subscribe =>
    obtain rfl := Status.rising.inj after
    obtain rfl : vs = [⟨.acquire, some ()⟩, ⟨.bind, some ()⟩] := before
    exact ⟨a, rfl⟩
  | fetch =>
    obtain ⟨link, rfl⟩ := before
    rw [Stage.after] at after
    split at after
    · next requires =>
      cases named : a.adapter with
      | none => exact absurd after (by simp [named])
      | some adapter =>
        rw [named] at after
        obtain rfl := Status.rising.inj after
        exact ⟨requires, link, a, named, rfl⟩
    · next free =>
      obtain rfl := Status.rising.inj after
      exact .inl ⟨Bool.eq_false_iff.2 free, link, a, rfl⟩
  | bindAdapter adapter =>
    obtain rfl := Status.rising.inj after
    obtain ⟨requires, link, batch, named, rfl⟩ := before
    exact ⟨requires, link, batch, named, rfl⟩
  | subscribePower adapter =>
    obtain rfl := Status.rising.inj after
    obtain ⟨requires, link, batch, named, rfl⟩ := before
    exact ⟨requires, link, batch, named, rfl⟩
  | readPower adapter =>
    obtain rfl := Status.rising.inj after
    obtain ⟨requires, link, batch, named, rfl⟩ := before
    exact .inr ⟨requires, link, batch, adapter, a, named, rfl⟩
  | announce => exact absurd after (by simp [Stage.after])

theorem follows (course : Course g vs (.rising stage)) : stage.Follows g vs := by
  generalize stands : Status.rising stage = status at course
  induction course generalizing stage with
  | start =>
    obtain rfl := Status.rising.inj stands
    rfl
  | next course a ih => exact follows_after (ih rfl) stands.symm
  | fail => exact absurd stands (by simp)

/-- Discovery is up after its last stage. -/
theorem of_up (course : Course g vs .up) :
    ∃ ws, Course g ws (.rising .announce) ∧ vs = ws ++ [⟨.announce, some ()⟩] := by
  generalize stands : Status.up = status at course
  cases course with
  | start | fail => exact absurd stands (by simp)
  | @next ws stage course a =>
    cases stage with
    | announce => exact ⟨ws, course, rfl⟩
    | fetch =>
      rw [Stage.after] at stands
      split at stands
      · cases named : a.adapter <;> exact absurd stands (by simp [named])
      · exact absurd stands (by simp)
    | acquire | bind | subscribe | bindAdapter | subscribePower | readPower =>
      exact absurd stands (by simp [Stage.after])

/-- It is down after a stage that failed, or that named no adapter. -/
theorem of_down (course : Course g vs .down) :
    ∃ ws stage, stage.Follows g ws ∧ (vs = ws ++ [⟨stage, none⟩] ∨
      g.requiresAdapter = true ∧ stage = .fetch ∧ ∃ batch, batch.adapter = none ∧
        vs = ws ++ [⟨.fetch, some batch⟩]) := by
  generalize stands : Status.down = status at course
  cases course with
  | start => exact absurd stands (by simp)
  | @fail ws stage course => exact ⟨ws, stage, course.follows, .inl rfl⟩
  | @next ws stage course a =>
    cases stage with
    | fetch =>
      refine ⟨ws, .fetch, course.follows, .inr ?_⟩
      rw [Stage.after] at stands
      split at stands
      · next requires =>
        cases named : a.adapter with
        | none => exact ⟨requires, rfl, a, named, rfl⟩
        | some adapter => exact absurd stands (by simp [named])
      · exact absurd stands (by simp)
    | acquire | bind | subscribe | bindAdapter | subscribePower | readPower | announce =>
      exact absurd stands (by simp [Stage.after])

end Course

namespace Stage.Follows

variable {g : Generation} {vs : List Verdict} {stage : Stage}

/-- Everything has succeeded before the last stage. -/
theorem success (follows : Stage.announce.Follows g vs) : Success g vs ∧ PowerRead g vs := by
  rcases follows with ⟨free, link, batch, rfl⟩ | ⟨requires, link, batch, adapter, reading, named, rfl⟩
  · exact ⟨by simp [Success, Verdict.read, free], by simp [PowerRead, free]⟩
  · exact ⟨by simp [Success, Verdict.read, named], by simp [PowerRead, Verdict.read]⟩

/-- When everything has succeeded only the power of the adapter can be left to be read. -/
theorem of_success (follows : stage.Follows g vs) (success : Success g vs) :
    stage = .announce ∨ ∃ adapter, stage = .readPower adapter := by
  cases stage with
  | announce => exact .inl rfl
  | readPower adapter => exact .inr ⟨adapter, rfl⟩
  | acquire | bind | subscribe =>
    obtain rfl := follows
    exact absurd success (by simp [Success])
  | fetch =>
    obtain ⟨link, rfl⟩ := follows
    exact absurd success (by simp [Success])
  | bindAdapter adapter | subscribePower adapter =>
    obtain ⟨requires, link, batch, named, rfl⟩ := follows
    exact absurd success (by simp [Success, Verdict.read, requires])

/-- Where the power of an adapter is still to be read it has not been read. -/
theorem not_powerRead {adapter : String} (follows : (Stage.readPower adapter).Follows g vs) :
    ¬ PowerRead g vs := by
  obtain ⟨requires, link, batch, -, rfl⟩ := follows
  simp [PowerRead, Verdict.read, requires]

/-- Where an adapter is asked for one was named on the way. -/
theorem adapter_ne_none (follows : stage.Follows g vs) (requires : g.requiresAdapter = true)
    {batch : PropertyBatch} (read : ⟨.fetch, some batch⟩ ∈ vs) : batch.adapter ≠ none := by
  cases stage with
  | acquire | bind | subscribe =>
    obtain rfl := follows
    exact absurd read (by simp)
  | fetch =>
    obtain ⟨link, rfl⟩ := follows
    exact absurd read (by simp)
  | bindAdapter adapter | subscribePower adapter | readPower adapter =>
    obtain ⟨-, link, batch', named, rfl⟩ := follows
    obtain rfl : batch = batch' := by simpa [Verdict.read] using read
    simp [named]
  | announce =>
    rcases follows with ⟨free, -⟩ | ⟨-, link, batch', adapter, reading, named, rfl⟩
    · exact absurd requires (by simp [free])
    · obtain rfl : batch = batch' := by simpa [Verdict.read] using read
      simp [named]

end Stage.Follows

/-! ## What a device shows -/

namespace Course

variable {g : Generation} {vs : List Verdict} {stage : Stage} {status : Status}

theorem not_failure_of_rising (course : Course g vs (.rising stage)) : ¬ Failure g vs := by
  rintro (⟨failed, mem⟩ | ⟨requires, batch, read, unnamed⟩)
  · exact absurd (course.isSome_of_rising _ mem) (by simp)
  · exact course.follows.adapter_ne_none requires read unnamed

/-- A verdict that names no success but the last stage's adds nothing to what succeeded. -/
theorem mem_append {ws : List Verdict} {v : Verdict} (empty : ∀ a : v.1.Yield, v.2 = some a → v.1 = .announce)
    {stage : Stage} {a : stage.Yield} (other : stage ≠ .announce) :
    ⟨stage, some a⟩ ∈ ws ++ [v] ↔ (⟨stage, some a⟩ : Verdict) ∈ ws := by
  rw [List.mem_append, List.mem_singleton, or_iff_left]
  rintro rfl
  exact other (empty a rfl)

theorem success_append {ws : List Verdict} {v : Verdict}
    (empty : ∀ a : v.1.Yield, v.2 = some a → v.1 = .announce) : Success g (ws ++ [v]) ↔ Success g ws := by
  simp [Success, mem_append empty]

theorem success_of_up (course : Course g vs .up) : Success g vs ∧ PowerRead g vs := by
  obtain ⟨ws, before, rfl⟩ := course.of_up
  have empty : ∀ a : Stage.announce.Yield, some () = some a → Stage.announce = .announce := fun _ _ => rfl
  obtain ⟨success, read⟩ := before.follows.success
  refine ⟨(success_append empty).2 success, fun requires => ?_⟩
  obtain ⟨adapter, reading, mem⟩ := read requires
  exact ⟨adapter, reading, List.mem_append_left _ mem⟩

theorem not_failure_of_up (course : Course g vs .up) : ¬ Failure g vs := by
  obtain ⟨ws, before, rfl⟩ := course.of_up
  have empty : ∀ a : Stage.announce.Yield, some () = some a → Stage.announce = .announce := fun _ _ => rfl
  rintro (⟨failed, mem⟩ | ⟨requires, batch, read, unnamed⟩)
  · rcases List.mem_append.1 mem with mem | last
    · exact absurd (before.isSome_of_rising _ mem) (by simp)
    · have same := congrArg (fun v : Verdict => v.2.isSome) (List.mem_singleton.1 last)
      exact absurd same (by simp)
  · exact before.follows.adapter_ne_none requires ((mem_append empty (by simp)).1 read) unnamed

theorem failure_of_down (course : Course g vs .down) : Failure g vs := by
  obtain ⟨ws, stage, -, rfl | ⟨requires, -, batch, unnamed, rfl⟩⟩ := course.of_down
  · exact .inl ⟨stage, List.mem_append_right _ List.mem_cons_self⟩
  · exact .inr ⟨requires, batch, List.mem_append_right _ List.mem_cons_self, unnamed⟩

/-- Nothing that succeeds altogether fails, as the reading of power does not. -/
theorem not_success_of_down (course : Course g vs .down) (steady : ∀ v ∈ vs, v.2 = none → v.1.canFail) :
    ¬ Success g vs := by
  intro success
  obtain ⟨ws, stage, before, rfl | ⟨requires, rfl, batch, unnamed, rfl⟩⟩ := course.of_down
  · have success : Success g ws := (success_append fun a some => absurd some (by simp)).1 success
    have could := steady ⟨stage, none⟩ (List.mem_append_right _ List.mem_cons_self) rfl
    rcases before.of_success success with rfl | ⟨adapter, rfl⟩ <;> exact absurd could (by simp [Stage.canFail])
  · obtain ⟨link, rfl⟩ := before
    exact absurd success (by simp [Success, requires])

end Course

/-! ## What a device says of its discovery -/

/-- How discovery ended, by an event that says so. -/
def Event.initialized? : Event → Option Bool
  | .initialized success => some success
  | _ => none

/-- What the events of a device say of its discovery from one record of it to the next. -/
structure Heralds (d : Device) (es : List Event) (e : Device) : Prop where
  /-- its end is told when it comes, and not again -/
  once : es.filterMap Event.initialized? = if d.reported = e.reported then [] else [e.initialized]
  reported : d.reported = true → e.reported = true
  kept : d.reported = true → e.initialized = d.initialized
  rise : e.initialized = true → d.initialized = true ∨ .initialized true ∈ es
  /-- the device is told to be usable only after its discovery is told to have succeeded -/
  order : ∀ before after, es = before ++ .usable true :: after →
    d.initialized = true ∨ .initialized true ∈ before

namespace Heralds

variable {d e f : Device} {es es' : List Event}

/-- Nothing is told of discovery. -/
theorem of_plain (plain : ∀ x ∈ es, x.initialized? = none ∧ x ≠ .usable true)
    (reported : e.reported = d.reported) (initialized : e.initialized = d.initialized) : Heralds d es e where
  once := by
    rw [if_pos reported.symm, List.filterMap_eq_nil_iff]
    exact fun x mem => (plain x mem).1
  reported was := reported.trans was
  kept _ := initialized
  rise lit := .inl (initialized.symm.trans lit)
  order before after same := by
    refine absurd rfl (plain (.usable true) ?_).2
    rw [same]
    exact List.mem_append_right _ List.mem_cons_self

theorem refl (d : Device) : Heralds d [] d := of_plain (by simp) rfl rfl

theorem append (first : Heralds d es e) (second : Heralds e es' f) : Heralds d (es ++ es') f where
  once := by
    rw [List.filterMap_append, first.once, second.once]
    by_cases told : d.reported = e.reported
    · rw [if_pos told, List.nil_append, told]
    · -- the end was told in the first part, so it stays what it was
      have fresh : d.reported = false := Bool.eq_false_iff.2 fun was => told (was.trans (first.reported was).symm)
      have ended : e.reported = true := by
        rw [fresh] at told
        simpa using Ne.symm told
      rw [if_neg told, if_pos (ended.trans (second.reported ended).symm), fresh, second.reported ended,
        second.kept ended]
      rfl
  reported was := second.reported (first.reported was)
  kept was := (second.kept (first.reported was)).trans (first.kept was)
  rise lit := by
    rcases second.rise lit with lit | told
    · exact (first.rise lit).imp_right (List.mem_append_left _)
    · exact .inr (List.mem_append_right _ told)
  order before after same := by
    rcases List.append_eq_append_iff.1 same with ⟨middle, rfl, rest⟩ | ⟨middle, part, rest⟩
    · -- the device is told to be usable in the second part
      rcases second.order middle after rest with lit | told
      · exact (first.rise lit).imp_right (List.mem_append_left _)
      · exact .inr (List.mem_append_right _ told)
    · cases middle with
      | nil =>
        rw [List.append_nil] at part
        subst part
        rcases second.order [] after rest.symm with lit | told
        · exact first.rise lit
        · exact absurd told (by simp)
      | cons x middle =>
        obtain ⟨rfl, -⟩ := List.cons.inj rest
        exact first.order before middle part

end Heralds

/-- The events of a batch say nothing of discovery. -/
theorem Device.plain_merge (d : Device) (b : PropertyBatch) :
    ∀ x ∈ (d.merge b).eventsFor (d.changes (d.merge b)), x.initialized? = none ∧ x ≠ .usable true := by
  intro x mem
  obtain ⟨p, mem, carries⟩ := List.mem_filterMap.1 mem
  cases p with
  | usable =>
    have changed : (d.changes (d.merge b)).has .usable = true := (List.mem_filter.1 mem).2
    exact absurd changed (by simp [Changes.has, changes, merge])
  | address =>
    obtain ⟨a, -, rfl⟩ := Option.map_eq_some_iff.1 carries
    exact ⟨rfl, by simp⟩
  | name | rssi | capabilities | connected =>
    obtain rfl := Option.some.inj carries
    exact ⟨rfl, by simp⟩

/-- **What a device says of itself says how its discovery stands.** -/
theorem Device.Voices.heralds {d e : Device} {es : List Event} (voices : d.Voices es e)
    (reported : d.initialized = true → d.reported = true)
    (upright : d.provisioned.isSome → d.initialized = true) : Heralds d es e := by
  cases voices with
  | silent appearance ended =>
    exact .of_plain (by simp) ended.symm (congrArg Appearance.initialized appearance).symm
  | edit edit =>
    cases edit with
    | bus | power => exact .of_plain (by simp) rfl rfl
    | batch b =>
      refine .of_plain (d.plain_merge b) ?_ ?_
      all_goals
        split
        · rw [survey_eq]
          rfl
        · rfl
    | fetch b =>
      refine .of_plain (d.plain_merge b) ?_ ?_
      all_goals
        rw [survey_eq]
        rfl
    | report success first =>
      have dark : d.initialized = false :=
        Bool.eq_false_iff.2 fun lit => absurd (reported lit) (by simp [first])
      refine ⟨?_, fun _ => rfl, fun was => absurd was (by simp [first]), ?_, ?_⟩
      · simp [Event.initialized?, first, dark]
      · simp [dark]
      · intro before after same
        exact absurd (same ▸ List.mem_append_right before List.mem_cons_self :
          Event.usable true ∈ [Event.initialized success]) (by simp)
  | usable usable other due =>
    refine ⟨by simp [Event.initialized?], id, fun _ => rfl, fun lit => .inl lit, ?_⟩
    intro before after same
    have mem : Event.usable true ∈ [Event.usable usable] := by
      rw [same]
      exact List.mem_append_right before List.mem_cons_self
    obtain rfl : true = usable := Event.usable.inj (List.mem_singleton.1 mem)
    exact .inl ((due rfl).elim Core.initialized_of_ready upright)

namespace Core

variable {id : DeviceId} {name : String} {c : Core} {d : Device} {es : List Event}

/-- Events say how the discovery of a device goes on from one record of it to the next. When the device
is gone it is the last record of it that counts. -/
def Told (d : Device) (es : List Event) (x : Option Device) : Prop :=
  ∃ e, (∀ y, x = some y → y = e) ∧ Heralds d es e

/-- The next thing that a device says goes with what it said before. -/
theorem Upright.adds (upright : c.Upright) (reported : c.Reported) : c.Adds (Told d) id := by
  intro es es' y told utters
  generalize found : c.devices id = x at told utters
  obtain ⟨e, last, heralds⟩ := told
  cases utters with
  | @voices _ e' f voices =>
    obtain rfl := last e' rfl
    have adopted : e'.provisioned.isSome → e'.initialized = true := by
      intro provisioned
      by_contra dark
      exact absurd provisioned (by simp [(upright.low id e' found (Bool.eq_false_iff.2 dark)).2])
    exact ⟨f, fun y same => (Option.some.inj same).symm,
      heralds.append (voices.heralds (reported id e' found) adopted)⟩
  | gone => exact ⟨e, fun y there => absurd there (by simp), by rwa [List.append_nil]⟩

end Core

/-! ## The power of an adapter -/

/-- The reading of an adapter's power fails. -/
def Host.PowerFails (h : Host) (adapter : String) (progress : Progress) : Prop :=
  match h.transport with
  | .stub s => s.pass progress "powered" adapter = .fails ∨
      s.pass progress "powered" adapter = .passes ∧ (s.adapters.get? adapter).join = none
  | .peer p => ∃ q a q' failure, ({ path := adapter } : AdapterView).load p = (q, .value a) ∧
      a.current q = (q', .failed failure)
  | .unreachable => False

/-- A reading that fails counts as off. -/
theorem Host.finding_of_powerFails {h : Host} {adapter : String} {progress : Progress}
    (fails : h.PowerFails adapter progress) (path : String) :
    ∃ heard, h.finding path (.readPower adapter) progress = .yields { on := false, heard } := by
  rw [PowerFails] at fails
  simp only [finding]
  cases transport : h.transport with
  | stub s =>
    rw [transport] at fails
    refine ⟨true, ?_⟩
    simp only [Stub.attempt, Stage.call?]
    rcases fails with fails | ⟨passes, none⟩
    · rw [fails]
      rfl
    · rw [passes]
      simp [Stub.find, none]
  | peer p =>
    rw [transport] at fails
    obtain ⟨q, a, q', failure, loaded, failed⟩ := fails
    exact ⟨a.heard, by simp only [Peer.attempt, Peer.findPower, loaded, failed]⟩
  | unreachable =>
    rw [transport] at fails
    exact fails.elim

namespace Bench

variable {id : DeviceId} {vs : List Verdict} {b c : Bench} {d : Device} {name : String} {es : List Event}

/-! ## How discovery ends -/

/-- A device is initialized exactly when all stages of its discovery succeeded, and has reported its failure
exactly when one of them did not. -/
structure Concludes (id : DeviceId) (vs : List Verdict) (b : Bench) (d : Device) : Prop where
  /-- where the device is initialized all stages succeeded, the reading of the adapter's power among them -/
  sound : d.initialized = true → Success d.generation vs ∧ PowerRead d.generation vs
  /-- when everything is there it remains for the run to say so, in its next turn -/
  complete : Success d.generation vs → PowerRead d.generation vs → d.initialized = true ∨
    d.reported = false ∧ ∀ m c run r, b.make m = some c → b.pursued? m = some run →
      b.host.run? run = some r → r.device = id →
      ∃ e, c.host.device? id = some e ∧ e.reported = true ∧ e.initialized = true
  /-- the failure is reported just when a stage has failed -/
  failed : d.reported = true ∧ d.initialized = false ↔ Failure d.generation vs
  /-- the reading of power does not fail discovery, it counts as off -/
  unpowered : ∀ m c run r adapter progress, b.make m = some c → b.pursued? m = some run →
    b.host.run? run = some r → r.device = id → r.phase = .bringUp (.readPower adapter) progress →
    progress ≠ .stuck → b.host.PowerFails adapter progress →
    (∃ heard, b.verdicts id m = [⟨.readPower adapter, some { on := false, heard }⟩]) ∧
      ∃ e, c.host.device? id = some e ∧ e.adapter = .resolved false ∧ e.reported = false

/-- A device whose discovery failed stays uninitialized and unusable, with no profile of its own; it submits
none, and `connect` on it is refused without a call. -/
structure Barred (id : DeviceId) (b : Bench) : Prop where
  /-- the end of discovery was reported, and the device is neither initialized nor usable nor provisioned -/
  low : ∀ d, b.host.device? id = some d →
    d.reported = true ∧ d.initialized = false ∧ d.usable = false ∧ d.provisioned = none
  submitsNone : ∀ p c, ¬ Submits id p b c
  /-- `connect` ends in `NotInitialized`, whenever it goes on, and the host does nothing for it -/
  refused : ∀ d s p r, b.host.device? id = some d → b.resumed? s = some p → p.device = id →
    p.operation = .connect r →
    (b.doStep s).1.host = b.host ∧ (b.doStep s).2.outcome? = some (.error .notInitialized)

/-- What a receiver was told of the discovery of a device: `Initialized` at most once, when discovery ended and
with its result; and `Usable(true)` only after `Initialized(true)`. -/
structure Announced (id : DeviceId) (d : Device) (told : List Event) (c : Bench) : Prop where
  once : (told.filterMap Event.initialized?).length ≤ 1
  /-- `Initialized` is told if discovery has ended since, with the result that the device shows -/
  apt : ∀ e, c.host.device? id = some e →
    told.filterMap Event.initialized? = if d.reported = e.reported then [] else [e.initialized]
  /-- nobody is told that the device is usable before that -/
  order : ∀ before after, told = before ++ .usable true :: after →
    d.initialized = true ∨ .initialized true ∈ before

/-- Failure is for good. -/
theorem barred_of_failed (reached : Reachable free b) (failed : b.host.core.Failed id) : Barred id b where
  low d found := by
    obtain ⟨reported, dark⟩ := failed.2 d found
    exact ⟨reported, dark, reached.upright.low id d found dark⟩
  submitsNone p c submits := by
    obtain ⟨-, -, d, -, found, -, may, -⟩ := (submits.step reached).submits
    exact absurd may.initialized (by simp [(failed.2 d found).2])
  refused d s p r found resumed device connects :=
    connect_of_dark reached.unopened resumed connects (device ▸ found) (failed.2 d found).2

/-- A receiver is told of the discovery of its device. -/
theorem announced_of_hears (reached : Reachable free b)
    (obtained : b.host.receiver? name = some { name, device := id })
    (found : b.host.device? id = some d) (heard : Hears name b es c) :
    ∃ r, c.host.receiver? name = some r ∧ r.device = id ∧ Announced id d (es ++ r.events) c := by
  suffices gathers : c.host.core.Gathers name id (Core.Told d) es by
    obtain ⟨-, r, there, device, e, last, heralds⟩ := gathers
    refine ⟨r, there, device, ?_, fun x found' => ?_, heralds.order⟩
    · rw [heralds.once]
      split <;> simp
    · obtain rfl := last x found'
      exact heralds.once
  induction heard with
  | refl =>
    refine ⟨reached.upkeep.known id d found, _, obtained, rfl, d, fun y same => ?_, .refl d⟩
    exact Option.some.inj (same.symm.trans found)
  | @move es c c' m heard kept made ih =>
    have reached' := reached.trans heard.reaches
    refine gathers_make (P := fun c => c.Upkeep ∧ c.Upright ∧ c.Reported) reached' kept made ?_ ?_ ?_ ih
    · rintro c s c' step ⟨upkeep, upright, reported⟩
      exact ⟨step.upkeep upkeep, step.upright upkeep upright, step.reported reported⟩
    · rintro c ⟨-, upright, reported⟩
      exact upright.adds reported
    · exact ⟨reached'.upkeep, reached'.upright, reached'.reported⟩

/-- A move that takes up a run is a turn of the run. -/
theorem turns_of_make {m : Move} {run : RunId} {r : Run} (reached : Reachable free b)
    (made : b.make m = some c) (pursued : b.pursued? m = some run) (running : b.host.run? run = some r)
    (found : b.host.device? r.device = some d) :
    ∃ next e, Turns r d (b.host.verdict? r) next e ∧ c.host.Became r.device next e := by
  obtain ⟨ds, fewer, did⟩ := pursue_of_make made pursued
  have upkeep : (b.host.withAgenda ds).core.Upkeep :=
    { reached.upkeep with due := fun duty mem => reached.upkeep.due duty (fewer mem) }
  rw [did]
  exact Host.turns_pursue upkeep running found

/-- A run that is in its last stage says that discovery succeeded. -/
theorem initialized_of_announce {m : Move} {run : RunId} {r : Run} (reached : Reachable free b)
    (made : b.make m = some c) (pursued : b.pursued? m = some run) (running : b.host.run? run = some r)
    (found : b.host.device? r.device = some d) (phase : r.phase = .bringUp .announce .fresh)
    (reported : d.reported = false) (bus : b.host.transport ≠ .unreachable) :
    ∃ e, c.host.device? r.device = some e ∧ e.reported = true ∧ e.initialized = true := by
  have yields : b.host.finding d.path .announce .fresh = .yields () := by
    rw [Host.finding]
    split
    · rfl
    · rfl
    · next gone => exact absurd gone bus
  obtain ⟨next, e, turns, there, -⟩ := turns_of_make reached made pursued running found
  rw [Host.verdict?_of_bringUp found phase (by simp), yields] at turns
  cases turns with
  | yields _ advances =>
    cases advances
    exact ⟨_, there, by simp [Device.endDiscovery, reported]⟩

/-- Where the power of an adapter cannot be read the device takes it to be off. -/
theorem unpowered_of_fails {m : Move} {run : RunId} {r : Run} {adapter : String} {progress : Progress}
    (reached : Reachable free b) (made : b.make m = some c) (pursued : b.pursued? m = some run)
    (running : b.host.run? run = some r) (found : b.host.device? r.device = some d)
    (phase : r.phase = .bringUp (.readPower adapter) progress) (unstuck : progress ≠ .stuck)
    (fails : b.host.PowerFails adapter progress) :
    (∃ heard, b.verdicts r.device m = [⟨.readPower adapter, some { on := false, heard }⟩]) ∧
      c.host.device? r.device = some { d with adapter := .resolved false } := by
  obtain ⟨heard, yields⟩ := Host.finding_of_powerFails fails d.path
  have verdict : b.host.verdict? r = some ⟨.readPower adapter, some { on := false, heard }⟩ := by
    rw [Host.verdict?_of_bringUp found phase unstuck, yields]
    rfl
  refine ⟨⟨heard, ?_⟩, ?_⟩
  · rw [verdicts, pursued, Option.bind_some, Host.verdictOf?_self running, verdict]
    rfl
  · obtain ⟨next, e, turns, there, -⟩ := turns_of_make reached made pursued running found
    rw [verdict] at turns
    cases turns with
    | yields _ advances =>
      cases advances
      exact there

/-- How the discovery of a device ends is a matter of its verdicts. -/
theorem Discovers.concludes (discovers : Discovers id vs b) (found : b.host.device? id = some d) :
    Concludes id vs b d := by
  have discovered := discovers.discovered
  obtain ⟨status, course, shows_, -, allows⟩ := discovered.stands d found
  refine ⟨fun lit => ?_, fun success read => ?_, ?_, ?_⟩
  · cases status with
    | rising stage => exact absurd lit (by simp [shows_.2])
    | up => exact course.success_of_up
    | down => exact absurd lit (by simp [shows_.2])
  · cases status with
    | up => exact .inl shows_.2
    | down => exact absurd success (course.not_success_of_down discovered.steady)
    | rising stage =>
      refine .inr ⟨shows_.1, ?_⟩
      rintro m c run r made pursued running rfl
      obtain ⟨progress, phase, fresh⟩ := allows (run, r) (Table.mem_entries_of_get? running) rfl
      rcases course.follows.of_success success with rfl | ⟨adapter, rfl⟩
      · obtain rfl := fresh rfl
        refine initialized_of_announce discovers.reachable made pursued running found phase shows_.1 fun gone => ?_
        exact absurd (discovered.unreachable gone _ success.1) (by simp)
      · exact absurd read course.follows.not_powerRead
  · cases status with
    | rising stage =>
      refine ⟨fun ended => absurd ended.1 (by simp [shows_.1]), fun failure => ?_⟩
      exact absurd failure course.not_failure_of_rising
    | up =>
      refine ⟨fun ended => absurd ended.2 (by simp [shows_.2]), fun failure => ?_⟩
      exact absurd failure course.not_failure_of_up
    | down => exact ⟨fun _ => course.failure_of_down, fun _ => shows_⟩
  · rintro m c run r adapter progress made pursued running rfl phase unstuck fails
    obtain ⟨verdict, there⟩ := unpowered_of_fails discovers.reachable made pursued running found phase unstuck fails
    refine ⟨verdict, _, there, rfl, ?_⟩
    cases status with
    | rising stage => exact shows_.1
    | up =>
      have follows := allows (run, r) (Table.mem_entries_of_get? running) rfl
      exact absurd (phase.symm.trans follows) (by simp)
    | down => exact (allows (run, r) (Table.mem_entries_of_get? running) rfl).elim

/-- **Initialization is reported once, and failure is final.** `vs` lists what the calls of a device's run of
discovery came to (`Discovers`). The device is initialized exactly when all of its stages succeeded, and its
discovery has failed exactly when one of them did not (`Concludes`). After a failure the device stays as it is
in every later run: never usable, without a provisioned profile, and refusing to connect (`Barred`). Whoever
receives its events from now on is told `Initialized` once, when discovery ends, with that result and no other,
and is not told before that the device is usable (`Announced`). -/
theorem initialized_once (discovers : Discovers id vs b) (there : b.host.device? id = some d) :
    Concludes id vs b d ∧
    (Failure d.generation vs → ∀ c, Reaches free b c → Barred id c) ∧
    ∀ name es c, b.host.receiver? name = some { name, device := id } → Hears name b es c →
      ∃ r, c.host.receiver? name = some r ∧ r.device = id ∧ Announced id d (es ++ r.events) c := by
  have reached := discovers.reachable
  have concludes := discovers.concludes there
  refine ⟨concludes, fun failure c later => ?_, fun name es c obtained heard => ?_⟩
  · have failed : b.host.core.Failed id := by
      refine ⟨reached.upkeep.known id d there, fun d' there' => ?_⟩
      obtain rfl := Option.some.inj (there.symm.trans there')
      exact concludes.failed.2 failure
    refine barred_of_failed (reached.trans later) ?_
    exact (later.runs reached.pursuitsLast).preserves (fun _ _ _ failed step => step.failed failed) failed
  · exact announced_of_hears reached obtained there heard

/-- A bench on which no device can be read. -/
def blind : Bench := opening .bluez5 (.stub { offering "1103-0" with failing := ["fetch"] }) true none

/-- Its only device is brought up all the same. -/
def bringUp : List Move := [.step (.newDevice "D" "/d" none {}), .step (.run "D")]

def unreadable (ms : List Move) : Bench := blind.makeAll (bringUp ++ ms)

theorem discovers_unreadable (ms : List Move) :
    Discovers 0 (blind.verdictsAll 0 (bringUp ++ ms)) (unreadable ms) := by
  have opened : Discovers 0 [] blind := .opening ..
  exact discovers_makeAll opened (bringUp ++ ms)

theorem hears_unreadable :
    Hears "D" (unreadable []) [] (unreadable [.poll 1, .act, .act, .act, .act]) := by
  have acquired : Hears "D" (unreadable []) [] (unreadable [.poll 1]) :=
    Hears.refl.move (.poll 1) (by decide) (by rfl)
  have bound : Hears "D" (unreadable []) [] (unreadable [.poll 1, .act]) :=
    acquired.move .act (by decide) (by rfl)
  have subscribed : Hears "D" (unreadable []) [] (unreadable [.poll 1, .act, .act]) :=
    bound.move .act (by decide) (by rfl)
  have assessed : Hears "D" (unreadable []) [] (unreadable [.poll 1, .act, .act, .act]) :=
    subscribed.move .act (by decide) (by rfl)
  exact assessed.move .act (by decide) (by rfl)

/-- The properties of a device cannot be read: a receiver is told that discovery failed and nothing else, and
the device is barred for good. -/
theorem initialized_once_unreadable :
    (∃ d r, (unreadable []).host.device? 0 = some d ∧ d.reported = false ∧
      (unreadable [.poll 1, .act, .act, .act, .act]).host.receiver? "D" = some r ∧
      r.events = [.initialized false] ∧
      Announced 0 d ([] ++ r.events) (unreadable [.poll 1, .act, .act, .act, .act])) ∧
    ∀ c, Reaches free (unreadable [.poll 1, .act, .act, .act, .act]) c → Barred 0 c := by
  refine ⟨?_, ?_⟩
  · have there : (unreadable []).host.device? 0 = some (((unreadable []).host.device? 0).get (by rfl)) :=
      (Option.some_get _).symm
    obtain ⟨r, looked, -, announced⟩ :=
      (initialized_once (discovers_unreadable []) there).2.2 "D" [] _ (by rfl) hears_unreadable
    refine ⟨_, r, there, by rfl, looked, ?_, announced⟩
    obtain rfl := Option.some.inj ((Option.some_get (by rfl)).trans looked)
    rfl
  · have there : (unreadable [.poll 1, .act, .act, .act, .act]).host.device? 0 =
        some (((unreadable [.poll 1, .act, .act, .act, .act]).host.device? 0).get (by rfl)) :=
      (Option.some_get _).symm
    have verdicts : blind.verdictsAll 0 (bringUp ++ [.poll 1, .act, .act, .act, .act]) =
        [⟨.acquire, some ()⟩, ⟨.bind, some ()⟩, ⟨.subscribe, some .live⟩, ⟨.fetch, none⟩] := by rfl
    refine (initialized_once (discovers_unreadable _) there).2.1 (.inl ⟨.fetch, ?_⟩)
    rw [verdicts]
    simp

end Bench

end Piconet
