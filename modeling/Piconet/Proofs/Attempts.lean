import Mathlib.Data.List.Induction
import Piconet.Proofs.Listening
import Piconet.Proofs.Provisioning
import Piconet.Proofs.Usability

/-!
# Attempts that are due

A device that lacks nothing but a profile submits one the next time it is assessed, unless the
registry is still being read. The device keeps no note of a submission that it puts off for that
reason. It is made up for by the registry, which announces to everybody that it is complete, also to
devices for which nothing new is stored.

So a device without an attempt, for which one is due, has an assessment before it or has still to
hear that the registry is complete (`Core.Mindful`). When nobody is being notified there is no such
device.
-/

namespace Piconet

variable {law : Core → Registry.Request → Prop} {c c' : Core} {s : Option (DeviceId × Profile)}
  {id : DeviceId} {d e : Device}

/-- Only a request that announces it completes the registry. -/
theorem Registry.loaded_of_handle {r r' : Registry} {q : Request} {n : Option Notice}
    (handled : r.handle q = (r', n)) (complete : r'.loaded = true) :
    r.loaded = true ∨ n = some .loaded := by
  cases q with
  | insert p =>
    obtain ⟨rfl, -⟩ := Prod.mk.inj handled
    exact .inl complete
  | update p =>
    simp only [handle] at handled
    split at handled
    all_goals
      obtain ⟨rfl, -⟩ := Prod.mk.inj handled
      exact .inl complete
  | remove uuid =>
    simp only [handle] at handled
    split at handled
    all_goals
      obtain ⟨rfl, -⟩ := Prod.mk.inj handled
      exact .inl complete
  | submit p =>
    simp only [handle] at handled
    split at handled
    all_goals
      obtain ⟨rfl, -⟩ := Prod.mk.inj handled
      exact .inl complete
  | markLoaded =>
    simp only [handle] at handled
    split at handled
    · next loaded => exact .inl loaded
    · exact .inr (Prod.mk.inj handled).2.symm
  | reject reason =>
    obtain ⟨rfl, -⟩ := Prod.mk.inj handled
    exact .inl complete

/-! ## Attempts that are not made yet -/

/-- A device lacks nothing but a profile, and has not tried to have one. -/
def Device.Untried (d : Device) : Prop := d.gate.decision = .provision ∧ d.attempted = false

/-- A device that has not tried to have a profile is due to submit one when the registry is
complete. -/
theorem Device.Untried.due (untried : d.Untried) (own : d.OwnIsCandidate) :
    d.dueProfileName? true ≠ none := by
  obtain ⟨lacks, fresh⟩ := untried
  obtain ⟨ready, alone, nap⟩ := of_provision lacks
  have unprovisioned : d.provisioned = none := by
    apply Option.eq_none_iff_forall_ne_some.2
    intro u submitted
    have tracked := own u submitted
    rw [alone] at tracked
    exact absurd tracked (by simp)
  have named : d.name.isSome := by
    simp only [gate, Gate.ready, Bool.and_eq_true] at ready
    exact ready.1.1.1.2
  rw [dueProfileName?, fresh, unprovisioned, alone, nap]
  exact Option.isSome_iff_ne_none.1 named

namespace Core

/-- A device is still to be assessed, or has still to hear that the registry is complete. -/
def Awaits (id : DeviceId) (c : Core) : Prop :=
  .reassess id ∈ c.agenda ∨ ∃ ls, .announce .loaded ls ∈ c.agenda ∧ .device id ∈ ls

/-- A device that is due to submit a profile is still to be assessed. -/
def Mindful (c : Core) : Prop :=
  ∀ id d, c.devices id = some d → d.Untried → c.registry.loaded = true → c.Awaits id

theorem mindful_opening (isLoaded : Bool) (naming : Naming) : (opening isLoaded naming).Mindful := by
  intro id d found
  exact absurd found (by simp [opening])

theorem not_awaits_of_quiet (quiet : c.isQuiet) : ¬ c.Awaits id := by
  rintro (due | ⟨ls, due, -⟩)
  · exact absurd (about_of_quiet quiet due) (by simp [Duty.about?])
  · exact absurd (List.all_eq_true.1 quiet _ due) (by simp [Duty.isPursuit])

/-! ## One step -/

/-- A step completes the registry only by telling all devices. -/
theorem Step.completes (step : Step law c s c') (listening : c.Listening)
    (complete : c'.registry.loaded = true) :
    c.registry.loaded = true ∨
      ∃ ls, .announce .loaded ls ∈ c'.agenda ∧ ∀ id d, c.devices id = some d → .device id ∈ ls := by
  cases step with
  | requestUnheard q r isOpen lawful handled =>
    rcases Registry.loaded_of_handle handled complete with loaded | told
    · exact .inl loaded
    · exact absurd told (by simp)
  | request q r n lives isOpen lawful handled living =>
    rcases Registry.loaded_of_handle handled complete with loaded | told
    · exact .inl loaded
    · obtain rfl := Option.some.inj told
      refine .inr ⟨_, List.mem_cons_self, ?_⟩
      intro id d found
      exact mem_living living found (listening.listens id d found)
  | _ => exact .inl complete

/-- A device awaits its assessment until it is assessed. -/
theorem Step.awaits (step : Step law c s c') (found : c.devices id = some d)
    (there : c'.devices id = some e) (awaits : c.Awaits id) :
    c'.Awaits id ∨ c.agenda.head? = some (.reassess id) := by
  rcases awaits with due | ⟨ls, due, listens⟩
  · exact (step.stays due rfl).imp_left .inl
  · rcases step.hears due listens found there with ⟨ls', still, listens⟩ | ⟨-, concerned⟩
    · exact .inl (.inr ⟨ls', still, listens⟩)
    · exact .inl (.inl (concerned rfl))

/-- A device that is assessed while a profile is due submits one. -/
theorem Step.tries (step : Step law c s c') (own : ∀ id d, c.devices id = some d → d.OwnIsCandidate)
    (first : c.agenda.head? = some (.reassess id)) (found : c.devices id = some d)
    (untried : d.Untried) (loaded : c.registry.loaded = true) (there : c'.devices id = some e) :
    .reassess id ∈ c'.agenda ∨ e.attempted = true := by
  obtain ⟨ds, next⟩ := List.head?_eq_some_iff.1 first
  have due : .reassess id ∈ c.agenda := by
    rw [next]
    exact List.mem_cons_self
  have turn {duty : Duty} {ds' : List Duty} (next' : c.agenda = duty :: ds') :
      duty = .reassess id := (List.cons.inj (next'.symm.trans next)).1
  cases step with
  | defer ds' quiet => exact absurd (about_of_quiet quiet due) (by simp [Duty.about?])
  | summon | request => exact .inl (List.mem_cons_of_mem _ due)
  | turn duty ds' ws next' isWatch =>
    rw [turn next'] at isWatch
    exact absurd isWatch (by simp [Duty.isWatch])
  | late duty j ds' next' about gone =>
    rw [turn next'] at about
    obtain rfl : id = j := by simpa using about
    exact absurd (gone.symm.trans found) (by simp)
  | decide j x ds' usable next' found' decided =>
    obtain rfl := Duty.reassess.inj (turn next')
    obtain rfl := Option.some.inj (found.symm.trans found')
    exact absurd (untried.1.symm.trans decided) (by simp)
  | concede j x ds' next' found' lacks none =>
    obtain rfl := Duty.reassess.inj (turn next')
    obtain rfl := Option.some.inj (found.symm.trans found')
    rw [loaded] at none
    exact absurd none (untried.due (own _ _ found))
  | turnedDown j x ds' name why next' =>
    obtain rfl := Duty.reassess.inj (turn next')
    rcases eq_of_update_some there with ⟨-, rfl⟩ | ⟨other, -⟩
    · exact .inr rfl
    · exact absurd rfl other
  | handedIn j x ds' name lives next' =>
    obtain rfl := Duty.reassess.inj (turn next')
    rcases eq_of_update_some there with ⟨-, rfl⟩ | ⟨other, -⟩
    · exact .inr rfl
    · exact absurd rfl other
  | heardByAll _ _ next' | watched _ _ _ _ _ next' | unmoved _ _ _ _ next'
  | moved _ _ _ _ _ _ next' | adopt _ _ _ _ next' | conclude _ _ _ next' =>
    exact absurd (turn next') (by simp)
  | _ => exact .inl due

/-- What a step does to a device that comes to be due for a profile has it assessed. -/
theorem Revises.awaits (revises : c.Revises c' id d e) (upkeep : c.Upkeep)
    (found : c.devices id = some d) (before : ¬ d.Untried) (after : e.Untried) :
    .reassess id ∈ c'.agenda := by
  cases revises with
  | same | start | session | decide | conclude => exact absurd after before
  | edit next quiet edit up kept =>
    rw [kept, next]
    exact List.mem_cons_self
  | power on quiet rising =>
    -- a run that looks for the adapter has not brought its device up
    have low := upkeep.rising _ (Table.mem_entries_of_get? rising) rfl d found
    have ready := (Device.of_provision after.1).1
    simp [Device.gate, Gate.ready, low] at ready
  | hear next hears kept =>
    rw [kept]
    exact List.mem_cons_self
  | turnedDown | handedIn => exact absurd after.2 (by simp)
  | adopt =>
    have alone := (Device.of_provision after.1).2.1
    exact absurd (Device.mem_track.2 (.inl rfl)) (List.eq_nil_iff_forall_not_mem.1 alone _)

/-- **No step forgets an attempt that is due.** -/
theorem Step.mindful (step : Step law c s c') (upkeep : c.Upkeep) (listening : c.Listening)
    (own : ∀ id d, c.devices id = some d → d.OwnIsCandidate) (mindful : c.Mindful) :
    c'.Mindful := by
  intro id e there untried complete
  rcases step.origin there with ⟨d, found, revises⟩ | ⟨-, -, -, path, g, t, rfl⟩
  · rcases step.completes listening complete with loaded | ⟨ls, told, all⟩
    · by_cases before : d.Untried
      · rcases step.awaits found there (mindful id d found before loaded) with awaits | first
        · exact awaits
        · rcases step.tries own first found before loaded there with due | attempted
          · exact .inl due
          · exact absurd attempted (by simp [untried.2])
      · exact .inl (revises.awaits upkeep found before untried)
    · exact .inr ⟨ls, told, all id d found⟩
  · -- a new device is not initialized
    have ready := (Device.of_provision untried.1).1
    simp [Device.gate, Gate.ready, Device.fresh] at ready

/-! ## Where attempts come from -/

/-- The attempt of a device was made before the step, or the step is one in which the device submits
a profile. -/
theorem Step.attempts (step : Step law c s c') (there : c'.devices id = some e)
    (attempted : e.attempted = true) :
    (∃ d, c.devices id = some d ∧ d.attempted = true) ∨ ∃ p, s = some (id, p) := by
  -- a device that is changed in something else has made its attempt before
  have kept {j : DeviceId} {d x : Device} (found : c.devices j = some d)
      (there : Function.update c.devices j (some x) id = some e)
      (same : x.attempted = d.attempted) :
      ∃ d, c.devices id = some d ∧ d.attempted = true := by
    rcases eq_of_update_some there with ⟨rfl, rfl⟩ | ⟨-, kept⟩
    · exact ⟨d, found, by rw [← same, attempted]⟩
    · exact ⟨e, kept, attempted⟩
  cases step with
  | create path g t =>
    rcases eq_of_update_some there with ⟨-, rfl⟩ | ⟨-, kept⟩
    · exact absurd attempted (by simp [Device.fresh])
    · exact .inl ⟨e, kept, attempted⟩
  | destroy j =>
    rcases eq_of_update there with ⟨-, gone⟩ | ⟨-, kept⟩
    · exact absurd gone (by simp)
    · exact .inl ⟨e, kept, attempted⟩
  | startRun j d found first => exact .inl (kept found there rfl)
  | session j d s found => exact .inl (kept found there rfl)
  | edit j d x es ds next quiet found edit => exact .inl (kept found there edit.kept.2.1)
  | findPower run j d on quiet found => exact .inl (kept found there rfl)
  | moved n j ls ds d x next found hears =>
    refine .inl (kept found there ?_)
    rw [Device.hear_eq hears]
  | decide j d ds usable next found => exact .inl (kept found there rfl)
  | adopt j d uuid ds next found =>
    refine .inl (kept found there ?_)
    rw [Device.track_eq]
  | conclude j d ds next found => exact .inl (kept found there rfl)
  | turnedDown j d ds name why next =>
    rcases eq_of_update_some there with ⟨rfl, -⟩ | ⟨-, kept⟩
    · exact .inr ⟨_, rfl⟩
    · exact .inl ⟨e, kept, attempted⟩
  | handedIn j d ds name lives next =>
    rcases eq_of_update_some there with ⟨rfl, -⟩ | ⟨-, kept⟩
    · exact .inr ⟨_, rfl⟩
    · exact .inl ⟨e, kept, attempted⟩
  | _ => exact .inl ⟨e, there, attempted⟩

/-- No attempt is made in steps in which no device submits a profile. -/
theorem Steps.attempts (steps : Steps law c c') :
    ∀ e, c'.devices id = some e → e.attempted = true →
      ∃ d, c.devices id = some d ∧ d.attempted = true := by
  induction steps with
  | refl => exact fun e there attempted => ⟨e, there, attempted⟩
  | tail _ step ih =>
    intro e there attempted
    rcases step.attempts there attempted with ⟨x, found, attempted⟩ | ⟨p, submits⟩
    · exact ih x found attempted
    · exact absurd submits (by simp)

end Core

/-! ## All runs -/

namespace Bench

variable {b b' : Bench} {ms : List Move} {m : Move}

theorem Reachable.mindful (reached : Reachable law b) : b.host.core.Mindful := by
  suffices all : b.host.core.Upkeep ∧ b.host.core.Listening ∧
      (∀ id d, b.host.core.devices id = some d → d.OwnIsCandidate) ∧ b.host.core.Mindful from
    all.2.2.2
  refine reached.core_induction (P := fun c => c.Upkeep ∧ c.Listening ∧
    (∀ id d, c.devices id = some d → d.OwnIsCandidate) ∧ c.Mindful) ?_ ?_
  · intro isLoaded naming
    exact ⟨Core.upkeep_opening isLoaded naming, Core.listening_opening isLoaded naming,
      (Core.settled_opening isLoaded naming).own, Core.mindful_opening isLoaded naming⟩
  · rintro c s c' ⟨upkeep, listening, own, mindful⟩ step
    exact ⟨step.upkeep upkeep, step.listening upkeep listening, step.own own,
      step.mindful upkeep listening own mindful⟩

/-- In the course of some moves a device submits a profile. -/
def Attempts (b : Bench) (ms : List Move) (id : DeviceId) : Prop :=
  ∃ earlier later p, ms = earlier ++ .act :: later ∧
    Submits id p (b.makeAll earlier) (b.makeAll (earlier ++ [.act]))

/-- One more move is made, or nothing more can be done. -/
theorem makeAll_concat (b : Bench) (ms : List Move) (m : Move) :
    b.makeAll (ms ++ [m]) = b.makeAll ms ∨
      (b.makeAll ms).make m = some (b.makeAll (ms ++ [m])) := by
  induction ms generalizing b with
  | nil =>
    simp only [List.nil_append, makeAll]
    cases b.make m with
    | none => exact .inl rfl
    | some c => exact .inr rfl
  | cons first ms ih =>
    simp only [List.cons_append, makeAll]
    cases b.make first with
    | none => exact .inl rfl
    | some c => exact ih c

theorem Attempts.concat (attempts : b.Attempts ms id) (m : Move) : b.Attempts (ms ++ [m]) id := by
  obtain ⟨earlier, later, p, rfl, submits⟩ := attempts
  exact ⟨earlier, later ++ [m], p, by simp, submits⟩

/-- **An attempt that is noted was made**: the device submitted a profile in the course of the
run. -/
theorem attempts_of_attempted (reached : Reachable free b)
    (fresh : ∀ d, b.host.device? id = some d → d.attempted = false)
    (there : (b.makeAll ms).host.device? id = some e) (attempted : e.attempted = true) :
    b.Attempts ms id := by
  induction ms using List.reverseRecOn generalizing e with
  | nil => exact absurd attempted (by simp [fresh e there])
  | append_singleton ms m ih =>
    rcases makeAll_concat b ms m with same | made
    · rw [same] at there
      exact (ih there attempted).concat m
    · have reached' := reached.trans (reaches_makeAll b ms fun _ _ => trivial)
      rcases reached'.steps_make made with steps | ⟨rfl, s, step⟩
      · obtain ⟨d, found, attempted⟩ := steps.attempts e there attempted
        exact (ih found attempted).concat m
      · rcases step.attempts there attempted with ⟨d, found, attempted⟩ | ⟨p, rfl⟩
        · exact (ih found attempted).concat .act
        · obtain ⟨head, noted, -⟩ := step.submits
          exact ⟨ms, [], p, rfl, head, made, noted⟩

/-- **Provisioning is never forgotten.** Let an initialized access point have a name, an address, the bus and an
adapter that does not stand in the way, let the registry be loaded, and let nobody be being notified. If the
device has no candidate then it has made its attempt: the flag says so, and it did submit a profile somewhere in
the run. So a device that has made none is usable. This holds whatever came between, also if everything the
device needed was there before the registry was loaded. -/
theorem attempts_of_lacking {g : Generation} {t : Transport} {isLoaded : Bool}
    {manager : Option Timeouts} {naming : Naming} (run : (opening g t isLoaded manager naming).makeAll ms = b)
    (quiet : b.host.core.isQuiet) (there : b.host.device? id = some d)
    (initialized : d.initialized = true) (named : d.name.isSome) (addressed : d.address.isSome)
    (accessPoint : d.capabilities.nap = true) (bus : d.busPresent = true)
    (adapter : d.adapter = .notRequired ∨ d.adapter = .resolved true)
    (loaded : b.host.registry.loaded = true) :
    (d.candidates = [] → d.attempted = true ∧ (opening g t isLoaded manager naming).Attempts ms id) ∧
      (d.attempted = false ∨ ¬ (opening g t isLoaded manager naming).Attempts ms id →
        d.usable = true) := by
  have start : Reachable free (opening g t isLoaded manager naming) := ⟨g, t, isLoaded, manager, naming, .refl⟩
  have reached : Reachable free b := by
    rw [← run]
    exact start.trans (reaches_makeAll _ _ fun _ _ => trivial)
  have capable : d.capabilities.isEmpty = false := by simp [Capabilities.isEmpty, accessPoint]
  have lacking (alone : d.candidates = []) :
      d.attempted = true ∧ (opening g t isLoaded manager naming).Attempts ms id := by
    have power : d.adapter.ready = true := by rcases adapter with same | same <;> rw [same] <;> rfl
    have lacks : d.gate.decision = .provision := by
      simp [Gate.decision, Gate.ready, Device.gate, initialized, capable, named, bus, addressed,
        power, alone, accessPoint]
    have attempted : d.attempted = true := by
      rw [← Bool.not_eq_false]
      intro fresh
      exact Core.not_awaits_of_quiet quiet (reached.mindful id d there ⟨lacks, fresh⟩ loaded)
    refine ⟨attempted, attempts_of_attempted start ?_ (run ▸ there) attempted⟩
    intro e found
    exact absurd found (by simp [opening, Host.device?, Table.get?])
  refine ⟨lacking, ?_⟩
  intro untried
  have some : d.candidates ≠ [] := by
    intro alone
    obtain ⟨attempted, submits⟩ := lacking alone
    rcases untried with fresh | never
    · exact absurd attempted (by simp [fresh])
    · exact never submits
  exact (usable_iff reached quiet there).2
    ⟨initialized, capable, named, bus, addressed, adapter, some⟩

/-- A run in which an access point comes up before the registry is complete, which then turns its
profile down. -/
def comingLate : List Move :=
  ([.step (.command (.request (.reject (some "no")))), .step (.newDevice "D" "/d" none {}),
    .step (.run "D"), .poll 1] : List Move) ++ List.replicate 9 Move.act ++
  ([.step (.command (.request .markLoaded))] : List Move) ++ List.replicate 5 Move.act

/-- An access point comes up before the registry is loaded, and submits when it is; the profile is turned down,
and the attempt is made all the same. -/
theorem attempts_comingLate :
    ∃ d, ((opening .bluez4 (.stub (offering "1116-0")) false none).makeAll comingLate).host.device? 0 =
        some d ∧ d.candidates = [] ∧ d.attempted = true ∧
      (opening .bluez4 (.stub (offering "1116-0")) false none).Attempts comingLate 0 := by
  generalize same : (opening .bluez4 (.stub (offering "1116-0")) false none).makeAll comingLate = b
  have quiet : b.host.core.isQuiet := by rw [← same]; rfl
  have loaded : b.host.registry.loaded = true := by rw [← same]; rfl
  have there : b.host.device? 0 = some ((b.host.device? 0).get (by rw [← same]; rfl)) :=
    (Option.some_get _).symm
  have alone : ((b.host.device? 0).get (by rw [← same]; rfl)).candidates = [] := by
    subst same
    decide
  exact ⟨_, there, alone, (attempts_of_lacking same quiet there (by subst same; decide)
    (by subst same; decide) (by subst same; decide) (by subst same; decide) (by subst same; decide)
    (by subst same; decide) loaded).1 alone⟩

end Bench

end Piconet
