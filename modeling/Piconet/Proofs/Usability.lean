import Piconet.Proofs.Agenda

/-!
# Usability

Whether a device is usable is noted with it, and noted again when something it depends on may have
changed. Between such a change and the note the device has a duty on the agenda that makes up for
it (`Pends`): an assessment, or the conclusion of its attempt to have a profile. A conclusion goes
by the profile that the device submitted instead of its candidates, and is right all the same: the
submitted profile is a candidate, everything else was there when the attempt was made, and nothing
of it can change before the agenda is quiet.
-/

namespace Piconet

open Function (update)

variable {law : Core → Registry.Request → Prop} {c c' : Core} {s : Option (DeviceId × Profile)}
  {id : DeviceId} {d e : Device}

namespace Device

/-- Everything is there, a profile included. -/
def fit (d : Device) : Bool := d.gate.ready && !d.candidates.isEmpty

/-- What the gate settles by itself is whether everything is there. -/
theorem fit_of_decided {usable : Bool} (decided : d.gate.decision = .decided usable) :
    d.fit = usable := by
  have length : d.gate.candidates = d.candidates.length := rfl
  rw [Gate.decision] at decided
  rw [fit]
  split at decided
  · next unready =>
    obtain rfl := Gate.Decision.decided.inj decided
    rw [Bool.not_eq_true'] at unready
    rw [unready, Bool.false_and]
  · next ready =>
    rw [Bool.not_eq_true', Bool.not_eq_false] at ready
    split at decided
    · next some =>
      obtain rfl := Gate.Decision.decided.inj decided
      rw [ready, Bool.true_and, Bool.not_eq_true', List.isEmpty_eq_false_iff]
      exact List.ne_nil_of_length_pos some
    · next none =>
      split at decided
      · exact absurd decided (by simp)
      · obtain rfl := Gate.Decision.decided.inj decided
        rw [length, Nat.not_lt, Nat.le_zero, List.length_eq_zero_iff] at none
        rw [none, List.isEmpty_nil, Bool.not_true, Bool.and_false]

/-- Where nothing but a profile can be missing, the submitted profile settles it, if there are no
candidates without it. -/
theorem provisioned_eq_fit (ready : d.gate.ready) (own : ∀ u, d.provisioned = some u → u ∈ d.candidates)
    (alone : d.candidates = [] ∨ d.provisioned.isSome) : d.provisioned.isSome = d.fit := by
  rw [fit, ready, Bool.true_and]
  cases submitted : d.provisioned with
  | none =>
    rcases alone with none | some
    · rw [none]
      rfl
    · exact absurd some (by simp [submitted])
  | some u =>
    have mem := own u submitted
    rw [Option.isSome_some, eq_comm, Bool.not_eq_true', List.isEmpty_eq_false_iff]
    exact List.ne_nil_of_mem mem

/-- The profile that a device submitted is one of its candidates. -/
def OwnIsCandidate (d : Device) : Prop := ∀ u, d.provisioned = some u → u ∈ d.candidates

end Device

/-! ## What is still to be settled -/

/-- Whether a device is usable is still to be settled. -/
def Pends (id : DeviceId) (ds : List Duty) : Prop := .reassess id ∈ ds ∨ .conclude id ∈ ds

namespace Pends

variable {duty : Duty} {ds : List Duty}

/-- What is put on the agenda in front leaves pending what was. -/
theorem append (pends : Pends id ds) (ws : List Duty) : Pends id (ws ++ ds) :=
  pends.imp (List.mem_append_right ws) (List.mem_append_right ws)

theorem cons (pends : Pends id ds) (duty : Duty) : Pends id (duty :: ds) := pends.append [duty]

/-- It stays to be settled when something is done that is not about the device. -/
theorem rest (pends : Pends id (duty :: ds)) (other : duty.about? ≠ some id) : Pends id ds := by
  rcases pends with mem | mem
  · rcases List.mem_cons.1 mem with rfl | mem
    · exact absurd rfl other
    · exact .inl mem
  · rcases List.mem_cons.1 mem with rfl | mem
    · exact absurd rfl other
    · exact .inr mem

end Pends

namespace Core

/-- When nobody is being notified nothing is pending for any device. -/
theorem not_pends_of_quiet (quiet : c.isQuiet) : ¬ Pends id c.agenda := by
  rintro (mem | mem) <;> exact absurd (about_of_quiet quiet mem) (by simp [Duty.about?])

/-! ## The invariant -/

/-- What holds of the usability of devices all the time. -/
structure Settled (c : Core) : Prop where
  own : ∀ id d, c.devices id = some d → d.OwnIsCandidate
  /-- where an attempt to have a profile is to be concluded, nothing else is missing -/
  ready : ∀ id d, .conclude id ∈ c.agenda → c.devices id = some d → d.gate.ready
  /-- a conclusion that has its turn goes by what the device submitted, and rightly -/
  concluding : ∀ id ds d, c.agenda = .conclude id :: ds → c.devices id = some d →
    d.candidates = [] ∨ d.provisioned.isSome
  /-- what is noted is right, or will be settled -/
  noted : ∀ id d, c.devices id = some d → d.usable = d.fit ∨ Pends id c.agenda

theorem settled_opening (isLoaded : Bool) (naming : Naming) : (opening isLoaded naming).Settled where
  own _ _ found := absurd found (by simp [opening])
  ready _ _ mem := absurd mem (by simp [opening])
  concluding _ _ _ next := absurd next (by simp [opening])
  noted _ _ found := absurd found (by simp [opening])

/-- A revision that drops the candidate a device submitted drops `provisioned` with it. -/
theorem Revises.ownIsCandidate (revises : c.Revises c' id d e) (own : d.OwnIsCandidate) :
    e.OwnIsCandidate := by
  cases revises with
  | same | start | session | power | decide | turnedDown | handedIn | conclude => exact own
  | edit _ _ edit _ _ =>
    intro u submitted
    rw [edit.kept.2.2.2.1] at submitted
    exact edit.mono (own u submitted)
  | hear _ hears _ =>
    rcases Device.hear_cases hears with ⟨p, -, -, -, rfl⟩ | ⟨p, -, -, rfl⟩ | ⟨-, rfl⟩
    · intro u submitted
      exact List.mem_cons_of_mem _ (own u submitted)
    · -- the candidate that is taken off is forgotten as the submitted profile
      intro u submitted
      obtain ⟨other, submitted⟩ := Option.ite_none_left_eq_some.1 submitted
      refine (List.mem_erase_of_ne ?_).2 (own u submitted)
      rintro rfl
      exact other submitted
    · intro u submitted
      rw [Device.survey_eq] at submitted
      exact Device.mem_survey.2 (.inl (own u submitted))
  | adopt =>
    intro u submitted
    obtain rfl := Option.some.inj submitted
    exact Device.mem_track.2 (.inl rfl)

/-- **The provisioned profile of a device is one of its candidates**, after every step. -/
theorem Step.own (step : Step law c s c') (own : ∀ id d, c.devices id = some d → d.OwnIsCandidate) :
    ∀ id d, c'.devices id = some d → d.OwnIsCandidate := by
  intro id e there
  rcases step.origin there with ⟨d, found, revises⟩ | ⟨-, -, -, path, g, t, rfl⟩
  · exact revises.ownIsCandidate (own id d found)
  · intro u submitted
    exact absurd submitted (by simp [Device.fresh])

/-- Nothing but a profile comes to be missing while an attempt to have one is to be concluded. -/
theorem Revises.gateReady (revises : c.Revises c' id d e) (concludes : .conclude id ∈ c'.agenda)
    (ready : d.gate.ready) : e.gate.ready := by
  cases revises with
  | same | start | session | decide | turnedDown | handedIn | conclude => exact ready
  | edit next quiet _ _ after =>
    -- a run edits its device only when nothing is left to conclude
    rw [after, next] at concludes
    rcases List.mem_cons.1 concludes with same | mem
    · exact absurd same (by simp)
    · exact absurd (List.all_eq_true.1 quiet _ mem) (by simp [Duty.isPursuit])
  | power on quiet _ after =>
    rw [after] at concludes
    exact absurd (about_of_quiet quiet concludes) (by simp [Duty.about?])
  | hear _ hears => rw [Device.hear_eq hears]; exact ready
  | adopt => rw [Device.track_eq]; exact ready

/-- A device whose usability is about to be concluded still has all that the gate asks for. -/
theorem Step.ready (step : Step law c s c') (upkeep : c.Upkeep)
    (ready : ∀ id d, .conclude id ∈ c.agenda → c.devices id = some d → d.gate.ready) :
    ∀ id d, .conclude id ∈ c'.agenda → c'.devices id = some d → d.gate.ready := by
  intro id e mem there
  rcases step.origin there with ⟨d, found, revises⟩ | ⟨rfl, next, -⟩
  · apply revises.gateReady mem
    cases step.arises.2 _ mem with
    | kept due => exact ready id d due found
    | conclude _ found' lacks =>
      obtain rfl := Option.some.inj (found.symm.trans found')
      exact (Device.of_provision lacks).1
    | pursuit isPursuit => exact absurd isPursuit (by simp [Duty.isPursuit])
    | watch isWatch => exact absurd isWatch (by simp [Duty.isWatch])
  · -- nothing is to be concluded for a new device
    rcases step.about mem rfl with ⟨duty, due, about⟩ | old
    · exact absurd about (upkeep.about_ne due)
    · obtain ⟨d, found⟩ := Option.isSome_iff_exists.1 old
      exact absurd (upkeep.known _ d found) (Nat.lt_irrefl _)

/-- When a conclusion has its turn, the device either has no candidate or has adopted its own profile. -/
theorem Step.concluding (step : Step law c s c') (tidy : Tidy c.agenda)
    (settled : c.Settled) : ∀ id ds d, c'.agenda = .conclude id :: ds → c'.devices id = some d →
      d.candidates = [] ∨ d.provisioned.isSome := by
  intro id ds e head there
  -- what comes after a duty is no conclusion, unless the duty is the first of a pair
  have rest {duty : Duty} {ds' : List Duty} (next : c.agenda = duty :: ds')
      (first : ∀ id uuid, duty ≠ .adopt id uuid) (ws : List Duty)
      (plain : ∀ w ∈ ws, w.settles = false) : ws ++ ds' ≠ .conclude id :: ds := by
    intro same
    rw [next] at tidy
    have paired := Paired.append plain (tidy.rest first)
    rw [same] at paired
    exact paired.not_conclude
  have none {w : Duty} (plain : w.settles = false) : ∀ v ∈ [w], v.settles = false := by
    simp [plain]
  cases step with
  | enlist | cancel | receivers | reported | endRuns | comeUp | requestUnheard =>
    exact settled.concluding id ds e head there
  | create path g t =>
    rcases eq_of_update_some there with ⟨rfl, rfl⟩ | ⟨-, kept⟩
    · exact .inl rfl
    · exact settled.concluding id ds e head kept
  | destroy j =>
    rcases eq_of_update there with ⟨-, hx⟩ | ⟨-, kept⟩
    · exact absurd hx (by simp)
    · exact settled.concluding id ds e head kept
  | startRun j d found =>
    rcases eq_of_update_some there with ⟨rfl, rfl⟩ | ⟨-, kept⟩
    · exact settled.concluding id ds d head found
    · exact settled.concluding id ds e head kept
  | session j d s found =>
    rcases eq_of_update_some there with ⟨rfl, rfl⟩ | ⟨-, kept⟩
    · exact settled.concluding id ds d head found
    · exact settled.concluding id ds e head kept
  | defer ds' quiet pursuits =>
    obtain rfl : ds' = .conclude id :: ds := head
    exact absurd pursuits (by simp [Duty.isPursuit])
  | summon | request | unmoved | moved | handedIn => exact absurd head (by simp)
  | edit j d x es ds' next => exact absurd (next.symm.trans head) (by simp)
  | findPower run j d on quiet =>
    have mem : Duty.conclude id ∈ c.agenda := by
      rw [show c.agenda = _ from head]
      exact List.mem_cons_self
    exact absurd (about_of_quiet quiet mem) (by simp [Duty.about?])
  | heardByAll n ds' next => exact absurd head (rest next (by simp) [] (by simp))
  | watched n w ls ds' ws next watch =>
    have plain : ∀ v ∈ ws ++ [.announce n ls], v.settles = false := by
      intro v hv
      rcases List.mem_append.1 hv with mem | mem
      · exact settles_of_isWatch watch v mem
      · exact none rfl v mem
    refine absurd ?_ (rest next (by simp) (ws ++ [.announce n ls]) plain)
    rw [List.append_assoc]
    exact head
  | turn duty ds' ws next isWatch watch =>
    refine absurd head (rest next ?_ ws (settles_of_isWatch watch))
    rintro id uuid rfl
    exact absurd isWatch (by simp [Duty.isWatch])
  | late duty j ds' next about gone =>
    rcases about with rfl | ⟨uuid, rfl⟩ | rfl
    · exact absurd head (rest next (by simp) [] (by simp))
    · -- the conclusion under the duty is about the same device, which is gone
      rw [next] at tidy
      obtain ⟨ds'', rfl, -⟩ := tidy.of_adopt
      obtain ⟨rfl, -⟩ : j = id ∧ ds'' = ds := by simpa using head
      exact absurd (gone.symm.trans there) (by simp)
    · exact absurd head (rest next (by simp) [] (by simp))
  | decide j d ds' usable next => exact absurd head (rest next (by simp) [] (by simp))
  | concede j d ds' next found lacks =>
    obtain ⟨rfl, -⟩ : j = id ∧ ds' = ds := by simpa using head
    obtain rfl := Option.some.inj (found.symm.trans there)
    exact .inl (Device.of_provision lacks).2.1
  | turnedDown j d ds' name why next found lacks =>
    obtain ⟨rfl, -⟩ : j = id ∧ ds' = ds := by simpa using head
    rcases eq_of_update_some there with ⟨-, rfl⟩ | ⟨other, -⟩
    · exact .inl (Device.of_provision lacks).2.1
    · exact absurd rfl other
  | adopt j d uuid ds' next found =>
    rw [next] at tidy
    obtain ⟨ds'', rfl, -⟩ := tidy.of_adopt
    obtain ⟨rfl, -⟩ : j = id ∧ ds'' = ds := by simpa using head
    rcases eq_of_update_some there with ⟨-, rfl⟩ | ⟨other, -⟩
    · exact .inr rfl
    · exact absurd rfl other
  | conclude j d ds' next found => exact absurd head (rest next (by simp) [] (by simp))

/-- Two records of a device of which the same is noted, and rightly or not. -/
theorem noted_of_eq {ds : List Duty} (noted : d.usable = d.fit ∨ Pends id ds)
    (usable : e.usable = d.usable) (fit : e.fit = d.fit) : e.usable = e.fit ∨ Pends id ds := by
  rw [usable, fit]
  exact noted

/-- **The flag `usable` is what it should be, or a duty that settles it is on the agenda**, after every step. -/
theorem Step.noted (step : Step law c s c') (upkeep : c.Upkeep) (tidy : Tidy c.agenda)
    (settled : c.Settled) :
    ∀ id d, c'.devices id = some d → d.usable = d.fit ∨ Pends id c'.agenda := by
  intro id e there
  -- a duty that is not about the device can be done, and others put in its place
  have rest {duty : Duty} {ds : List Duty} {x : Device} (next : c.agenda = duty :: ds)
      (found : c.devices id = some x) (other : duty.about? ≠ some id) (ws : List Duty) :
      x.usable = x.fit ∨ Pends id (ws ++ ds) := by
    have noted := settled.noted id x found
    rw [next] at noted
    exact noted.imp_right fun pends => (pends.rest other).append ws
  cases step with
  | enlist | cancel | receivers | reported | endRuns | comeUp | requestUnheard =>
    exact settled.noted id e there
  | create path g t =>
    rcases eq_of_update_some there with ⟨rfl, rfl⟩ | ⟨-, kept⟩
    · exact .inl rfl
    · exact settled.noted id e kept
  | destroy j =>
    rcases eq_of_update there with ⟨-, hx⟩ | ⟨-, kept⟩
    · exact absurd hx (by simp)
    · exact settled.noted id e kept
  | startRun j d found =>
    rcases eq_of_update_some there with ⟨rfl, rfl⟩ | ⟨-, kept⟩
    · exact noted_of_eq (settled.noted id d found) rfl rfl
    · exact settled.noted id e kept
  | session j d s found =>
    rcases eq_of_update_some there with ⟨rfl, rfl⟩ | ⟨-, kept⟩
    · exact noted_of_eq (settled.noted id d found) rfl rfl
    · exact settled.noted id e kept
  | defer ds quiet pursuits =>
    exact (settled.noted id e there).imp_right fun pends => absurd pends (not_pends_of_quiet quiet)
  | summon j d quiet found => exact (settled.noted id e there).imp_right fun pends => pends.cons _
  | edit j d x es ds next quiet found =>
    rcases eq_of_update_some there with ⟨rfl, rfl⟩ | ⟨-, kept⟩
    · refine .inr (.inl ?_)
      rw [show c.agenda = _ from next]
      exact List.mem_cons_self
    · exact settled.noted id e kept
  | findPower run j d on quiet found rising =>
    rcases eq_of_update_some there with ⟨rfl, rfl⟩ | ⟨-, kept⟩
    · -- while a run brings its device up, the device is not usable, whatever its adapter is
      have low : d.initialized = false :=
        upkeep.rising _ (Table.mem_entries_of_get? rising) rfl d found
      refine noted_of_eq (settled.noted id d found) rfl ?_
      simp [Device.fit, Device.gate, Gate.ready, low]
    · exact settled.noted id e kept
  | request q r n lives =>
    exact (settled.noted id e there).imp_right fun pends => pends.cons _
  | heardByAll n ds next => exact rest next there (by simp [Duty.about?]) []
  | watched n w ls ds ws next watch =>
    refine (rest next there (by simp [Duty.about?]) (ws ++ [.announce n ls])).imp_right ?_
    rw [List.append_assoc]
    exact fun pends => pends
  | turn duty ds ws next isWatch watch =>
    refine rest next there ?_ ws
    obtain ⟨_, _, _, rfl⟩ | ⟨_, _, rfl⟩ | ⟨_, _, rfl⟩ := Duty.eq_of_isWatch isWatch <;> simp [Duty.about?]
  | unmoved n j ls ds next => exact rest next there (by simp [Duty.about?]) [.announce n ls]
  | moved n j ls ds d x next found hears =>
    rcases eq_of_update_some there with ⟨rfl, rfl⟩ | ⟨-, kept⟩
    · exact .inr (.inl List.mem_cons_self)
    · exact rest next kept (by simp [Duty.about?]) [.reassess j, .announce n ls]
  | late duty j ds next about gone =>
    refine rest next there ?_ []
    rcases about with rfl | ⟨uuid, rfl⟩ | rfl
    all_goals
      intro same
      obtain rfl := Option.some.inj same
      exact absurd (gone.symm.trans there) (by simp)
  | decide j d ds usable next found decided =>
    rcases eq_of_update_some there with ⟨rfl, rfl⟩ | ⟨other, kept⟩
    · exact .inl (Device.fit_of_decided decided).symm
    · exact rest next kept (by simpa [Duty.about?] using Ne.symm other) []
  | concede j d ds next found lacks =>
    by_cases same : id = j
    · subst same
      exact .inr (.inr List.mem_cons_self)
    · exact rest next there (by simpa [Duty.about?] using Ne.symm same) [.conclude j]
  | turnedDown j d ds name why next found lacks =>
    rcases eq_of_update_some there with ⟨rfl, rfl⟩ | ⟨other, kept⟩
    · exact .inr (.inr List.mem_cons_self)
    · exact rest next kept (by simpa [Duty.about?] using Ne.symm other) [.conclude j]
  | handedIn j d ds name lives next found lacks =>
    rcases eq_of_update_some there with ⟨rfl, rfl⟩ | ⟨other, kept⟩
    · exact .inr (.inr (by simp))
    · exact rest next kept (by simpa [Duty.about?] using Ne.symm other)
        [.announce _ _, .adopt j _, .conclude j]
  | adopt j d uuid ds next found =>
    rcases eq_of_update_some there with ⟨rfl, rfl⟩ | ⟨other, kept⟩
    · -- the device that takes its profile is assessed by the conclusion that comes next
      rw [next] at tidy
      obtain ⟨ds', rfl, -⟩ := tidy.of_adopt
      exact .inr (.inr List.mem_cons_self)
    · exact rest next kept (by simpa [Duty.about?] using Ne.symm other) []
  | conclude j d ds next found =>
    rcases eq_of_update_some there with ⟨rfl, rfl⟩ | ⟨other, kept⟩
    · refine .inl ?_
      -- all but a profile was there when the attempt was made, and still is
      have ready := settled.ready id d (by rw [next]; exact List.mem_cons_self) found
      exact Device.provisioned_eq_fit ready (settled.own id d found)
        (settled.concluding id ds d next found)
    · exact rest next kept (by simpa [Duty.about?] using Ne.symm other) []

/-- **Every step keeps the noted usability right**, or leaves something on the agenda that will set
it right. -/
theorem Step.settled (step : Step law c s c') (upkeep : c.Upkeep) (tidy : Tidy c.agenda)
    (settled : c.Settled) : c'.Settled where
  own := step.own settled.own
  ready := step.ready upkeep settled.ready
  concluding := step.concluding tidy settled
  noted := step.noted upkeep tidy settled

end Core

/-! ## Usability in all runs -/

namespace Bench

variable {b : Bench}

/-- In every run usability is settled, or about to be. -/
theorem Reachable.settled (reached : Reachable law b) : b.host.core.Settled := by
  suffices all : b.host.core.Upkeep ∧ Tidy b.host.core.agenda ∧ b.host.core.Settled from all.2.2
  refine reached.core_induction (P := fun c => c.Upkeep ∧ Tidy c.agenda ∧ c.Settled) ?_ ?_
  · intro isLoaded naming
    exact ⟨Core.upkeep_opening isLoaded naming, .paired .nil, Core.settled_opening isLoaded naming⟩
  · rintro c s c' ⟨upkeep, tidy, settled⟩ step
    exact ⟨step.upkeep upkeep, step.tidy tidy, step.settled upkeep tidy settled⟩

/-- When nobody is being notified, what is noted of a device is right. -/
theorem usable_eq_fit {d : Device} (reached : Reachable free b) (quiet : b.host.core.isQuiet)
    (there : b.host.device? id = some d) : d.usable = d.fit :=
  (reached.settled.noted id d there).resolve_right (Core.not_pends_of_quiet quiet)

/-- **A device is usable exactly when everything is there.** In every state of every run in which nobody is
being notified, the flag `usable` of a device that exists says that it is initialized, offers a capability, has
a name, is present on the bus and has its address, that its adapter is not required or known to be powered, and
that it has a candidate profile. Runs are arbitrary: updates may have come in any order, discovery may have been
put off at any stage, and listeners of the registry may have called back into it. -/
theorem usable_iff {d : Device} (reached : Reachable free b) (quiet : b.host.core.isQuiet)
    (there : b.host.device? id = some d) :
    d.usable = true ↔ d.initialized = true ∧ d.capabilities.isEmpty = false ∧ d.name.isSome ∧
      d.busPresent = true ∧ d.address.isSome ∧
      (d.adapter = .notRequired ∨ d.adapter = .resolved true) ∧ d.candidates ≠ [] := by
  have adapter : d.adapter.ready = true ↔ d.adapter = .notRequired ∨ d.adapter = .resolved true := by
    cases d.adapter <;> simp [AdapterState.ready]
  rw [usable_eq_fit reached quiet there, Device.fit, ← adapter]
  simp [Device.gate, Gate.ready, and_assoc]

/-- An access point that has come up is usable, after it submitted a profile for lack of any. -/
theorem usable_bringingUp :
    Reachable free (bringingUp 40) ∧ (bringingUp 40).host.core.isQuiet ∧
      ∃ d, (bringingUp 40).host.device? 0 = some d ∧ d.usable = true := by
  have quiet : (bringingUp 40).host.core.isQuiet := by rfl
  have there : (bringingUp 40).host.device? 0 = some (((bringingUp 40).host.device? 0).get (by rfl)) :=
    (Option.some_get _).symm
  refine ⟨reachable_bringingUp 40, quiet, _, there, ?_⟩
  exact (usable_iff (reachable_bringingUp 40) quiet there).2 (by decide)

end Bench

end Piconet
