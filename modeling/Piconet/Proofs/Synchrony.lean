import Piconet.Proofs.Notices

/-!
# No stored profile is missed

While nobody but devices calls back into the registry, a device has all stored profiles that it
accepts as candidates, or is yet to hear of them: the profile is being announced and the device is
among those that the announcement still goes to, or the device submitted it and is to take it as its
own (`Owed`). A device is deaf to additions while it submits a profile; by then no other addition
can be announced (`Layered.uuid_eq`), so what it does not hear of is what it submitted.
-/

namespace Piconet

open Bench (orderly)

variable {c c' : Core} {s : Option (DeviceId × Profile)} {id : DeviceId} {d e : Device} {p : Profile}

/-- A device is yet to hear of a profile, or to take it as its own. -/
def Owed (ds : List Duty) (id : DeviceId) (p : Profile) : Prop :=
  .adopt id p.uuid ∈ ds ∨
    ∃ n ls, .announce n ls ∈ ds ∧ .device id ∈ ls ∧ (n = .added p ∨ n = .updated p)

/-- Something may be owed because of the duty: an announcement that somebody is yet to hear, or a profile
that its device is yet to take. -/
def Duty.owes : Duty → Bool
  | .announce _ ls => !ls.isEmpty
  | .adopt .. => true
  | .react .. | .perform .. | .record .. | .reassess _ | .conclude _ | .pursue _ => false

namespace Core

/-- Nothing is owed to anybody when no duty of the agenda owes anything. -/
theorem not_owed (noneOwes : ∀ duty ∈ c.agenda, duty.owes = false) : ¬ Owed c.agenda id p := by
  rintro (due | ⟨n, ls, due, listens, -⟩)
  · exact absurd (noneOwes _ due) (by simp [Duty.owes])
  · exact absurd (noneOwes _ due) (by simp [Duty.owes, List.ne_nil_of_mem listens])

/-- Nothing is owed to anybody when nobody is being notified. -/
theorem not_owed_of_quiet (quiet : c.isQuiet) : ¬ Owed c.agenda id p := by
  refine not_owed fun duty due => ?_
  obtain ⟨run, rfl⟩ := Duty.eq_of_isPursuit (List.all_eq_true.1 quiet duty due)
  rfl

/-- **What is owed to a device is given to it**, or still owed after the step. -/
theorem Step.owed (step : Step orderly c s c') (tame : c.Tame) (found : c.devices id = some d)
    (there : c'.devices id = some e) (accepts : d.accepts p) (owed : Owed c.agenda id p) :
    p.uuid ∈ e.candidates ∨ Owed c'.agenda id p := by
  rcases owed with due | ⟨n, ls, due, listens, about⟩
  · exact (step.adopts due found there).symm.imp And.left .inl
  · rcases step.hears due listens found there with ⟨ls', still, listens⟩ | ⟨rfl, -⟩
    · exact .inr (.inr ⟨n, ls', still, listens, about⟩)
    · rcases about with rfl | rfl
      · cases busy : d.submitting with
        | false => exact .inl (Device.mem_of_hear accepts (.inl ⟨rfl, busy⟩))
        | true =>
          -- the device does not listen, but the profile is its own
          obtain ⟨uuid, own⟩ := tame.submitting id d found busy
          obtain rfl := tame.layered.uuid_eq own due
          exact (step.adopts own found there).symm.imp And.left .inl
      · exact .inl (Device.mem_of_hear accepts (.inr rfl))

/-- Every device has the stored profiles that it accepts as candidates, or they are owed to it. -/
def Synced (c : Core) : Prop :=
  ∀ id d p, c.devices id = some d → p ∈ c.registry.profiles → d.accepts p →
    p.uuid ∈ d.candidates ∨ Owed c.agenda id p

/-- A change of the registry is owed to all devices that it concerns. -/
theorem Announces.synced {n : Registry.Notice} (announces : Announces orderly c c' n)
    (listening : c.Listening) (synced : c.Synced) : c'.Synced := by
  intro id e p there isStored accepts
  obtain ⟨d, found, candidates, address, capabilities⟩ := announces.kept id e there
  rw [Device.accepts_congr address capabilities] at accepts
  rw [candidates]
  rcases announces.effect.mem isStored with about | ⟨before, -⟩
  · obtain ⟨ls, due, heard⟩ := announces.heard
    exact .inr (.inr ⟨n, ls, due, heard id d found (listening.listens id d found), about⟩)
  · apply (synced id d p found before accepts).imp_right
    have stays {duty : Duty} (due : duty ∈ c.agenda) (other : ∀ id, duty ≠ .reassess id) :
        duty ∈ c'.agenda := (announces.due duty due).resolve_right (not_exists.2 other)
    rintro (due | ⟨m, ls, due, listens, about⟩)
    · exact .inl (stays due (by simp))
    · exact .inr ⟨m, ls, stays due (by simp), listens, about⟩

/-- **Every step keeps the devices in step with the registry.** -/
theorem Step.synced (step : Step orderly c s c') (tame : c.Tame) (synced : c.Synced) :
    c'.Synced := by
  rcases step.arises.1 with same | ⟨n, announces⟩
  · intro id e p there isStored accepts
    rw [same] at isStored
    rcases step.origin there with ⟨d, found, revises⟩ | ⟨-, -, -, path, g, t, rfl⟩
    · rcases revises.gained isStored accepts with before | now
      · rcases synced id d p found isStored before with tracked | owed
        · rcases revises.loses tracked with kept | ⟨n, ls, q, due, about, uuid⟩
          · exact .inl kept
          · -- the candidate would be taken off for a change that the registry does not show
            have agrees := tame.coherent.agrees n ls due
            rcases about with rfl | ⟨rfl, rejects⟩
            · exact absurd uuid.symm (agrees p isStored)
            · obtain rfl := List.inj_on_of_nodup_map tame.coherent.distinct agrees isStored uuid
              exact absurd before (by simp [rejects])
        · exact step.owed tame found there before owed
      · exact .inl now
    · exact absurd accepts (by simp [Device.accepts, Device.fresh])
  · exact announces.synced tame.listening synced

end Core

namespace Bench

variable {b : Bench}

theorem Reachable.tame (reached : Reachable orderly b) : b.host.core.Tame :=
  reached.core_induction Core.tame_opening fun _ _ _ tame step => step.tame tame

theorem Reachable.synced (reached : Reachable orderly b) : b.host.core.Synced := by
  suffices all : b.host.core.Tame ∧ b.host.core.Synced from all.2
  refine reached.core_induction (P := fun c => c.Tame ∧ c.Synced) ?_ ?_
  · intro isLoaded naming
    refine ⟨Core.tame_opening isLoaded naming, ?_⟩
    intro id d p found
    exact absurd found (by simp [Core.opening])
  · rintro c s c' ⟨tame, synced⟩ step
    exact ⟨step.tame tame, step.synced tame synced⟩

/-- **Registry synchronization loses nothing.** As long as only devices call back into the registry while its
listeners are notified (`orderly`), in every state in which nobody is being notified each stored profile that a
device accepts is among the device's candidates, by its UUID. It does not matter whether the profile was stored
before the device was created, while its address or its capabilities were still unknown, or after it came up. -/
theorem mem_candidates_of_accepts (reached : Reachable orderly b) (quiet : b.host.core.isQuiet)
    (there : b.host.device? id = some d) (isStored : p ∈ b.host.registry.profiles)
    (accepts : d.accepts p) : p.uuid ∈ d.candidates :=
  (reached.synced id d p there isStored accepts).resolve_right (Core.not_owed_of_quiet quiet)

/-- A device that came up beside a profile for its address has it as a candidate. -/
theorem mem_candidates_matched :
    Reachable orderly matched ∧ matched.host.core.isQuiet ∧
      fitting ∈ matched.host.registry.profiles ∧
      ∃ d, matched.host.device? 0 = some d ∧ d.accepts fitting ∧ fitting.uuid ∈ d.candidates := by
  have reached : Reachable orderly matched := reachable_matched orderly_insert_fitting
  have quiet : matched.host.core.isQuiet := by rfl
  have isStored : fitting ∈ matched.host.registry.profiles := List.mem_singleton.2 rfl
  have there : matched.host.device? 0 = some ((matched.host.device? 0).get (by rfl)) :=
    (Option.some_get _).symm
  have accepts : ((matched.host.device? 0).get (by rfl)).accepts fitting := by rfl
  exact ⟨reached, quiet, isStored, _, there, accepts,
    mem_candidates_of_accepts reached quiet there isStored accepts⟩

end Bench

end Piconet
