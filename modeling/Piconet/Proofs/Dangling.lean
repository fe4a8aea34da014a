import Piconet.Proofs.Staleness
import Piconet.Proofs.Usability

/-!
# When candidates dangle

Listeners may call back into the registry while they are notified, and their changes are announced
before the change that they were notified of goes on. A listener that removes a profile on hearing
of its addition has the removal announced first: a device that listens too hears of the removal,
which does not concern it yet, and then of the addition, and takes the UUID of a profile up
that is not stored any more (`Bench.undercut`).

This is the only way. Whatever else is called back, the candidates of a device and the profile that
it submitted are stored when nobody is being notified, as long as nobody removes a profile that some
device is yet to hear of or to take as its own (`Bench.patient`). Until then a UUID whose
profile is not stored is one whose removal the device is still to hear of (`Revoked`).
-/

namespace Piconet

open Registry (Notice Request)
open Bench (Law free orderly)

variable {law : Law} {c c' : Core} {s : Option (DeviceId × Profile)} {id : DeviceId} {d e : Device}
  {p q : Profile} {u v : String} {n : Notice}

/-- Nobody removes the profile of a UUID while a device that accepts it is yet to hear that it
was added or updated, or to take it as its own. -/
def Bench.patient (u : String) : Law := fun c q => q = .remove u →
  ∀ id d p, c.devices id = some d → d.accepts p → p.uuid = u → ¬ Owed c.agenda id p

open Bench (patient)

/-- Whoever keeps to announcements that are over is patient. -/
theorem Bench.patient_of_orderly {q : Request} (lawful : orderly c q) : patient u c q :=
  fun _ _ _ _ _ _ _ => Core.not_owed_of_quiet lawful.1

/-- A device is yet to hear that a profile is removed. -/
def Revoked (ds : List Duty) (id : DeviceId) (u : String) : Prop :=
  ∃ q ls, .announce (.removed q) ls ∈ ds ∧ .device id ∈ ls ∧ q.uuid = u

/-! ## Which UUIDs are stored -/

namespace Registry

/-- A UUID is given up in a removal only. -/
theorem Notice.Effect.mem_uuids {r r' : Registry} (effect : n.Effect r.profiles r'.profiles)
    (isStored : u ∈ r.uuids) : u ∈ r'.uuids ∨ ∃ x, n = .removed x ∧ x.uuid = u := by
  obtain ⟨p, mem, rfl⟩ := List.mem_map.1 isStored
  by_cases other : ∀ q, n.profile? = some q → p.uuid ≠ q.uuid
  · exact .inl (List.mem_map_of_mem (effect.kept mem other))
  · simp only [not_forall, not_not] at other
    obtain ⟨q, about, uuid⟩ := other
    have agrees := effect.agrees
    cases n with
    | removed x =>
      obtain rfl := Option.some.inj about
      exact .inr ⟨x, rfl, uuid.symm⟩
    | added x | updated x =>
      obtain rfl := Option.some.inj about
      rw [uuid]
      exact .inl (List.mem_map_of_mem agrees)
    | loaded => exact absurd about (by simp [Notice.profile?])

/-- A removal is announced to whoever asks for it. -/
theorem eq_remove_of_heard {r r' : Registry} {q : Request}
    (handled : r.handle q = (r', some (.removed p))) : q = .remove p.uuid := by
  have about := uuid?_of_heard handled rfl
  cases q with
  | remove uuid => exact congrArg Request.remove (Option.some.inj about)
  | insert x => exact absurd (added_of_brings handled rfl) (by simp)
  | submit x => exact absurd (added_of_brings handled rfl) (by simp)
  | update x =>
    simp only [handle] at handled
    split at handled <;> exact absurd handled (by simp)
  | markLoaded | reject => exact absurd about (by simp [Request.uuid?])

end Registry

namespace Core

/-- Nothing is revoked when nobody is being notified. -/
theorem not_revoked_of_quiet (quiet : c.isQuiet) : ¬ Revoked c.agenda id u := by
  rintro ⟨q, ls, due, -⟩
  exact absurd (List.all_eq_true.1 quiet _ due) (by simp [Duty.isPursuit])

/-! ## What comes to be owed -/

/-- While anything is owed to a device, what it accepts stays as it is. -/
theorem Revises.accepts_of_owed (revises : c.Revises c' id d e) (owed : Owed c'.agenda id q)
    (accepts : e.accepts p) : d.accepts p := by
  cases revises with
  | same | start | session | power | decide | turnedDown | handedIn | conclude => exact accepts
  | edit next quiet _ _ after =>
    -- a run edits its device when nobody is being notified
    have none {duty : Duty} (due : duty ∈ c'.agenda) (lasting : duty.isPursuit = false)
        (other : duty ≠ .reassess id) : False := by
      rw [after, next] at due
      have pursuit := List.all_eq_true.1 quiet duty ((List.mem_cons.1 due).resolve_left other)
      rw [lasting] at pursuit
      exact absurd pursuit (by simp)
    rcases owed with due | ⟨n, ls, due, -⟩
    · exact (none due rfl (by simp)).elim
    · exact (none due rfl (by simp)).elim
  | hear _ hears _ =>
    rw [Device.hear_eq hears] at accepts
    exact accepts
  | adopt =>
    rw [Device.track_eq] at accepts
    exact accepts

/-- **What is owed to a device after a step** was owed to it before, or is stored. -/
theorem Step.owed_origin (step : Step law c s c') (there : c'.devices id = some e)
    (accepts : e.accepts p) (owed : Owed c'.agenda id p) :
    (∃ d, c.devices id = some d ∧ d.accepts p ∧ Owed c.agenda id p) ∨
      p.uuid ∈ c'.registry.uuids := by
  rcases step.origin there with ⟨d, found, revises⟩ | ⟨-, -, -, path, g, t, rfl⟩
  · have accepted : d.accepts p := revises.accepts_of_owed owed accepts
    rcases owed with due | ⟨n, ls, due, listens, about⟩
    · generalize same : p.uuid = v at due
      cases step.arises.2 _ due with
      | kept due => exact .inl ⟨d, found, accepted, .inl (same ▸ due)⟩
      | adopt _ _ _ _ announces =>
        exact .inr (List.mem_map_of_mem announces.effect.agrees)
      | pursuit isPursuit => exact absurd isPursuit (by simp [Duty.isPursuit])
      | watch isWatch => exact absurd isWatch (by simp [Duty.isWatch])
    · cases step.arises.2 _ due with
      | kept due => exact .inl ⟨d, found, accepted, .inr ⟨n, ls, due, listens, about⟩⟩
      | heard _ due fewer =>
        exact .inl ⟨d, found, accepted, .inr ⟨n, _, due, fewer listens, about⟩⟩
      | announced announces =>
        have agrees := announces.effect.agrees
        rcases about with rfl | rfl
        · exact .inr (List.mem_map_of_mem agrees)
        · exact .inr (List.mem_map_of_mem agrees)
      | pursuit isPursuit => exact absurd isPursuit (by simp [Duty.isPursuit])
      | watch isWatch => exact absurd isWatch (by simp [Duty.isWatch])
  · exact absurd accepts (by simp [Device.accepts, Device.fresh])

/-- A device takes a UUID up that is stored, or that it is owed a profile under. -/
theorem Revises.takesUp (revises : c.Revises c' id d e) (tracked : u ∈ e.candidates)
    (new : u ∉ d.candidates)
    (own : ∀ v, .adopt id v ∈ c.agenda → ∃ p, p.uuid = v ∧ d.accepts p) :
    u ∈ c.registry.uuids ∨ ∃ p, p.uuid = u ∧ d.accepts p ∧ Owed c.agenda id p := by
  cases revises with
  | same | start | session | power | decide | turnedDown | handedIn | conclude =>
    exact absurd tracked new
  | edit _ _ edit _ _ =>
    obtain ⟨p, isStored, -, uuid⟩ := (edit.new tracked).resolve_left new
    exact .inl (List.mem_map.2 ⟨p, isStored, uuid⟩)
  | @hear n ls ds _ next hears =>
    have due : .announce n (.device id :: ls) ∈ c.agenda := by
      rw [next]
      exact List.mem_cons_self
    rcases Device.hear_cases hears with ⟨p, about, accepts, -, rfl⟩ | ⟨p, -, -, rfl⟩ | ⟨-, rfl⟩
    · obtain rfl := (List.mem_cons.1 tracked).resolve_right new
      exact .inr ⟨p, rfl, accepts,
        .inr ⟨n, _, due, List.mem_cons_self, about.imp_left And.left⟩⟩
    · exact absurd (List.mem_of_mem_erase tracked) new
    · obtain ⟨p, isStored, -, uuid⟩ := (Device.mem_survey.1 tracked).resolve_left new
      exact .inl (List.mem_map.2 ⟨p, isStored, uuid⟩)
  | adopt next _ =>
    obtain rfl := (Device.mem_track.1 tracked).resolve_right new
    have due : .adopt id u ∈ c.agenda := by
      rw [next]
      exact List.mem_cons_self
    obtain ⟨p, rfl, accepts⟩ := own _ due
    exact .inr ⟨p, rfl, accepts, .inl due⟩

/-! ## Candidates that do not dangle -/

/-- What holds of a UUID with which everybody is patient. -/
structure Anchored (u : String) (c : Core) : Prop where
  /-- a candidate is stored, or the device is still to hear of its removal -/
  names : ∀ id d, c.devices id = some d → u ∈ d.candidates →
    u ∈ c.registry.uuids ∨ Revoked c.agenda id u
  /-- what a device will take up is stored -/
  owed : ∀ id d p, c.devices id = some d → d.accepts p → p.uuid = u → Owed c.agenda id p →
    u ∈ c.registry.uuids
  /-- a device accepts what it is to take as its own -/
  own : ∀ id d v, c.devices id = some d → .adopt id v ∈ c.agenda → ∃ p, p.uuid = v ∧ d.accepts p
  /-- no candidate is listed twice -/
  distinct : ∀ id d, c.devices id = some d → d.candidates.Nodup

theorem anchored_opening (isLoaded : Bool) (naming : Naming) : Anchored u (opening isLoaded naming) where
  names _ _ found := absurd found (by simp [opening])
  owed _ _ _ found := absurd found (by simp [opening])
  own _ _ _ found := absurd found (by simp [opening])
  distinct _ _ found := absurd found (by simp [opening])

/-- A UUID that a device is owed a profile under stays stored: whoever removes it waits. -/
theorem Step.stays_owed (step : Step (patient u) c s c') (found : c.devices id = some d)
    (accepts : d.accepts p) (uuid : p.uuid = u) (owed : Owed c.agenda id p)
    (isStored : u ∈ c.registry.uuids) : u ∈ c'.registry.uuids := by
  rcases step.arises.1 with same | ⟨n, announces⟩
  · rwa [Registry.uuids, same]
  · rcases announces.effect.mem_uuids isStored with still | ⟨x, rfl, rfl⟩
    · exact still
    · rcases announces.cause with ⟨-, -, q, r, lawful, handled⟩ | ⟨y, name, new, -⟩
      · exact absurd owed
          (lawful (Registry.eq_remove_of_heard handled) id d p found accepts uuid)
      · exact absurd new (by simp)

/-- A candidate stays what it is, or the device hears of its removal next. -/
theorem Step.names_anchored (step : Step (patient u) c s c') (listening : c.Listening)
    (anchored : c.Anchored u) (there : c'.devices id = some e) (tracked : u ∈ e.candidates) :
    u ∈ c'.registry.uuids ∨ Revoked c'.agenda id u := by
  rcases step.arises.1 with same | ⟨n, announces⟩
  · rw [Registry.uuids, same]
    rcases step.origin there with ⟨d, found, revises⟩ | ⟨-, -, -, path, g, t, rfl⟩
    · by_cases before : u ∈ d.candidates
      · rcases anchored.names id d found before with isStored | ⟨q, ls, due, listens, rfl⟩
        · exact .inl isStored
        · rcases step.hears due listens found there with ⟨ls', still, listens⟩ | ⟨rfl, -⟩
          · exact .inr ⟨q, ls', still, listens, rfl⟩
          · exact absurd tracked
              (Device.not_mem_of_hear (anchored.distinct id d found) (.inl rfl))
      · rcases revises.takesUp tracked before (fun v => anchored.own id d v found) with
          isStored | ⟨p, uuid, accepts, owed⟩
        · exact .inl isStored
        · exact .inl (anchored.owed id d p found accepts uuid owed)
    · exact absurd tracked (by simp [Device.fresh])
  · obtain ⟨d, found, candidates, -, -⟩ := announces.kept id e there
    rw [candidates] at tracked
    rcases anchored.names id d found tracked with isStored | ⟨q, ls, due, listens, uuid⟩
    · rcases announces.effect.mem_uuids isStored with still | ⟨x, rfl, uuid⟩
      · exact .inl still
      · obtain ⟨ls, due, heard⟩ := announces.heard
        exact .inr ⟨x, ls, due, heard id d found (listening.listens id d found), uuid⟩
    · have stays := (announces.due _ due).resolve_right (by simp)
      exact .inr ⟨q, ls, stays, listens, uuid⟩

/-- A device accepts what it is to take as its own: it submitted it, and what it accepts it accepts
for good. -/
theorem Step.own_accepted (step : Step law c s c') (upkeep : c.Upkeep)
    (own : ∀ id d v, c.devices id = some d → .adopt id v ∈ c.agenda →
      ∃ p, p.uuid = v ∧ d.accepts p)
    (there : c'.devices id = some e) (due : .adopt id v ∈ c'.agenda) :
    ∃ p, p.uuid = v ∧ e.accepts p := by
  rcases step.origin there with ⟨d, found, revises⟩ | ⟨rfl, -⟩
  · cases step.arises.2 _ due with
    | kept due =>
      obtain ⟨p, uuid, accepts⟩ := own id d v found due
      exact ⟨p, uuid, revises.accepts accepts⟩
    | adopt _ found' lacks named =>
      obtain rfl := Option.some.inj (found'.symm.trans found)
      exact ⟨_, rfl, revises.accepts (maySubmit lacks named).2.accepted⟩
    | pursuit isPursuit => exact absurd isPursuit (by simp [Duty.isPursuit])
    | watch isWatch => exact absurd isWatch (by simp [Duty.isWatch])
  · -- nothing is due for a device that has only just come
    rcases step.about due rfl with ⟨duty, due, about⟩ | found
    · exact absurd about (upkeep.about_ne due)
    · obtain ⟨x, found⟩ := Option.isSome_iff_exists.1 found
      exact absurd (upkeep.known _ x found) (Nat.lt_irrefl _)

/-- **Every step keeps a UUID anchored**, as long as everybody is patient with it. -/
theorem Step.anchored (step : Step (patient u) c s c') (upkeep : c.Upkeep) (listening : c.Listening)
    (anchored : c.Anchored u) : c'.Anchored u where
  names _ _ there tracked := step.names_anchored listening anchored there tracked
  owed := by
    intro id e p there accepts uuid owed
    rcases step.owed_origin there accepts owed with ⟨d, found, accepts, owed⟩ | isStored
    · exact step.stays_owed found accepts uuid owed (anchored.owed id d p found accepts uuid owed)
    · rwa [uuid] at isStored
  own _ _ _ there due := step.own_accepted upkeep anchored.own there due
  distinct := by
    intro id e there
    rcases step.origin there with ⟨d, found, revises⟩ | ⟨-, -, -, path, g, t, rfl⟩
    · exact revises.nodup (anchored.distinct id d found)
    · exact List.nodup_nil

end Core

namespace Bench

variable {b : Bench}

theorem Reachable.anchored (reached : Reachable (patient u) b) : b.host.core.Anchored u := by
  suffices all : b.host.core.Upkeep ∧ b.host.core.Listening ∧ b.host.core.Anchored u from all.2.2
  refine reached.core_induction
    (P := fun c => c.Upkeep ∧ c.Listening ∧ c.Anchored u) ?_ ?_
  · intro isLoaded naming
    exact ⟨Core.upkeep_opening isLoaded naming, Core.listening_opening isLoaded naming,
      Core.anchored_opening isLoaded naming⟩
  · rintro c s c' ⟨upkeep, listening, anchored⟩ step
    exact ⟨step.upkeep upkeep, step.listening upkeep listening,
      step.anchored upkeep listening anchored⟩

/-- **When no candidate dangles.** Listeners may call back into the registry in the middle of a notification. In
every state in which nobody is being notified, a UUID that a device has as a candidate, or as that of its
provisioned profile, is the UUID of a stored profile, provided that nobody removed the profile under that UUID
while a device that accepts it had still to hear that it was added or updated, or to adopt it (`patient`). All
other requests inside notifications are allowed. -/
theorem mem_uuids_of_mem_candidates (reached : Reachable (patient u) b)
    (quiet : b.host.core.isQuiet) (there : b.host.device? id = some d) :
    (u ∈ d.candidates → u ∈ b.host.registry.uuids) ∧
      (d.provisioned = some u → u ∈ b.host.registry.uuids) := by
  have tracked (mem : u ∈ d.candidates) : u ∈ b.host.registry.uuids :=
    (reached.anchored.names id d there mem).resolve_right (Core.not_revoked_of_quiet quiet)
  exact ⟨tracked, fun own => tracked (reached.settled.own id d there u own)⟩

/-- The rule of a watcher that removes a profile when it is added, and stores it again. -/
def renewal : Rule where
  on := .added
  uuid := none
  steps := [.request (.remove "u"), .request (.insert fitting)]
  times := 1

/-- A device comes up, then somebody subscribes who renews what is added, and then a profile is added for
the device. -/
def renewing : List Move :=
  ([.step (.newDevice "D" "/d" none {}), .step (.run "D"), .poll 1] : List Move) ++ List.replicate 8 Move.act ++
    ([.step (.command (.subscribe "W" [renewal])), .step (.command (.request (.insert fitting)))] : List Move) ++
    List.replicate 23 Move.act

def renewed : Bench := (opening .bluez4 (.stub (offering "1103-0")) true none).makeAll renewing

/-- The profile is removed in the middle of its announcement, but the device has heard of it by then. -/
theorem reachable_renewed : Reachable (patient "u") renewed := by
  refine ⟨_, _, _, _, _, reaches_makeAll _ _ ?_⟩
  have heard : ((opening .bluez4 (.stub (offering "1103-0")) true none).asked renewing).all
      fun x => x.1.agenda.all fun duty => !duty.owes := by
    decide +kernel
  intro x asked _ id d p _ _ _
  refine Core.not_owed fun duty due => ?_
  exact Bool.not_eq_true' _ ▸ List.all_eq_true.1 (List.all_eq_true.1 heard x asked) duty due

/-- A watcher that replaces a profile whenever it hears of one leaves no candidate dangling. -/
theorem mem_uuids_renewed :
    ∃ d, renewed.host.device? 0 = some d ∧ "u" ∈ d.candidates ∧ "u" ∈ renewed.host.registry.uuids := by
  have there : renewed.host.device? 0 = some ((renewed.host.device? 0).get (by rfl)) :=
    (Option.some_get _).symm
  have tracked : "u" ∈ ((renewed.host.device? 0).get (by rfl)).candidates := List.mem_singleton.2 (by rfl)
  exact ⟨_, there, tracked, (mem_uuids_of_mem_candidates reachable_renewed (by rfl) there).1 tracked⟩

/-- The rule of a watcher that removes a profile when one is added. -/
def removal : Rule where
  on := .added
  uuid := none
  steps := [.request (.remove "u")]
  times := 1

/-- A bench whose only device was brought up, and then a profile was added for it that a watcher
removed on hearing of it, before the device did. -/
def undercut : Bench :=
  (opening .bluez4 (.stub (offering "1103-0")) true none).makeAll
    (([.step (.command (.subscribe "W" [removal])), .step (.newDevice "D" "/d" none {}),
      .step (.run "D"), .poll 2] : List Move) ++ List.replicate 8 Move.act ++
      ([.step (.command (.request (.insert fitting)))] : List Move) ++ List.replicate 14 Move.act)

/-- A watcher removes a profile on hearing of its addition, before the device hears of it: the device lists a
profile that is not stored, and passes for usable. -/
theorem dangling_undercut :
    Reachable free undercut ∧ undercut.host.core.isQuiet ∧
      ∃ d, undercut.host.device? 1 = some d ∧ "u" ∈ d.candidates ∧ d.usable = true ∧
        "u" ∉ undercut.host.registry.uuids := by
  have reached : Reachable free undercut :=
    ⟨_, _, _, _, _, reaches_makeAll _ _ fun _ _ => trivial⟩
  refine ⟨reached, by rfl, _, (Option.some_get (by rfl)).symm, List.mem_singleton.2 (by rfl),
    by rfl, ?_⟩
  have none : undercut.host.registry.uuids = [] := by rfl
  rw [none]
  exact List.not_mem_nil

end Bench

end Piconet
