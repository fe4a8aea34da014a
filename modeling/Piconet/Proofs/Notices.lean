import Piconet.Proofs.Layers
import Piconet.Proofs.Listening

/-!
# Announcements tell the truth

When nobody else calls back into the registry, what is announced is true for as long as it is
announced: no other change but the submission of a profile comes in between, and the UUID of
that one is new. `Core.Coherent` is what this takes, and `Core.Tame` gathers all that is known of a
core in such runs.
-/

namespace Piconet

open Registry (Notice)
open Bench (orderly)

variable {law : Core → Registry.Request → Prop} {c c' : Core} {s : Option (DeviceId × Profile)}
  {id : DeviceId} {n : Notice} {p x : Profile} {u : String}

namespace Core

/-! ## UUIDs in use -/

/-- Submissions are only ever added at the end of the record. -/
theorem Step.submitted (step : Step law c s c') : c.submitted <+: c'.submitted := by
  cases step with
  | turnedDown | handedIn => exact List.prefix_append _ _
  | _ => exact List.prefix_refl _

/-- A UUID that was used for a submission remains so. -/
theorem Step.old (step : Step law c s c') (old : c.Old u) : c'.Old u := fun a n same =>
  Nat.le_trans (old a n (step.naming ▸ same)) (step.submitted.sublist.count_le a)

/-- The UUID of a profile that a device submits was not in use. -/
theorem Old.ne (old : c.Old u) (d : Device) (name : String) : u ≠ (c.profileFor d name).uuid :=
  fun same => Nat.not_succ_le_self _ (old d.binAddress _ same)

/-- When nobody else calls back, what is announced is about a UUID that is in use. -/
theorem Announces.old (announces : Announces orderly c c' n) (step : Step orderly c s c')
    (stored : ∀ p ∈ c.registry.profiles, c.Old p.uuid) (about : n.profile? = some p) :
    c'.Old p.uuid := by
  rcases announces.cause with ⟨-, same, q, r, lawful, handled⟩ | ⟨d, name, rfl, more⟩
  · rcases announces.effect.known about with rfl | ⟨x, mem, same⟩
    · exact step.old (lawful.2 p (Registry.brings_of_added handled))
    · rw [← same]
      exact step.old (stored x mem)
  · obtain rfl := Option.some.inj about
    intro a n same
    rw [step.naming] at same
    obtain ⟨rfl, rfl⟩ := c.naming.injective same
    have counted : c'.submitted.count d.binAddress = c.submitted.count d.binAddress + 1 := by
      rw [more, List.count_append, List.count_singleton_self]
    exact Nat.le_of_eq counted.symm

/-- While anything is announced, only devices change the registry: they submit profiles. -/
theorem Announces.submission (announces : Announces orderly c c' n) {duty : Duty}
    (due : duty ∈ c.agenda) (lasting : duty.isPursuit = false) :
    ∃ d name, n = .added (c.profileFor d name) := by
  rcases announces.cause with ⟨-, -, q, r, lawful, -⟩ | ⟨d, name, same, -⟩
  · have pursuit : duty.isPursuit := List.all_eq_true.1 lawful.1 duty due
    rw [lasting] at pursuit
    exact absurd pursuit (by simp)
  · exact ⟨d, name, same⟩

/-! ## Coherence -/

/-- What the stored profiles and the announcements have in common. -/
structure Coherent (c : Core) : Prop where
  distinct : (c.registry.profiles.map (·.uuid)).Nodup
  old : ∀ p ∈ c.registry.profiles, c.Old p.uuid
  /-- what is announced is about a UUID in use, too -/
  about : ∀ n ls, .announce n ls ∈ c.agenda → ∀ p, n.profile? = some p → c.Old p.uuid
  /-- what is announced is true -/
  agrees : ∀ n ls, .announce n ls ∈ c.agenda → n.Agrees c.registry.profiles

theorem coherent_opening (isLoaded : Bool) (naming : Naming) : (opening isLoaded naming).Coherent where
  distinct := List.nodup_nil
  old _ mem := absurd mem (by simp [opening])
  about _ _ mem := absurd mem (by simp [opening])
  agrees _ _ mem := absurd mem (by simp [opening])

/-- What was announced before a change of the registry is true after it. -/
theorem Announces.agrees (announces : Announces orderly c c' n) (coherent : c.Coherent)
    {m : Notice} {ls : List Listener} (due : .announce m ls ∈ c.agenda) :
    m.Agrees c'.registry.profiles := by
  -- while anything is announced, only a device changes the registry, and under a new UUID
  obtain ⟨d, name, rfl⟩ := announces.submission due rfl
  apply announces.effect.still (coherent.agrees m ls due)
  rintro p _ about ⟨⟩
  exact (coherent.about m ls due p about).ne d name

/-- **Every step keeps registry and announcements coherent**, when nobody else calls back. -/
theorem Step.coherent (step : Step orderly c s c') (coherent : c.Coherent) : c'.Coherent := by
  obtain ⟨registry, arises⟩ := step.arises
  refine ⟨?_, ?_, ?_, ?_⟩
  · rcases registry with same | ⟨n, announces⟩
    · rw [same]
      exact coherent.distinct
    · exact announces.effect.nodup coherent.distinct
  · intro p mem
    rcases registry with same | ⟨n, announces⟩
    · rw [same] at mem
      exact step.old (coherent.old p mem)
    · rcases announces.effect.mem mem with new | ⟨before, -⟩
      · have about : n.profile? = some p := by rcases new with rfl | rfl <;> rfl
        exact announces.old step coherent.old about
      · exact step.old (coherent.old p before)
  · intro n ls mem p about
    cases arises _ mem with
    | kept due => exact step.old (coherent.about n ls due p about)
    | heard ls' due => exact step.old (coherent.about n _ due p about)
    | announced announces => exact announces.old step coherent.old about
    | pursuit isPursuit => exact absurd isPursuit (by simp [Duty.isPursuit])
    | watch isWatch => exact absurd isWatch (by simp [Duty.isWatch])
  · intro n ls mem
    have before {ls' : List Listener} (due : .announce n ls' ∈ c.agenda) :
        n.Agrees c'.registry.profiles := by
      rcases registry with same | ⟨m, announces⟩
      · rw [same]
        exact coherent.agrees n _ due
      · exact announces.agrees coherent due
    cases arises _ mem with
    | kept due => exact before due
    | heard ls' due => exact before due
    | announced announces => exact announces.effect.agrees
    | pursuit isPursuit => exact absurd isPursuit (by simp [Duty.isPursuit])
    | watch isWatch => exact absurd isWatch (by simp [Duty.isWatch])

/-! ## Tame cores -/

/-- What holds of a core as long as nobody but devices calls back into the registry. -/
structure Tame (c : Core) : Prop where
  upkeep : c.Upkeep
  listening : c.Listening
  layered : Layered c.devices c.agenda
  submitting : c.Submitting
  coherent : c.Coherent

theorem tame_opening (isLoaded : Bool) (naming : Naming) : (opening isLoaded naming).Tame where
  upkeep := upkeep_opening isLoaded naming
  listening := listening_opening isLoaded naming
  layered := .plain fun _ mem => absurd mem (by simp [opening])
  submitting _ _ found := absurd found (by simp [opening])
  coherent := coherent_opening isLoaded naming

/-- No UUID of a submission comes up for anything else, as long as only devices call back. -/
theorem Step.tame (step : Step orderly c s c') (tame : c.Tame) : c'.Tame where
  upkeep := step.upkeep tame.upkeep
  listening := step.listening tame.upkeep tame.listening
  layered := step.layered tame.upkeep tame.layered
  submitting := step.submitting tame.submitting
  coherent := step.coherent tame.coherent

end Core

end Piconet
