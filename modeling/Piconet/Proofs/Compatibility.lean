import Piconet.Proofs.Merging
import Piconet.Proofs.Synchrony
import Piconet.Proofs.DiscoveryTurn

/-!
# What batches do to compatibility

A device accepts a profile by its address and its capabilities, and both are kept once known. So a
batch takes nothing away from what a device accepts, and one that brings neither adds nothing either.
This is why `Host.applyBatch` has the device look through the registry only when a batch completes
its identity: as long as no stored profile is missed, to look through it after every batch would come
to the same (`Device.survey_of_covers`).
-/

namespace Piconet

open Bench (fitting matched)

/-- Changes among which are neither address nor capabilities do not touch the identity. -/
theorem Changes.identity_eq_false {c : Changes} (address : c.address = false)
    (capabilities : c.capabilities = false) : c.identity = false := by
  rw [identity, address, capabilities, Bool.or_self]

namespace Device

variable {d : Device} {p : Profile} {stored : List Profile}

/-- All that a device accepts among the given profiles is a candidate of it. -/
def Covers (d : Device) (stored : List Profile) : Prop :=
  ∀ p ∈ stored, d.accepts p → p.uuid ∈ d.candidates

/-! ## Acceptance -/

/-- What a device accepts it accepts after any number of batches. -/
theorem accepts_mergeAll (accepts : d.accepts p) (bs : List PropertyBatch) : (d.mergeAll bs).accepts p := by
  induction bs using List.reverseRecOn with
  | nil => exact accepts
  | append_singleton bs b ih =>
    rw [mergeAll_concat]
    exact accepts_merge ih b

/-! ## Surveys that bring nothing -/

/-- To a device that misses nothing a survey brings nothing. -/
theorem survey_of_covers (covers : d.Covers stored) : d.survey stored = d := by
  induction stored with
  | nil => rfl
  | cons p stored ih =>
    obtain ⟨first, rest⟩ := List.forall_mem_cons.1 covers
    have kept : (d.adopt? p).getD d = d := by
      rw [getD_adopt?]
      split
      · next accepts =>
        rw [track, if_pos (tracks_iff.2 (first accepts))]
      · rfl
    rw [survey, List.foldl_cons, kept]
    exact ih rest

/-- A batch that does not touch the identity of a device has it miss nothing that it did not miss. -/
theorem Covers.merge (covers : d.Covers stored) {b : PropertyBatch}
    (kept : (d.changes (d.merge b)).identity = false) : (d.merge b).Covers stored := by
  intro p isStored accepts
  rw [accepts_eq_of_identity kept] at accepts
  exact covers p isStored accepts

end Device

namespace Host

variable {h : Host} {id : DeviceId} {d : Device}

/-- What a batch makes of a device. -/
theorem device?_applyBatch (found : h.device? id = some d) (b : PropertyBatch) :
    (h.applyBatch id d b).device? id
      = some (if (d.changes (d.merge b)).identity then (d.merge b).survey h.registry.profiles
          else d.merge b) := by
  rw [applyBatch, emitAll_eq]
  exact device?_setDevice_self (h := { h with receivers := _ }) found _

/-- **To look through the registry only when the identity changes is enough**: a device that misses no
stored profile has after a batch what a look through the registry would give it. -/
theorem survey_of_applyBatch (found : h.device? id = some d) (covers : d.Covers h.registry.profiles)
    (b : PropertyBatch) :
    (h.applyBatch id d b).device? id = some ((d.merge b).survey h.registry.profiles) := by
  rw [device?_applyBatch found]
  split
  · rfl
  · next kept => rw [Device.survey_of_covers (covers.merge (Bool.eq_false_iff.2 kept))]

end Host

/-- **Compatibility only grows.** A profile that a device accepts, whatever batches it has merged, is accepted
after every further batch. A batch that changes neither the address nor the capabilities leaves it as it is
which profiles the device accepts. So a device that has no stored profile to take up need not look through the
registry after it: `Host.applyBatch`, which does so only when a batch completes the identity of the device, has
the same result as a survey after every batch. -/
theorem Device.compatibility_grows (d : Device) (bs : List PropertyBatch) (b : PropertyBatch) :
    (∀ p, d.accepts p → (d.mergeAll bs).accepts p)
    ∧ (∀ p, (d.mergeAll bs).accepts p → ((d.mergeAll bs).merge b).accepts p)
    ∧ (((d.mergeAll bs).changes ((d.mergeAll bs).merge b)).address = false →
        ((d.mergeAll bs).changes ((d.mergeAll bs).merge b)).capabilities = false →
        ∀ p, ((d.mergeAll bs).merge b).accepts p = (d.mergeAll bs).accepts p)
    ∧ ∀ (h : Host) (id : DeviceId), h.device? id = some (d.mergeAll bs) →
        (d.mergeAll bs).Covers h.registry.profiles →
        (h.applyBatch id (d.mergeAll bs) b).device? id
          = some (((d.mergeAll bs).merge b).survey h.registry.profiles) := by
  refine ⟨fun p accepts => accepts_mergeAll accepts bs, fun p accepts => accepts_merge accepts b,
    fun address capabilities p => ?_, fun h id found covers => ?_⟩
  · exact accepts_eq_of_identity (Changes.identity_eq_false address capabilities) p
  · exact Host.survey_of_applyBatch found covers b

/-- A device that accepts the profile to dial up with is told a name: it accepts the same as before,
and on a bench where it has the profile no look through the registry is needed. -/
theorem Device.compatibility_kept_with_name :
    let known := (fresh "/d" .bluez4 {}).mergeAll
      [{ address := some "1:2:3:4:5:6" }, { uuids := some ["1103-0"] }]
    let named : PropertyBatch := { name := some "m" }
    known.accepts fitting ∧ (known.merge named).accepts fitting
      ∧ (∀ p, (known.merge named).accepts p = known.accepts p)
      ∧ ∃ d, matched.host.device? 0 = some d ∧ d.accepts fitting
        ∧ (matched.host.applyBatch 0 d named).device? 0
          = some ((d.merge named).survey matched.host.registry.profiles) := by
  obtain ⟨-, grows, same, -⟩ := compatibility_grows (fresh "/d" .bluez4 {})
    [{ address := some "1:2:3:4:5:6" }, { uuids := some ["1103-0"] }] { name := some "m" }
  have accepts : ((fresh "/d" .bluez4 {}).mergeAll
      [{ address := some "1:2:3:4:5:6" }, { uuids := some ["1103-0"] }]).accepts fitting := by rfl
  have reached : Bench.Reachable Bench.orderly matched :=
    Bench.reachable_matched Bench.orderly_insert_fitting
  have there : matched.host.device? 0 = some ((matched.host.device? 0).get (by rfl)) :=
    (Option.some_get _).symm
  have covers : ((matched.host.device? 0).get (by rfl)).Covers
      matched.host.registry.profiles := fun p isStored accepts =>
    Bench.mem_candidates_of_accepts reached (by rfl) there isStored accepts
  refine ⟨accepts, grows fitting accepts, same (by rfl) (by rfl), _, there, by rfl, ?_⟩
  exact (compatibility_grows _ [] { name := some "m" }).2.2.2 _ 0 there covers

end Piconet
