import Piconet.Proofs.Identifiers

/-!
# Provisioning

A device hands a profile in at most once, and only when it lacks nothing else. Where it does so is
one place on the agenda, its own assessment, which may come up while the device's earlier
submission is still being announced. The attempt is noted with the device before the registry is
asked, and no step takes the note back; so a second submission could only come from another device
under the same identifier, and identifiers are not given out twice.
-/

namespace Piconet

variable {law : Core → Registry.Request → Prop} {c c' : Core} {s : Option (DeviceId × Profile)}
  {id : DeviceId} {p : Profile}

/-- **What has to be there when a device submits a profile**, and what the profile is: a Bluetooth
profile for its access point, bound to its address and called after it. -/
structure Device.MaySubmit (d : Device) (r : Registry) (p : Profile) : Prop where
  initialized : d.initialized = true
  /-- the device has a name, which the profile goes by -/
  name : ∃ name, d.name = some name ∧ p.id = name ++ " Network"
  /-- the address of the device is known, and the profile is bound to it -/
  address : ∃ a, d.address = some a ∧
    p.bluetooth = some { bdaddr := a.bytes.toList, deviceType := "panu" }
  bluetooth : p.connectionType = "bluetooth"
  accessPoint : d.capabilities.nap = true
  adapter : d.adapter = .notRequired ∨ d.adapter = .resolved true
  /-- nothing that is stored would do -/
  alone : d.candidates = []
  loaded : r.loaded = true
  /-- the device would take the profile up if it were somebody else's -/
  accepted : d.accepts p = true

namespace Core

/-! ## One step -/

/-- What the gate and the device's own record ask for before a profile is submitted. -/
theorem maySubmit {d : Device} {name : String} (lacks : d.gate.decision = .provision)
    (due : d.dueProfileName? c.registry.loaded = some name) :
    d.attempted = false ∧ d.MaySubmit c.registry (c.profileFor d name) := by
  obtain ⟨ready, alone, nap⟩ := Device.of_provision lacks
  simp only [Device.gate, Gate.ready, Bool.and_eq_true] at ready
  obtain ⟨⟨⟨⟨⟨initialized, -⟩, -⟩, -⟩, addressed⟩, adapter⟩ := ready
  obtain ⟨a, known⟩ := Option.isSome_iff_exists.1 addressed
  have bytes : d.binAddress = a.bytes := by rw [Device.binAddress, known]
  have bound : (c.profileFor d name).bluetooth =
      some { bdaddr := a.bytes.toList, deviceType := "panu" } := by
    rw [profileFor, bytes]
    rfl
  rw [Device.dueProfileName?] at due
  obtain ⟨open_, named⟩ := Option.ite_none_left_eq_some.1 due
  simp only [Bool.or_eq_true, not_or, Bool.not_eq_true, Bool.not_eq_false'] at open_
  obtain ⟨⟨⟨⟨fresh, -⟩, -⟩, -⟩, loaded⟩ := open_
  refine ⟨fresh, initialized, ⟨name, named, rfl⟩, ⟨a, known, bound⟩, rfl, nap, ?_, alone, loaded, ?_⟩
  · cases power : d.adapter with
    | notRequired => exact .inl rfl
    | pending => exact absurd adapter (by simp [power, AdapterState.ready])
    | resolved on =>
      rw [power] at adapter
      exact .inr (congrArg _ adapter)
  · refine Device.accepts_iff.2 ⟨rfl, addressed, _, bound, ?_, .panu, rfl, nap⟩
    rw [bytes]

/-- A step in which no device submits a profile has none noted. -/
theorem Step.submissions (step : Step law c none c') : c'.submissions.Sublist c.submissions := by
  cases step with
  | reported => exact List.nil_sublist _
  | _ => exact List.Sublist.refl _

/-- What goes on by itself between duties submits nothing. -/
theorem Steps.submissions (steps : Steps law c c') : c'.submissions.Sublist c.submissions := by
  induction steps with
  | refl => exact List.Sublist.refl _
  | tail _ step ih => exact step.submissions.trans ih

/-- **A step in which a device submits a profile**: it is being assessed, everything is there, and
from now on it has made its attempt. -/
theorem Step.submits (step : Step law c (some (id, p)) c') :
    c.agenda.head? = some (.reassess id) ∧ c'.submissions = c.submissions ++ [p] ∧
      ∃ d e, c.devices id = some d ∧ d.attempted = false ∧ d.MaySubmit c.registry p ∧
        c'.devices id = some e ∧ e.attempted = true := by
  cases step with
  | turnedDown _ d ds name why next found lacks due refused =>
    obtain ⟨fresh, may⟩ := maySubmit lacks due
    exact ⟨by rw [next]; rfl, rfl, d, _, found, fresh, may, Function.update_self .., rfl⟩
  | handedIn _ d ds name lives next found lacks due accepted living =>
    obtain ⟨fresh, may⟩ := maySubmit lacks due
    exact ⟨by rw [next]; rfl, rfl, d, _, found, fresh, may, Function.update_self .., rfl⟩

/-! ## One attempt -/

/-- The attempt of a device is made, also when the device is gone. -/
def Spent (id : DeviceId) (c : Core) : Prop :=
  id < c.nextId ∧ ∀ d, c.devices id = some d → d.attempted = true

/-- An attempt that was made is made for good. -/
theorem Step.spent (step : Step law c s c') (spent : c.Spent id) : c'.Spent id := by
  obtain ⟨known, attempted⟩ := spent
  refine ⟨Nat.lt_of_lt_of_le known step.nextId_le, ?_⟩
  intro e there
  rcases step.origin there with ⟨d, found, revises⟩ | ⟨rfl, -⟩
  · exact revises.attempted (attempted d found)
  · exact absurd known (Nat.lt_irrefl _)

/-- To submit is to use up the attempt. -/
theorem Step.spent_of_submits (step : Step law c (some (id, p)) c') (upkeep : c.Upkeep) :
    c'.Spent id := by
  obtain ⟨-, -, d, e, found, -, -, there, attempted⟩ := step.submits
  refine ⟨Nat.lt_of_lt_of_le (upkeep.known id d found) step.nextId_le, ?_⟩
  intro x hx
  obtain rfl := Option.some.inj (there.symm.trans hx)
  exact attempted

end Core

namespace Bench

variable {b b' c : Bench}

/-! ## All runs -/

/-- From one bench to the other a device submits a profile: it is being assessed, and the profile is
noted. -/
def Submits (id : DeviceId) (p : Profile) (b b' : Bench) : Prop :=
  b.host.agenda.head? = some (.reassess id) ∧ b.make .act = some b' ∧
    b'.host.submissions = b.host.submissions ++ [p]

/-- A move that notes a submission is a step in which the device submits the profile. -/
theorem Submits.step (reached : Reachable free b) (submits : Submits id p b b') :
    Core.Step free b.host.core (some (id, p)) b'.host.core := by
  obtain ⟨head, made, noted⟩ := submits
  have more : ¬ b'.host.submissions.Sublist b.host.submissions := by
    intro fewer
    have := fewer.length_le
    rw [noted, List.length_append] at this
    exact absurd this (by simp)
  rcases reached.steps_make made with steps | ⟨-, s, step⟩
  · exact absurd steps.submissions more
  · cases s with
    | none => exact absurd step.submissions more
    | some s =>
      obtain ⟨j, q⟩ := s
      obtain ⟨head', noted', -⟩ := step.submits
      obtain ⟨rfl⟩ : id = j := by
        have same := head.symm.trans head'
        simpa using same
      obtain rfl : p = q := by
        have same : b.host.submissions ++ [p] = b.host.submissions ++ [q] := noted.symm.trans noted'
        simpa using same
      exact step

/-- **Provisioning happens at most once and only when due.** A move of any run adds nothing to the profiles that
were submitted, or one that a device submits while it is being assessed. Then the registry was loaded, and the
device was an initialized access point with a name, an address, an adapter that did not stand in the way and no
candidate; the profile is a Bluetooth profile for that address, named after the device, and the device accepts
it (`Device.MaySubmit`). Whatever comes after, the device never submits again. -/
theorem submits_once_when_due {m : Move} (reached : Reachable free b) (made : b.make m = some b') :
    (b'.host.submissions.Sublist b.host.submissions ∨ ∃ id p, Submits id p b b') ∧
    ∀ id p, Submits id p b b' →
      (∃ d, b.host.device? id = some d ∧ d.MaySubmit b.host.registry p) ∧
      ∀ c c' q, Reaches free b' c → ¬ Submits id q c c' := by
  refine ⟨?_, ?_⟩
  · have lawful : ∀ h q, b.request? m = some (h, q) → free h.core q := fun _ _ _ => trivial
    rcases steps_make reached.pursuitsLast lawful made with steps | ⟨rfl, s, step⟩
    · exact .inl steps.submissions
    · cases s with
      | none => exact .inl step.submissions
      | some s =>
        obtain ⟨head, noted, -⟩ := step.submits
        exact .inr ⟨s.1, s.2, head, made, noted⟩
  · intro id p first
    have step := first.step reached
    obtain ⟨-, -, d, -, found, -, may, -⟩ := step.submits
    refine ⟨⟨d, found, may⟩, ?_⟩
    intro c c' q run second
    -- the attempt stays made on the way to the second submission, which asks for none
    have reached' : Reachable free b' :=
      reached.trans (Reaches.refl.move .act (fun _ _ _ => trivial) first.2.1)
    have spent : c.host.core.Spent id :=
      (run.runs reached'.pursuitsLast).preserves (fun _ _ _ spent step => step.spent spent)
        (step.spent_of_submits reached.upkeep)
    obtain ⟨-, -, e, -, there, fresh, -⟩ := (second.step (reached'.trans run)).submits
    exact absurd (spent.2 e there) (by simp [fresh])

/-- An access point submits its profile in the seventh duty after it was brought up, and none later. -/
theorem submits_bringingUp :
    ∃ p, Submits 0 p (bringingUp 6) (bringingUp 7) ∧
      (∃ d, (bringingUp 6).host.device? 0 = some d ∧ d.MaySubmit (bringingUp 6).host.registry p) ∧
      ∀ c c' q, Reaches free (bringingUp 7) c → ¬ Submits 0 q c c' := by
  have made : (bringingUp 6).make .act = some (bringingUp 7) := by rfl
  obtain ⟨p, noted⟩ : ∃ p, (bringingUp 7).host.submissions =
      (bringingUp 6).host.submissions ++ [p] := ⟨_, rfl⟩
  have submits : Submits 0 p (bringingUp 6) (bringingUp 7) := ⟨by rfl, made, noted⟩
  exact ⟨p, submits, (submits_once_when_due (reachable_bringingUp 6) made).2 0 p submits⟩

end Bench

end Piconet
