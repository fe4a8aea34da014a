import Piconet.Proofs.Identifiers

/-!
# Devices listen

A device that is there is subscribed to the registry, so every announcement goes to it. Watchers
can cancel subscriptions by name; names stand for subscriptions of watchers only, so no watcher can
cancel the one of a device.
-/

namespace Piconet

variable {law : Core → Registry.Request → Prop} {c c' : Core} {s : Option (DeviceId × Profile)}

namespace Core

/-- What subscriptions, names and devices have in common. -/
structure Listening (c : Core) : Prop where
  /-- the subscription of a device has its identifier -/
  own : ∀ s ∈ c.subscriptions, ∀ id, s.listener = .device id → s.id = id
  /-- a name stands for no device, now or later -/
  named : ∀ name i, c.latest name = some i → i < c.nextId ∧ c.devices i = none
  /-- a device that is there listens -/
  listens : ∀ id d, c.devices id = some d → ∃ s ∈ c.subscriptions, s.listener = .device id

/-- At the start there are no devices and no watchers. -/
theorem listening_opening (isLoaded : Bool) (naming : Naming) : (opening isLoaded naming).Listening where
  own _ mem := absurd mem (by simp [opening])
  named _ _ found := absurd found (by simp [opening])
  listens _ _ found := absurd found (by simp [opening])

/-- A device subscribes under its own number, which no other subscription has. -/
theorem Step.subscriptionIds (step : Step law c s c')
    (own : ∀ s ∈ c.subscriptions, ∀ id, s.listener = .device id → s.id = id) :
    ∀ s ∈ c'.subscriptions, ∀ id, s.listener = .device id → s.id = id := by
  intro x mem id same
  cases step with
  | create path g t =>
    rcases List.mem_append.1 mem with mem | new
    · exact own x mem id same
    · obtain rfl := List.mem_singleton.1 new
      exact Listener.device.inj same
  | enlist name =>
    rcases List.mem_append.1 mem with mem | new
    · exact own x mem id same
    · obtain rfl := List.mem_singleton.1 new
      exact absurd same (by simp)
  | destroy | cancel | request | handedIn => exact own x (List.mem_filter.1 mem).1 id same
  | _ => exact own x mem id same

/-- The names of watchers stand for subscriptions that were made, never for one of a device. -/
theorem Step.named (step : Step law c s c') (upkeep : c.Upkeep)
    (named : ∀ name i, c.latest name = some i → i < c.nextId ∧ c.devices i = none) :
    ∀ name i, c'.latest name = some i → i < c'.nextId ∧ c'.devices i = none := by
  intro name i found
  -- no device comes under an identifier that was given out to somebody else
  have gone {i : Nat} (given : i < c.nextId) (absent : c.devices i = none) : c'.devices i = none := by
    apply Option.eq_none_iff_forall_ne_some.2
    intro e there
    rcases step.origin there with ⟨d, found, -⟩ | ⟨rfl, -⟩
    · exact absurd (absent.symm.trans found) (by simp)
    · exact absurd given (Nat.lt_irrefl _)
  have old (found : c.latest name = some i) : i < c'.nextId ∧ c'.devices i = none := by
    obtain ⟨given, absent⟩ := named name i found
    exact ⟨Nat.lt_of_lt_of_le given step.nextId_le, gone given absent⟩
  cases step with
  | enlist name' =>
    replace found : Function.update c.latest name' (some c.nextId) name = some i := found
    rw [Function.update_apply] at found
    split at found
    · obtain rfl := Option.some.inj found
      refine ⟨Nat.lt_succ_self _, ?_⟩
      apply Option.eq_none_iff_forall_ne_some.2
      intro d there
      exact absurd (upkeep.known _ d there) (Nat.lt_irrefl _)
    · exact old found
  | _ => exact old found

/-- A device subscribes when it is created and stays subscribed until it is dropped. -/
theorem Step.listens (step : Step law c s c') (listening : c.Listening) :
    ∀ id d, c'.devices id = some d → ∃ s ∈ c'.subscriptions, s.listener = .device id := by
  intro id e there
  rcases step.origin there with ⟨d, found, -⟩ | ⟨rfl, -, subscribed, -⟩
  · obtain ⟨x, mem, same⟩ := listening.listens id d found
    cases step with
    | create | enlist => exact ⟨x, List.mem_append_left _ mem, same⟩
    | destroy j =>
      refine ⟨x, List.mem_filter.2 ⟨mem, ?_⟩, same⟩
      rcases eq_of_update there with ⟨-, hx⟩ | ⟨other, -⟩
      · exact absurd hx (by simp)
      · simpa [same] using other
    | cancel name i named =>
      refine ⟨x, List.mem_filter.2 ⟨mem, ?_⟩, same⟩
      have absent := (listening.named name i named).2
      have other : x.id ≠ i := by
        rw [listening.own x mem id same]
        rintro rfl
        exact absurd (absent.symm.trans found) (by simp)
      simpa using other
    | request q r n lives isOpen lawful handled living =>
      refine ⟨x, List.mem_filter.2 ⟨mem, ?_⟩, same⟩
      rw [same, living, found]
      rfl
    | handedIn j d' ds name lives next found' lacks due accepted living =>
      refine ⟨x, List.mem_filter.2 ⟨mem, ?_⟩, same⟩
      rw [same, living, found]
      rfl
    | _ => exact ⟨x, mem, same⟩
  · rw [subscribed]
    exact ⟨_, List.mem_append_right _ (List.mem_singleton.2 rfl), rfl⟩

/-- **Every step keeps the devices listening.** -/
theorem Step.listening (step : Step law c s c') (upkeep : c.Upkeep) (listening : c.Listening) :
    c'.Listening where
  own := step.subscriptionIds listening.own
  named := step.named upkeep listening.named
  listens := step.listens listening

end Core

/-- **In every run each device is subscribed to the registry**, under its own number. -/
theorem Bench.Reachable.listening {b : Bench} {law : Law} (reached : Reachable law b) :
    b.host.core.Listening := by
  suffices all : b.host.core.Upkeep ∧ b.host.core.Listening from all.2
  refine reached.core_induction (P := fun c => c.Upkeep ∧ c.Listening) ?_ ?_
  · exact fun isLoaded naming => ⟨Core.upkeep_opening isLoaded naming, Core.listening_opening isLoaded naming⟩
  · rintro c s c' ⟨upkeep, listening⟩ step
    exact ⟨step.upkeep upkeep, step.listening upkeep listening⟩

end Piconet
