import Piconet.Proofs.Layers

/-!
# Deaf to its own echo

A device that submits a profile is not to hear of it, so it is deaf to additions while it submits
one. It is deaf to all of them. What a listener does when it hears of a change is over when the rest
of the announcement is all that is left to do (`Bench.Until`). For a device and an addition that is
soon: it takes the profile up and is assessed, and as it has a candidate then, it submits nothing.
-/

namespace Piconet

open Bench (free)

variable {id : DeviceId} {d e : Device} {p : Profile} {stored : List Profile} {b c c' : Bench}
  {ds : List Duty} {ls : List Listener}

/-- What a device makes of an addition. -/
theorem Device.hear_added (d : Device) (stored : List Profile) (p : Profile) :
    d.hear stored (.added p) =
      if d.submitting = false ∧ d.accepts p ∧ p.uuid ∉ d.candidates
        then some { d with candidates := p.uuid :: d.candidates } else none := by
  rw [hear]
  by_cases busy : d.submitting = true
  · rw [if_pos busy, if_neg (by simp [busy])]
  · rw [if_neg busy]
    split
    · next fits => exact adopt?_eq_some.2 ⟨fits.2.1, fits.2.2, rfl⟩
    · next misfit =>
      apply Option.eq_none_iff_forall_ne_some.2
      intro e adopts
      obtain ⟨accepts, untracked, -⟩ := adopt?_eq_some.1 adopts
      exact misfit ⟨Bool.not_eq_true _ ▸ busy, accepts, untracked⟩

namespace Bench

/-- A run up to the first time that a part of the agenda is all that is left of it. -/
inductive Until (ds : List Duty) : Bench → Bench → Prop
  | here {b : Bench} (left : b.host.agenda = ds) : Until ds b b
  | move {b c c' : Bench} (m : Move) (busy : b.host.agenda ≠ ds) (made : b.make m = some c)
      (rest : Until ds c c') : Until ds b c'

/-- Nothing comes in while something is due that is neither a watcher's nor a run's. -/
theorem eq_act_of_busy {duty : Duty} {m : Move} (next : b.host.agenda = duty :: ds)
    (watch : duty.isWatch = false) (pursuit : duty.isPursuit = false) (made : b.make m = some c) :
    m = .act := by
  have quiet : b.host.core.isQuiet = false := by
    simp [Core.isQuiet, show b.host.core.agenda = _ from next, pursuit]
  have isOpen : b.host.core.isOpen = false := by
    simp [Core.isOpen, quiet, show b.host.core.agenda = _ from next, watch]
  cases m with
  | act => rfl
  | step => simp [make, isOpen] at made
  | poll | follow | report => simp [make, quiet] at made

/-- Where one duty is first, a run up to its end goes on by doing it. -/
theorem until_iff {duty : Duty} {rest : List Duty} (next : b.host.agenda = duty :: rest)
    (watch : duty.isWatch = false) (pursuit : duty.isPursuit = false) (busy : duty :: rest ≠ ds) :
    Until ds b c' ↔ Until ds (b.onHost fun h => (h.withAgenda rest).act duty) c' := by
  have made : b.make .act = some (b.onHost fun h => (h.withAgenda rest).act duty) := by
    rw [make, next]
  constructor
  · intro run
    cases run with
    | here left => exact absurd (next.symm.trans left) busy
    | move m _ goes run =>
      obtain rfl := eq_act_of_busy next watch pursuit goes
      rwa [Option.some.inj (made.symm.trans goes)]
  · exact .move .act (next ▸ busy) made

theorem until_of_left (left : b.host.agenda = ds) : Until ds b c ↔ c = b := by
  constructor
  · intro run
    cases run with
    | here => rfl
    | move m busy => exact absurd left busy
  · rintro rfl
    exact .here left

/-- A device with a candidate is assessed: it may be usable now, and nothing else changes. -/
theorem reassess_of_matched {h : Host} (there : h.device? id = some d) (matched : d.candidates ≠ []) :
    ∃ e, (h.reassess id).device? id = some e ∧ (∃ usable, e = { d with usable }) ∧
      (h.reassess id).agenda = h.agenda := by
  rw [Host.reassess]
  simp only [there]
  cases decision : d.gate.decision with
  | provision => exact absurd (Device.of_provision decision).2.1 matched
  | decided usable =>
    simp only [Host.setUsable, there]
    split
    · exact ⟨d, there, ⟨d.usable, rfl⟩, rfl⟩
    · refine ⟨{ d with usable }, ?_, ⟨usable, rfl⟩, rfl⟩
      have set : (h.devices.modify id fun _ => { d with usable }).get? id =
          (h.devices.get? id).map fun _ => { d with usable } :=
        (Table.get?_modify h.devices id id _).trans (if_pos rfl)
      exact set.trans (congrArg (Option.map _) there)

theorem Reachable.submitting {law : Law} (reached : Reachable law b) : b.host.core.Submitting :=
  reached.core_induction (fun _ _ _ _ found => absurd found (by simp [Core.opening]))
    fun _ _ _ submitting step => step.submitting submitting

/-- **What a device makes of an `Added` notification.** Let it be the device's turn to hear of an added profile,
in any state of any run. What the device does about it comes to an end, and then the profile is one of its
candidates if it was one before, or if the device accepts it and `submitting` is not set; nothing else about its
candidates has changed. The flag is set as long as the device has still to adopt a profile that it submitted,
whichever profile is being announced. -/
theorem tracks_iff_of_heard (reached : Reachable free b)
    (next : b.host.agenda = .announce (.added p) (.device id :: ls) :: ds)
    (there : b.host.device? id = some d) :
    (d.submitting = true → ∃ uuid, .adopt id uuid ∈ ds) ∧
      (∃ c, Until (.announce (.added p) ls :: ds) b c) ∧
      ∀ c, Until (.announce (.added p) ls :: ds) b c → ∃ e, c.host.device? id = some e ∧
        (p.uuid ∈ e.candidates ↔ p.uuid ∈ d.candidates ∨ d.submitting = false ∧ d.accepts p) ∧
        (∀ u ≠ p.uuid, u ∈ e.candidates ↔ u ∈ d.candidates) ∧
        e.accepts = d.accepts ∧ e.submitting = d.submitting ∧ e.provisioned = d.provisioned := by
  constructor
  · intro busy
    obtain ⟨uuid, due⟩ := reached.submitting id d there busy
    rw [show b.host.core.agenda = _ from next] at due
    rcases List.mem_cons.1 due with same | due
    · exact absurd same (by simp)
    · exact ⟨uuid, due⟩
  let rest : List Duty := .announce (.added p) ls :: ds
  -- the only way on is that the device hears of the addition
  let h := (b.host.withAgenda ds).urge [.announce (.added p) ls]
  have onward (x : Bench) : Until rest b x ↔
      Until rest { b with host := h.hear (.added p) (.device id) } x :=
    until_iff next rfl rfl (by simp [rest])
  have found : h.device? id = some d := there
  by_cases takes : d.submitting = false ∧ d.accepts p ∧ p.uuid ∉ d.candidates
  · -- it takes the profile up and is assessed
    let d' := { d with candidates := p.uuid :: d.candidates }
    let h' := (h.setDevice id d').urge [.reassess id]
    have hears : h.hear (.added p) (.device id) = h' := by
      rw [Host.hear, found, Option.bind_some, Device.hear_added, if_pos takes]
    have set : (h'.withAgenda rest).device? id = some d' := by
      change (h.devices.modify id fun _ => d').get? id = some d'
      rw [Table.get?_modify, if_pos rfl, show h.devices.get? id = some d from found, Option.map_some]
    obtain ⟨e, kept, ⟨usable, rfl⟩, left⟩ := reassess_of_matched set (List.cons_ne_nil _ _)
    have onward (x : Bench) :
        Until rest b x ↔ x = { b with host := (h'.withAgenda rest).reassess id } := by
      have following : ({ b with host := h' } : Bench).host.agenda = .reassess id :: rest := rfl
      have assesses : Until rest { b with host := h' } x ↔
          Until rest { b with host := (h'.withAgenda rest).reassess id } x :=
        until_iff following rfl rfl (List.cons_ne_self _ _)
      rw [onward, hears, assesses]
      exact until_of_left left
    refine ⟨⟨_, (onward _).2 rfl⟩, ?_⟩
    intro c run
    obtain rfl := (onward c).1 run
    refine ⟨_, kept, ⟨fun _ => .inr ⟨takes.1, takes.2.1⟩, fun _ => List.mem_cons_self⟩, ?_, rfl, rfl, rfl⟩
    intro u other
    exact List.mem_cons.trans (or_iff_right other)
  · -- it does nothing
    have hears : h.hear (.added p) (.device id) = h := by
      rw [Host.hear, found, Option.bind_some, Device.hear_added, if_neg takes]
    have onward (x : Bench) : Until rest b x ↔ x = { b with host := h } := by
      rw [onward, hears]
      exact until_of_left rfl
    refine ⟨⟨_, (onward _).2 rfl⟩, ?_⟩
    intro c run
    obtain rfl := (onward c).1 run
    refine ⟨d, found, ⟨.inl, ?_⟩, fun _ _ => Iff.rfl, rfl, rfl, rfl⟩
    rintro (tracked | ⟨idle, fits⟩)
    · exact tracked
    · by_contra untracked
      exact takes ⟨idle, fits, untracked⟩

/-- Another profile for the device of the stub. -/
def spare : Profile := { fitting with uuid := "v" }

/-- A bench on which a profile has just been added for a device that is up. -/
def spared : Bench := matched.makeAll [.step (.command (.request (.insert spare)))]

/-- A profile is added for a device that is submitting none, and becomes a candidate. -/
theorem tracks_spared :
    Reachable free spared ∧ spared.host.agenda = [.announce (.added spare) [.device 0]] ∧
      ∃ d, spared.host.device? 0 = some d ∧ d.accepts spare ∧
        ∃ c e, Until [.announce (.added spare) []] spared c ∧ c.host.device? 0 = some e ∧
          "v" ∈ e.candidates := by
  have reached : Reachable free spared :=
    (reachable_matched trivial).trans (reaches_makeAll _ _ fun _ _ => trivial)
  have next : spared.host.agenda = [.announce (.added spare) [.device 0]] := by rfl
  let d := (spared.host.device? 0).get (by rfl)
  have there : spared.host.device? 0 = some d := (Option.some_get _).symm
  have fits : d.accepts spare = true := by rfl
  obtain ⟨-, ⟨c, run⟩, heard⟩ := tracks_iff_of_heard reached next there
  obtain ⟨e, found, tracks, -⟩ := heard c run
  exact ⟨reached, next, d, there, fits, c, e, run, found, tracks.2 (.inr ⟨rfl, fits⟩)⟩

/-- A profile for an access point, from somebody else. -/
def foreign : Profile := .forAccessPoint "u" "n" ⟨1, 2, 3, 4, 5, 6⟩

/-- A bench whose only device hands a profile in. A watcher, which hears of the profile before the
device does, adds another one for the same device in the middle of the announcement. -/
def echoing (duties : Nat) : Bench :=
  let rule : Rule := { on := .added, uuid := none, steps := [.request (.insert foreign)], times := 1 }
  (opening .bluez4 (.stub (offering "1116-0")) true none).makeAll
    (([.step (.command (.subscribe "W" [rule])), .step (.newDevice "D" "/d" none {}),
      .step (.run "D"), .poll 2] : List Move) ++ List.replicate duties Move.act)

/-- **More than its own echo is suppressed**: while a device submits a profile, a watcher inserts another one
that the device accepts. The device hears of it and does not track it, and when everything is over the profile
is stored and still no candidate. -/
theorem misses_echoing :
    Reachable free (echoing 13) ∧
      (∃ d ls ds uuid, (echoing 13).host.device? 1 = some d ∧ d.accepts foreign ∧
        (echoing 13).host.agenda = .announce (.added foreign) (.device 1 :: ls) :: ds ∧
        .adopt 1 uuid ∈ ds ∧ foreign.uuid ≠ uuid ∧
        Until (.announce (.added foreign) ls :: ds) (echoing 13) (echoing 14)) ∧
      ((echoing 14).host.device? 1).map (·.candidates) = some [] ∧
      (echoing 23).host.agenda = [] ∧ foreign ∈ (echoing 23).host.registry.profiles ∧
      ((echoing 23).host.device? 1).map (·.candidates) = some ["prov:010203040506:1"] := by
  let d := ((echoing 13).host.device? 1).get (by rfl)
  let ds := (echoing 13).host.agenda.tail
  have there : (echoing 13).host.device? 1 = some d := (Option.some_get _).symm
  have next : (echoing 13).host.agenda = .announce (.added foreign) [.device 1] :: ds := by rfl
  have left : (echoing 14).host.agenda = .announce (.added foreign) [] :: ds := by rfl
  have due : .adopt 1 "prov:010203040506:1" ∈ ds := List.mem_of_getElem? (i := 4) (by rfl)
  have heard : Until (.announce (.added foreign) [] :: ds) (echoing 13) (echoing 14) :=
    .move .act (by simp [next]) (by rfl) (.here left)
  exact ⟨⟨_, _, _, _, _, reaches_makeAll _ _ fun _ _ => trivial⟩,
    ⟨d, [], ds, _, there, by rfl, next, due, by decide, heard⟩, by rfl, by rfl,
    List.mem_of_getElem? (i := 1) (by rfl), by rfl⟩

end Bench

end Piconet
