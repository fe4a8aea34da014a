import Piconet.Proofs.Simulation.Move

/-!
# What a step does

Whatever else a step does, what it does to a single device is one of a few things
(`Core.Revises`), and each of them takes something particular of the agenda. `Core.Step.origin`
says that there is nothing else, and the lemmas after it are what follows for any device in any step.

A step leaves the stored profiles alone, or it changes them and announces the change to all that
listen (`Core.Announces`); and whatever is on the agenda after it was there before, or has one of a
few reasons to be there (`Core.Arises`).
-/

namespace Piconet

open Function (update)

variable {law : Core → Registry.Request → Prop} {c c' : Core} {s : Option (DeviceId × Profile)}
  {id : DeviceId} {d e : Device} {p : Profile} {u : String}

namespace Core

/-! ## To a device -/

/-- What a step does to a device that outlives it. -/
inductive Revises (c c' : Core) (id : DeviceId) (d : Device) : Device → Prop
  | same : Revises c c' id d d
  | start (after : c'.agenda = c.agenda) : Revises c c' id d { d with started := true }
  | session (s : Session) (after : c'.agenda = c.agenda) : Revises c c' id d { d with session := s }
  | edit {e : Device} {es : List Event} {ds : List Duty} (next : c.agenda = .reassess id :: ds)
      (quiet : ds.all Duty.isPursuit) (edit : d.Edit c.registry.profiles e es)
      (up : e.initialized = true → d.initialized = true ∨
        ∃ run, c.standing.get? run = some ⟨id, true⟩)
      (after : c'.agenda = c.agenda) : Revises c c' id d e
  | power (on : Bool) (quiet : c.isQuiet) {run : RunId}
      (rising : c.standing.get? run = some ⟨id, false⟩) (after : c'.agenda = c.agenda) :
      Revises c c' id d { d with adapter := .resolved on }
  | hear {n : Registry.Notice} {ls : List Listener} {ds : List Duty} {e : Device}
      (next : c.agenda = .announce n (.device id :: ls) :: ds)
      (hears : d.hear c.registry.profiles n = some e)
      (after : c'.agenda = .reassess id :: .announce n ls :: ds) : Revises c c' id d e
  | decide (usable : Bool) {ds : List Duty} (next : c.agenda = .reassess id :: ds)
      (decided : d.gate.decision = .decided usable) (after : c'.agenda = ds) :
      Revises c c' id d { d with usable }
  | turnedDown {ds : List Duty} (next : c.agenda = .reassess id :: ds)
      (lacks : d.gate.decision = .provision) (after : c'.agenda = .conclude id :: ds) :
      Revises c c' id d { d with attempted := true }
  | handedIn (p : Profile) (ls : List Listener) {ds : List Duty}
      (next : c.agenda = .reassess id :: ds) (lacks : d.gate.decision = .provision)
      (after : c'.agenda = .announce (.added p) ls :: .adopt id p.uuid :: .conclude id :: ds) :
      Revises c c' id d { d with attempted := true, submitting := true }
  | adopt {uuid : String} {ds : List Duty} (next : c.agenda = .adopt id uuid :: ds)
      (after : c'.agenda = ds) :
      Revises c c' id d { d.track uuid with submitting := false, provisioned := some uuid }
  | conclude {ds : List Duty} (next : c.agenda = .conclude id :: ds) (after : c'.agenda = ds) :
      Revises c c' id d { d with usable := d.provisioned.isSome }

/-- What a device is updated to, and what all others stay. -/
theorem eq_of_update {f : DeviceId → Option Device} {j : DeviceId} {x : Option Device}
    (there : update f id x j = some e) : (j = id ∧ x = some e) ∨ (j ≠ id ∧ f j = some e) := by
  rw [Function.update_apply] at there
  split at there
  · next same => exact .inl ⟨same, there⟩
  · next other => exact .inr ⟨other, there⟩

/-- What a device is updated to when it stays, and what all others stay. -/
theorem eq_of_update_some {f : DeviceId → Option Device} {j : DeviceId} {x : Device}
    (there : update f j (some x) id = some e) : (id = j ∧ e = x) ∨ (id ≠ j ∧ f id = some e) :=
  (eq_of_update there).imp_left (And.imp_right fun hx => (Option.some.inj hx).symm)

/-- **Where a device comes from**: it was there before the step and was revised, or it is new. -/
theorem Step.origin (step : Step law c s c') (there : c'.devices id = some e) :
    (∃ d, c.devices id = some d ∧ c.Revises c' id d e) ∨
    (id = c.nextId ∧ c'.nextId = c.nextId + 1 ∧
      c'.subscriptions = c.subscriptions ++ [{ id, listener := .device id }] ∧
      ∃ path g t, e = .fresh path g t) := by
  have revised {j : DeviceId} {d x : Device} (found : c.devices j = some d)
      (revises : c.Revises c' j d x) (there : update c.devices j (some x) id = some e) :
      ∃ d, c.devices id = some d ∧ c.Revises c' id d e := by
    rcases eq_of_update_some there with ⟨rfl, rfl⟩ | ⟨-, kept⟩
    · exact ⟨d, found, revises⟩
    · exact ⟨e, kept, .same⟩
  cases step with
  | enlist | cancel | receivers | reported | endRuns | comeUp | defer | summon | requestUnheard
  | request | heardByAll | watched | turn | unmoved | late | concede =>
    exact .inl ⟨e, there, .same⟩
  | create path g t =>
    rcases eq_of_update_some there with ⟨same, new⟩ | ⟨-, kept⟩
    · exact .inr ⟨same, rfl, by rw [same], path, g, t, new⟩
    · exact .inl ⟨e, kept, .same⟩
  | destroy j =>
    rcases eq_of_update there with ⟨-, hx⟩ | ⟨-, kept⟩
    · exact absurd hx (by simp)
    · exact .inl ⟨e, kept, .same⟩
  | startRun j d found first => exact .inl (revised found (.start rfl) there)
  | session j d s found => exact .inl (revised found (.session s rfl) there)
  | findPower run j d on quiet found rising =>
    exact .inl (revised found (.power on quiet rising rfl) there)
  | edit j d x es ds next quiet found edit up =>
    exact .inl (revised found (.edit next quiet edit up rfl) there)
  | moved n j ls ds d x next found hears => exact .inl (revised found (.hear next hears rfl) there)
  | decide j d ds usable next found decided =>
    exact .inl (revised found (.decide usable next decided rfl) there)
  | turnedDown j d ds name why next found lacks =>
    exact .inl (revised found (.turnedDown next lacks rfl) there)
  | handedIn j d ds name lives next found lacks =>
    exact .inl (revised found (.handedIn _ _ next lacks rfl) there)
  | adopt j d uuid ds next found => exact .inl (revised found (.adopt next rfl) there)
  | conclude j d ds next found => exact .inl (revised found (.conclude next rfl) there)

theorem Step.nextId_le (step : Step law c s c') : c.nextId ≤ c'.nextId := by
  cases step <;> first | exact Nat.le_refl _ | exact Nat.le_succ _

namespace Revises

/-! ## What is kept -/

theorem started (revises : c.Revises c' id d e) (started : d.started) : e.started := by
  cases revises with
  | same | session | power | decide | turnedDown | handedIn | conclude => exact started
  | start => rfl
  | edit _ _ edit _ _ => rw [edit.kept.1, started]
  | hear _ hears _ => rw [Device.hear_eq hears]; exact started
  | adopt => rw [Device.track_eq]; exact started

/-- A device with which session calls can be made keeps to that. -/
theorem bound (revises : c.Revises c' id d e) (bound : d.bound) : e.bound := by
  cases revises with
  | same | start | session | power | decide | turnedDown | handedIn | conclude => exact bound
  | edit _ _ edit _ _ =>
    cases edit with
    | bus | power | report => exact bound
    | batch b =>
      split
      · rw [Device.survey_eq]
        exact bound
      · exact bound
    | fetch b => rfl
  | hear _ hears _ => rw [Device.hear_eq hears]; exact bound
  | adopt => rw [Device.track_eq]; exact bound

/-- The one attempt to submit a profile stays made. -/
theorem attempted (revises : c.Revises c' id d e) (attempted : d.attempted) : e.attempted := by
  cases revises with
  | same | start | session | power | decide | conclude => exact attempted
  | turnedDown | handedIn => rfl
  | edit _ _ edit _ _ => rw [edit.kept.2.1, attempted]
  | hear _ hears _ => rw [Device.hear_eq hears]; exact attempted
  | adopt => rw [Device.track_eq]; exact attempted

/-- Only a run that follows its device makes it initialized. -/
theorem initialized (revises : c.Revises c' id d e) (initialized : e.initialized = true) :
    d.initialized = true ∨ ∃ run, c.standing.get? run = some ⟨id, true⟩ := by
  cases revises with
  | same | start | session | power | decide | turnedDown | handedIn | conclude =>
    exact .inl initialized
  | edit _ _ _ up _ => exact up initialized
  | hear _ hears _ =>
    rw [Device.hear_eq hears] at initialized
    exact .inl initialized
  | adopt =>
    rw [Device.track_eq] at initialized
    exact .inl initialized

/-- Address and capabilities are kept once known. -/
theorem identity (revises : c.Revises c' id d e) (address : d.address.isSome)
    (capabilities : d.capabilities.isEmpty = false) :
    e.address = d.address ∧ e.capabilities = d.capabilities := by
  cases revises with
  | same | start | session | power | decide | turnedDown | handedIn | conclude =>
    exact ⟨rfl, rfl⟩
  | edit _ _ edit _ _ => exact edit.identity address capabilities
  | hear _ hears _ => rw [Device.hear_eq hears]; exact ⟨rfl, rfl⟩
  | adopt => rw [Device.track_eq]; exact ⟨rfl, rfl⟩

/-- A device accepts a profile for good. -/
theorem accepts (revises : c.Revises c' id d e) (accepts : d.accepts p) : e.accepts p := by
  cases revises with
  | same | start | session | power | decide | turnedDown | handedIn | conclude => exact accepts
  | edit _ _ edit _ _ => exact edit.accepts accepts
  | hear _ hears _ => rw [Device.hear_eq hears]; exact accepts
  | adopt => rw [Device.track_eq]; exact accepts

/-! ## Candidates -/

/-- A stored profile that a device comes to accept is a candidate of it at once. -/
theorem gained (revises : c.Revises c' id d e) (isStored : p ∈ c.registry.profiles)
    (accepted : e.accepts p) : d.accepts p ∨ p.uuid ∈ e.candidates := by
  cases revises with
  | same | start | session | power | decide | turnedDown | handedIn | conclude =>
    exact .inl accepted
  | edit _ _ edit _ _ =>
    by_cases before : d.accepts p
    · exact .inl before
    · exact .inr (edit.gained isStored accepted before)
  | hear _ hears _ =>
    rw [Device.hear_eq hears] at accepted
    exact .inl accepted
  | adopt =>
    rw [Device.track_eq] at accepted
    exact .inl accepted

/-- A device takes a candidate off only when it hears that it is removed, or that it has become one
that it does not accept. -/
theorem loses (revises : c.Revises c' id d e) (tracked : u ∈ d.candidates) :
    u ∈ e.candidates ∨ ∃ n ls q, .announce n ls ∈ c.agenda ∧
      (n = .removed q ∨ n = .updated q ∧ d.accepts q = false) ∧ q.uuid = u := by
  cases revises with
  | same | start | session | power | decide | turnedDown | handedIn | conclude =>
    exact .inl tracked
  | edit _ _ edit _ _ => exact .inl (edit.mono tracked)
  | @hear n ls ds _ next hears =>
    have due : .announce n (.device id :: ls) ∈ c.agenda := by
      rw [next]
      exact List.mem_cons_self
    rcases Device.hear_cases hears with ⟨p, -, -, -, rfl⟩ | ⟨p, about, -, rfl⟩ | ⟨-, rfl⟩
    · exact .inl (List.mem_cons_of_mem _ tracked)
    · by_cases same : p.uuid = u
      · exact .inr ⟨n, _, p, due, about, same⟩
      · exact .inl ((List.mem_erase_of_ne (Ne.symm same)).2 tracked)
    · exact .inl (Device.mem_survey.2 (.inl tracked))
  | adopt => exact .inl (Device.mem_track.2 (.inr tracked))

/-- A device takes a candidate up that it finds stored or hears of and that it accepts, or that it
submitted. -/
theorem gains (revises : c.Revises c' id d e) (tracked : u ∈ e.candidates) :
    u ∈ d.candidates ∨
      (∃ p, (p ∈ c.registry.profiles ∨ ∃ n ls, .announce n ls ∈ c.agenda ∧
        (n = .added p ∨ n = .updated p)) ∧ e.accepts p ∧ p.uuid = u) ∨
      .adopt id u ∈ c.agenda := by
  cases revises with
  | same | start | session | power | decide | turnedDown | handedIn | conclude =>
    exact .inl tracked
  | edit _ _ edit _ _ =>
    apply (edit.new tracked).imp_right
    rintro ⟨p, isStored, accepts, uuid⟩
    exact .inl ⟨p, .inl isStored, accepts, uuid⟩
  | @hear n ls ds _ next hears =>
    have due : .announce n (.device id :: ls) ∈ c.agenda := by
      rw [next]
      exact List.mem_cons_self
    rcases Device.hear_cases hears with ⟨p, about, accepts, -, rfl⟩ | ⟨p, -, -, rfl⟩ | ⟨-, rfl⟩
    · rcases List.mem_cons.1 tracked with same | mem
      · exact .inr (.inl ⟨p, .inr ⟨n, _, due, about.imp_left And.left⟩, accepts, same.symm⟩)
      · exact .inl mem
    · exact .inl (List.mem_of_mem_erase tracked)
    · apply (Device.mem_survey.1 tracked).imp_right
      rintro ⟨p, isStored, accepts, uuid⟩
      rw [Device.survey_eq]
      exact .inl ⟨p, .inl isStored, accepts, uuid⟩
  | adopt next _ =>
    apply (Device.mem_track.1 tracked).symm.imp_right
    rintro rfl
    exact .inr (by rw [next]; exact List.mem_cons_self)

/-- No candidate is listed twice. -/
theorem nodup (revises : c.Revises c' id d e) (distinct : d.candidates.Nodup) :
    e.candidates.Nodup := by
  cases revises with
  | same | start | session | power | decide | turnedDown | handedIn | conclude => exact distinct
  | edit _ _ edit _ _ => exact edit.nodup distinct
  | hear _ hears _ =>
    rcases Device.hear_cases hears with ⟨p, -, -, new, rfl⟩ | ⟨p, -, -, rfl⟩ | ⟨-, rfl⟩
    · exact List.nodup_cons.2 ⟨new, distinct⟩
    · exact distinct.erase _
    · exact Device.nodup_survey distinct
  | adopt => exact Device.nodup_track distinct

end Revises

/-! ## To the registry and the agenda -/

/-- The step from one core to the other changes the registry, and announces how. -/
structure Announces (law : Core → Registry.Request → Prop) (c c' : Core) (n : Registry.Notice) : Prop where
  effect : n.Effect c.registry.profiles c'.registry.profiles
  /-- all devices that listen will hear of it -/
  heard : ∃ ls, .announce n ls ∈ c'.agenda ∧ ∀ id d, c.devices id = some d →
    (∃ x ∈ c.subscriptions, x.listener = .device id) → .device id ∈ ls
  /-- nothing that was due before is done but the assessment of a device -/
  due : ∀ duty ∈ c.agenda, duty ∈ c'.agenda ∨ ∃ id, duty = .reassess id
  /-- what matters to profiles stays as it is -/
  kept : ∀ id e, c'.devices id = some e → ∃ d, c.devices id = some d ∧
    e.candidates = d.candidates ∧ e.address = d.address ∧ e.capabilities = d.capabilities
  /-- somebody asked for it, or a device submitted a profile -/
  cause : (c.isOpen ∧ c'.submitted = c.submitted ∧
      ∃ q r, law c q ∧ c.registry.handle q = (r, some n)) ∨
    ∃ d name, n = .added (c.profileFor d name) ∧ c'.submitted = c.submitted ++ [d.binAddress]

/-- Those that an announcement goes to include all devices that listen. -/
theorem mem_living {lives : Listener → Bool} (living : ∀ id, lives (.device id) = (c.devices id).isSome)
    (found : c.devices id = some d) (listens : ∃ x ∈ c.subscriptions, x.listener = .device id) :
    .device id ∈ (c.subscriptions.filter fun x => lives x.listener).map (·.listener) := by
  obtain ⟨x, mem, same⟩ := listens
  refine List.mem_map.2 ⟨x, List.mem_filter.2 ⟨mem, ?_⟩, same⟩
  rw [same, living, found]
  rfl

/-- Where a duty comes from that is on the agenda after a step. -/
inductive Arises (law : Core → Registry.Request → Prop) (c c' : Core) : Duty → Prop
  | kept {duty : Duty} (due : duty ∈ c.agenda) : Arises law c c' duty
  | heard {n : Registry.Notice} {ls : List Listener} (ls' : List Listener) (due : .announce n ls ∈ c.agenda)
      (fewer : ls' ⊆ ls) : Arises law c c' (.announce n ls')
  | pursuit {duty : Duty} (isPursuit : duty.isPursuit) : Arises law c c' duty
  | watch {duty : Duty} (isWatch : duty.isWatch) : Arises law c c' duty
  | reassess {id : DeviceId} {d : Device} (found : c.devices id = some d) :
      Arises law c c' (.reassess id)
  | conclude {id : DeviceId} {d : Device} (first : .reassess id ∈ c.agenda)
      (found : c.devices id = some d) (lacks : d.gate.decision = .provision) :
      Arises law c c' (.conclude id)
  | announced {n : Registry.Notice} (announces : Announces law c c' n) (ls : List Listener) :
      Arises law c c' (.announce n ls)
  | adopt {id : DeviceId} {d : Device} {name : String} (first : .reassess id ∈ c.agenda)
      (found : c.devices id = some d) (lacks : d.gate.decision = .provision)
      (due : d.dueProfileName? c.registry.loaded = some name)
      (announces : Announces law c c' (.added (c.profileFor d name))) :
      Arises law c c' (.adopt id (c.profileFor d name).uuid)

/-- **A step leaves the stored profiles alone or announces the change**, and nothing is put on the
agenda without a reason. -/
theorem Step.arises (step : Step law c s c') :
    (c'.registry.profiles = c.registry.profiles ∨ ∃ n, Announces law c c' n) ∧
      ∀ duty ∈ c'.agenda, Arises law c c' duty := by
  have same {duty : Duty} (mem : duty ∈ c.agenda) : Arises law c c' duty := .kept mem
  have old {head duty : Duty} {ds : List Duty} (next : c.agenda = head :: ds) (mem : duty ∈ ds) :
      Arises law c c' duty := .kept (by rw [next]; exact List.mem_cons_of_mem _ mem)
  have first {duty : Duty} {ds : List Duty} (next : c.agenda = duty :: ds) : duty ∈ c.agenda := by
    rw [next]
    exact List.mem_cons_self
  have head {n : Registry.Notice} {l ls ds} (next : c.agenda = .announce n (l :: ls) :: ds) :
      Arises law c c' (.announce n ls) := .heard ls (first next) (List.subset_cons_self l ls)
  cases step with
  | create | destroy | enlist | cancel | receivers | reported | startRun | endRuns | comeUp
  | session | edit | findPower => exact ⟨.inl rfl, fun _ => same⟩
  | requestUnheard q r isOpen lawful handled =>
    exact ⟨.inl (Registry.profiles_of_unheard handled), fun _ => same⟩
  | defer ds quiet pursuits =>
    exact ⟨.inl rfl, fun duty mem => .pursuit (List.all_eq_true.1 pursuits duty mem)⟩
  | summon j d quiet found =>
    refine ⟨.inl rfl, List.forall_mem_cons.2 ⟨.reassess found, fun _ => same⟩⟩
  | request q r n lives isOpen lawful handled living =>
    suffices announces : Announces law c _ n from
      ⟨.inr ⟨n, announces⟩, List.forall_mem_cons.2 ⟨.announced announces _, fun _ => same⟩⟩
    exact {
      effect := Registry.effect_of_heard handled
      heard := ⟨_, List.mem_cons_self, fun id d found => mem_living living found⟩
      due := fun duty mem => .inl (List.mem_cons_of_mem _ mem)
      kept := fun id e there => ⟨e, there, rfl, rfl, rfl⟩
      cause := .inl ⟨isOpen, rfl, q, r, lawful, handled⟩ }
  | heardByAll n ds next => exact ⟨.inl rfl, fun _ => old next⟩
  | watched n w ls ds ws next watch =>
    refine ⟨.inl rfl, List.forall_mem_append.2 ⟨?_, List.forall_mem_cons.2 ⟨head next, ?_⟩⟩⟩
    · exact fun duty mem => .watch (List.all_eq_true.1 watch duty mem)
    · exact fun _ => old next
  | turn duty ds ws next isWatch watch =>
    refine ⟨.inl rfl, List.forall_mem_append.2 ⟨?_, fun _ => old next⟩⟩
    exact fun duty mem => .watch (List.all_eq_true.1 watch duty mem)
  | unmoved n j ls ds next =>
    exact ⟨.inl rfl, List.forall_mem_cons.2 ⟨head next, fun _ => old next⟩⟩
  | moved n j ls ds d e next found =>
    refine ⟨.inl rfl, List.forall_mem_cons.2 ⟨.reassess found, List.forall_mem_cons.2 ⟨?_, ?_⟩⟩⟩
    · exact head next
    · exact fun _ => old next
  | late duty j ds next => exact ⟨.inl rfl, fun _ => old next⟩
  | decide j d ds usable next => exact ⟨.inl rfl, fun _ => old next⟩
  | concede j d ds next found lacks =>
    exact ⟨.inl rfl, List.forall_mem_cons.2 ⟨.conclude (first next) found lacks, fun _ => old next⟩⟩
  | turnedDown j d ds name why next found lacks =>
    exact ⟨.inl rfl, List.forall_mem_cons.2 ⟨.conclude (first next) found lacks, fun _ => old next⟩⟩
  | handedIn j d ds name lives next found lacks due accepted living =>
    suffices announces : Announces law c _ (.added (c.profileFor d name)) from
      ⟨.inr ⟨_, announces⟩, List.forall_mem_cons.2 ⟨.announced announces _,
        List.forall_mem_cons.2 ⟨.adopt (first next) found lacks due announces,
          List.forall_mem_cons.2 ⟨.conclude (first next) found lacks, fun _ => old next⟩⟩⟩⟩
    exact {
      effect := .added _
      heard := ⟨_, List.mem_cons_self, fun id d found => mem_living living found⟩
      due := by
        intro duty mem
        rw [next] at mem
        rcases List.mem_cons.1 mem with rfl | mem
        · exact .inr ⟨j, rfl⟩
        · exact .inl (by simp [mem])
      kept := by
        intro id e there
        rcases eq_of_update_some there with ⟨rfl, rfl⟩ | ⟨-, kept⟩
        · exact ⟨d, found, rfl, rfl, rfl⟩
        · exact ⟨e, kept, rfl, rfl, rfl⟩
      cause := .inr ⟨d, name, rfl, rfl⟩ }
  | adopt j d uuid ds next => exact ⟨.inl rfl, fun _ => old next⟩
  | conclude j d ds next => exact ⟨.inl rfl, fun _ => old next⟩

end Core

end Piconet
