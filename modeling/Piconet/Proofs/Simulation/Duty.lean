import Piconet.Proofs.Simulation.Command

/-!
# Duties are steps of the core

Each duty of the agenda but the pursuit of a run is one step of the core: a listener hears of a
change, a watcher goes on, a device is assessed, takes its profile or settles its usability. A
watcher that carries out a command takes its turn first, and the command comes after it.
-/

namespace Piconet

open Function (update)

namespace Host

variable {law : Core → Registry.Request → Prop} {scope : Core.Scope} {h : Host} {ds : List Duty}

/-! ## Watchers -/

/-- A rule of a watcher applies or not, and what it commands is put on the agenda. -/
theorem change_react {w : WatcherId} {n : Registry.Notice} {rule : Nat}
    (next : h.agenda = .react w n rule :: ds) :
    Core.Change law scope h.core none ((h.withAgenda ds).react w n rule).core := by
  unfold react
  split
  · next r hr =>
    split
    · exact .turn _ ds [.perform w r.steps, .react w n (rule + 1)] next rfl rfl
    · exact .turn _ ds [.react w n (rule + 1)] next rfl rfl
  · exact .turn _ ds [] next rfl rfl

/-- **A command that a watcher gives** is carried out inside the notification, in as many changes as it takes.
-/
theorem steps_perform {w : WatcherId} {cs : List Command} (next : h.agenda = .perform w cs :: ds)
    (lawful : ∀ q cs', cs = .request q :: cs' → law ((h.withAgenda ds).urge
      [.record w ((h.withAgenda ds).answerTo (.request q)), .perform w cs']).core q)
    (listed : ∀ c cs' name, cs = c :: cs' → c.receiver? = some name → scope.roster name) :
    Core.Changes law scope h.core ((h.withAgenda ds).perform w cs).core := by
  cases cs with
  | nil => exact .single (.turn _ ds [] next rfl rfl)
  | cons c cs =>
    -- the watcher takes its turn, and then anything can come in from outside
    have taken : Core.Changes law scope h.core ((h.withAgenda ds).urge
        [.record w ((h.withAgenda ds).answerTo c), .perform w cs]).core :=
      .single (.turn _ ds [.record w _, .perform w cs] next rfl rfl)
    refine taken.trans (steps_obey c (Bool.or_true _) ?_ fun name => listed c cs name rfl)
    rintro q rfl
    exact lawful q cs rfl

/-- What a watcher records shows in no core. -/
theorem change_record {w : WatcherId} {a : Answer} (next : h.agenda = .record w a :: ds) :
    Core.Change law scope h.core none ((h.withAgenda ds).record w a).core := by
  unfold record
  split <;> exact .turn _ ds [] next rfl rfl

/-! ## Hearing of a change -/

/-- **A listener is called**: a device updates its candidates and is to be assessed, and a watcher's rules are
looked through. -/
theorem change_hear {n : Registry.Notice} {l : Listener} {ls : List Listener}
    (next : h.agenda = .announce n (l :: ls) :: ds) (allowed : scope.hearing) :
    Core.Change law scope h.core none (((h.withAgenda ds).urge [.announce n ls]).hear n l).core := by
  cases l with
  | device id =>
    simp only [hear]
    split
    · next e he =>
      obtain ⟨d, found, hears⟩ := Option.bind_eq_some_iff.1 he
      rw [core_urge, core_setDevice found]
      exact .moved n id ls ds d e next found hears allowed
    · next none =>
      refine .unmoved n id ls ds next ?_ allowed
      intro d found
      have looked : ((h.withAgenda ds).urge [.announce n ls]).device? id = some d := found
      rwa [looked, Option.bind_some] at none
  | watcher w =>
    simp only [hear]
    split
    · exact .watched n w ls ds [.react w n 0] next rfl allowed
    · exact .watched n w ls ds [] next rfl allowed

/-! ## Usability -/

variable {id : DeviceId} {d : Device}

/-- A device whose usability changes publishes it. -/
theorem core_setUsable (found : h.device? id = some d) (usable : Bool) :
    (h.setUsable id usable).core = { h.core with
      devices := update h.core.devices id (some { d with usable })
      receivers := if d.usable = usable then h.core.receivers
        else tell id [.usable usable] h.core.receivers } := by
  rw [setUsable, found]
  by_cases same : d.usable = usable
  · have unchanged : update h.core.devices id (some { d with usable }) = h.core.devices := by
      rw [show { d with usable } = d by rw [← same]]
      exact Function.update_eq_self_iff.2 found.symm
    simp only [if_pos same, unchanged]
  · simp only [if_neg same]
    change { (h.setDevice id { d with usable }).core with
      receivers := tell id [.usable usable] h.receivers } = _
    rw [core_setDevice found]
    rfl

/-- The usability of a device is settled after its submission. -/
theorem change_conclude (next : h.agenda = .conclude id :: ds) :
    Core.Change law scope h.core none ((h.withAgenda ds).conclude id).core := by
  rw [conclude]
  cases found : h.device? id with
  | none =>
    rw [show (h.withAgenda ds).device? id = none from found]
    exact .late _ id ds next (.inr (.inr rfl)) found
  | some d =>
    have looked : (h.withAgenda ds).device? id = some d := found
    rw [looked]
    simp only
    rw [core_setUsable looked]
    exact .conclude id d ds next found

/-- A device takes the profile that it submitted as its own, if that one is still compatible. -/
theorem change_adopt {uuid : String} (next : h.agenda = .adopt id uuid :: ds) :
    Core.Change law scope h.core none ((h.withAgenda ds).adopt id uuid).core := by
  rw [adopt]
  cases found : h.device? id with
  | none =>
    rw [show (h.withAgenda ds).device? id = none from found]
    exact .late _ id ds next (.inr (.inl ⟨uuid, rfl⟩)) found
  | some d =>
    have looked : (h.withAgenda ds).device? id = some d := found
    rw [looked]
    simp only
    rw [core_setDevice looked]
    exact .adopt id d uuid ds next found

/-- The host once a submission for an address is noted. -/
def noted (h : Host) (p : Profile) (a : HwAddress) : Host :=
  { h.log (.submission p) with submitted := h.submitted ++ [a] }

/-- A submission is noted with its device and with the address that it was made for. -/
theorem core_noted (h : Host) (p : Profile) (a : HwAddress) :
    (h.noted p a).core = { h.core with
      submitted := h.core.submitted ++ [a]
      submissions := h.core.submissions ++ [p] } := by
  have logged : (h.log (.submission p)).submissions = h.submissions ++ [p] := by
    simp [submissions, log, List.filterMap_append, Call.submission?]
  rw [core, core, ← logged]
  rfl

/-- A registry that turns a submission down has counted it and stored nothing. -/
theorem core_submit_turnedDown {why : String} (refused : h.registry.rejection = some why)
    (p : Profile) :
    (h.request (.submit p)).core = { h.core with registry := h.core.registry.countSubmission } := by
  simp only [request, Registry.handle, refused]
  rfl

/-- A submission that is accepted is inserted as any profile is, and its `Added` is announced to everybody but
nobody in particular. -/
theorem core_submit_stored (accepted : h.registry.rejection = none) (p : Profile) :
    (h.request (.submit p)).core = { h.core with
      registry := h.core.registry.countSubmission.insert p
      subscriptions := h.core.subscriptions.filter fun s => h.listenerLives s.listener
      agenda := .announce (.added p)
          ((h.core.subscriptions.filter fun s => h.listenerLives s.listener).map (·.listener))
        :: h.core.agenda } := by
  simp only [request, Registry.handle, accepted]
  rfl

/-- What submitting a profile comes to when the registry turns it down. -/
theorem core_provision_turnedDown {why : String} (found : h.device? id = some d) (name : String)
    (refused : h.registry.rejection = some why) :
    (h.provision id d name).core = { h.core with
      devices := update h.core.devices id (some { d with attempted := true })
      registry := h.core.registry.countSubmission
      submitted := h.core.submitted ++ [d.binAddress]
      submissions := h.core.submissions ++ [h.core.profileFor d name]
      agenda := .conclude id :: h.core.agenda } := by
  let g := ((h.noted (h.core.profileFor d name) d.binAddress).setDevice id
    { d with attempted := true }).urge [.conclude id]
  have asked : h.provision id d name = g.request (.submit (h.core.profileFor d name)) := by
    simp only [provision, log, refused]
    rfl
  have noted_found : (h.noted (h.core.profileFor d name) d.binAddress).device? id = some d := found
  rw [asked, core_submit_turnedDown (show g.registry.rejection = some why from refused)]
  simp only [g]
  rw [core_urge, core_setDevice noted_found, core_noted]
  rfl

/-- What submitting a profile comes to when the registry takes it. -/
theorem core_provision_handedIn (found : h.device? id = some d) (name : String)
    (accepted : h.registry.rejection = none) :
    ∃ lives : Listener → Bool, (∀ id, lives (.device id) = (h.core.devices id).isSome) ∧
      (h.provision id d name).core = { h.core with
        devices := update h.core.devices id (some { d with attempted := true, submitting := true })
        registry := h.core.registry.countSubmission.insert (h.core.profileFor d name)
        subscriptions := h.core.subscriptions.filter fun s => lives s.listener
        submitted := h.core.submitted ++ [d.binAddress]
        submissions := h.core.submissions ++ [h.core.profileFor d name]
        agenda :=
          .announce (.added (h.core.profileFor d name))
              ((h.core.subscriptions.filter fun s => lives s.listener).map (·.listener))
            :: .adopt id (h.core.profileFor d name).uuid :: .conclude id :: h.core.agenda } := by
  let g := ((h.noted (h.core.profileFor d name) d.binAddress).setDevice id
    { d with attempted := true, submitting := true }).urge
      [.adopt id (h.core.profileFor d name).uuid, .conclude id]
  have asked : h.provision id d name = g.request (.submit (h.core.profileFor d name)) := by
    simp only [provision, log, accepted]
    rfl
  have noted_found : (h.noted (h.core.profileFor d name) d.binAddress).device? id = some d := found
  refine ⟨(g.listenerLives ·), fun other => ?_, ?_⟩
  · change (g.device? other).isSome = (h.device? other).isSome
    rw [show g.device? = _ from device?_setDevice noted_found _, Function.update_apply]
    split
    · next same => rw [same, found]; rfl
    · rfl
  · rw [asked, core_submit_stored (show g.registry.rejection = none from accepted)]
    simp only [g]
    rw [core_urge, core_setDevice noted_found, core_noted]
    rfl

/-- **To assess a device is one step**, in which it may submit a profile. -/
theorem step_reassess (next : h.agenda = .reassess id :: ds) :
    ∃ s, Core.Change law scope h.core s ((h.withAgenda ds).reassess id).core := by
  rw [reassess]
  cases found : h.device? id with
  | none =>
    rw [show (h.withAgenda ds).device? id = none from found]
    exact ⟨_, .late _ id ds next (.inl rfl) found⟩
  | some d =>
    have looked : (h.withAgenda ds).device? id = some d := found
    rw [looked]
    simp only
    split
    · next usable decided =>
      rw [core_setUsable looked]
      exact ⟨_, .decide id d ds usable next found decided⟩
    · next lacks =>
      split
      · next name due =>
        cases accepted : h.registry.rejection with
        | some why =>
          rw [core_provision_turnedDown looked name accepted]
          exact ⟨_, .turnedDown id d ds name why next found lacks due accepted⟩
        | none =>
          obtain ⟨lives, living, same⟩ := core_provision_handedIn looked name accepted
          rw [same]
          exact ⟨_, .handedIn id d ds name lives next found lacks due accepted living⟩
      · next due => exact ⟨_, .concede id d ds next found lacks due⟩

end Host

end Piconet
