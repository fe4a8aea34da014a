import Piconet.Proofs.Identifiers

/-!
# The shape of the agenda

A submission that the registry takes leaves two duties under its announcement: the device is to
take the profile as its own, and then its usability is to be settled. These two stay next to each
other until their turn comes, however much is announced above them. A submission that is turned
down leaves the second one alone, and it has its turn at once.

What is to be done stays on the agenda until it is (`Core.Step.stays`): an announcement goes to all
that it was made for, and a device that is still there takes its profile as its own.
-/

namespace Piconet

variable {law : Core → Registry.Request → Prop} {c c' : Core} {s : Option (DeviceId × Profile)}
  {id : DeviceId} {d e : Device}

/-- The duties that a submission leaves. -/
def Duty.settles : Duty → Bool
  | .adopt .. | .conclude _ => true
  | _ => false

/-- The duties that submissions leave come in pairs. -/
inductive Paired : List Duty → Prop
  | nil : Paired []
  | other {duty : Duty} {ds : List Duty} (plain : duty.settles = false) (paired : Paired ds) :
      Paired (duty :: ds)
  | pair (id : DeviceId) (uuid : String) {ds : List Duty} (paired : Paired ds) :
      Paired (.adopt id uuid :: .conclude id :: ds)

/-- They come in pairs, but for a first one that has its turn. -/
inductive Tidy : List Duty → Prop
  | paired {ds : List Duty} (paired : Paired ds) : Tidy ds
  | concluding (id : DeviceId) {ds : List Duty} (paired : Paired ds) : Tidy (.conclude id :: ds)

namespace Paired

variable {duty : Duty} {ds ws : List Duty}

/-- An agenda without `adopt` and `conclude` is paired. -/
theorem of_plain (plain : ∀ duty ∈ ds, duty.settles = false) : Paired ds := by
  induction ds with
  | nil => exact .nil
  | cons duty ds ih =>
    exact .other (plain duty List.mem_cons_self) (ih fun d hd => plain d (List.mem_cons_of_mem _ hd))

/-- What neither adopts nor concludes may be put in front. -/
theorem append (plain : ∀ w ∈ ws, w.settles = false) (paired : Paired ds) : Paired (ws ++ ds) := by
  induction ws with
  | nil => exact paired
  | cons w ws ih =>
    exact .other (plain w List.mem_cons_self) (ih fun d hd => plain d (List.mem_cons_of_mem _ hd))

/-- A conclusion is not the first duty of a pair. -/
theorem not_conclude (paired : Paired (.conclude id :: ds)) : False := by
  cases paired with
  | other plain => exact absurd plain (by simp [Duty.settles])

end Paired

namespace Tidy

variable {duty : Duty} {ds : List Duty}

/-- Once a duty is done, those that are left come in pairs, unless it was the first of a pair. -/
theorem rest (tidy : Tidy (duty :: ds)) (first : ∀ id uuid, duty ≠ .adopt id uuid) : Paired ds := by
  cases tidy with
  | paired paired =>
    cases paired with
    | other _ paired => exact paired
    | pair id uuid => exact absurd rfl (first id uuid)
  | concluding _ paired => exact paired

/-- After `adopt` comes the `conclude` of the same device. -/
theorem of_adopt {uuid : String} (tidy : Tidy (.adopt id uuid :: ds)) :
    ∃ ds', ds = .conclude id :: ds' ∧ Paired ds' := by
  cases tidy with
  | paired paired =>
    cases paired with
    | other plain => exact absurd plain (by simp [Duty.settles])
    | pair _ _ paired => exact ⟨_, rfl, paired⟩

end Tidy

/-- Watchers neither adopt nor conclude. -/
theorem settles_of_isWatch {ws : List Duty} (watch : ws.all Duty.isWatch) :
    ∀ w ∈ ws, w.settles = false := by
  intro w mem
  obtain ⟨_, _, _, rfl⟩ | ⟨_, _, rfl⟩ | ⟨_, _, rfl⟩ := Duty.eq_of_isWatch (List.all_eq_true.1 watch w mem) <;> rfl

/-- Discovery neither adopts nor concludes. -/
theorem settles_of_isPursuit {ws : List Duty} (pursuits : ws.all Duty.isPursuit) :
    ∀ w ∈ ws, w.settles = false := by
  intro w mem
  obtain ⟨run, rfl⟩ := Duty.eq_of_isPursuit (List.all_eq_true.1 pursuits w mem)
  rfl

/-- A quiet agenda holds nothing about a device. -/
theorem Core.about_of_quiet (quiet : c.isQuiet) {duty : Duty} (due : duty ∈ c.agenda) :
    duty.about? = none := by
  obtain ⟨run, rfl⟩ := Duty.eq_of_isPursuit (List.all_eq_true.1 quiet duty due)
  rfl

namespace Core

/-- When anything can come in from outside, no submission waits to be concluded at once. -/
theorem paired_of_isOpen (tidy : Tidy c.agenda) (isOpen : c.isOpen) : Paired c.agenda := by
  rcases Bool.or_eq_true_iff.1 isOpen with quiet | watch
  · exact .of_plain (settles_of_isPursuit quiet)
  · generalize c.agenda = ds at tidy watch
    cases tidy with
    | paired paired => exact paired
    | concluding => exact absurd watch (by simp [Duty.isWatch])

/-- **The agenda stays tidy**, whoever calls back. -/
theorem Step.tidy (step : Step law c s c') (tidy : Tidy c.agenda) : Tidy c'.agenda := by
  have rest {duty : Duty} {ds : List Duty} (next : c.agenda = duty :: ds)
      (first : ∀ id uuid, duty ≠ .adopt id uuid) : Paired ds := by
    rw [next] at tidy
    exact tidy.rest first
  cases step with
  | create | destroy | enlist | cancel | receivers | reported | startRun | endRuns | comeUp
  | session | edit | findPower | requestUnheard => exact tidy
  | defer ds quiet pursuits => exact .paired (.of_plain (settles_of_isPursuit pursuits))
  | summon j d quiet found =>
    exact .paired (.other rfl (.of_plain (settles_of_isPursuit quiet)))
  | request q r n lives isOpen => exact .paired (.other rfl (paired_of_isOpen tidy isOpen))
  | heardByAll n ds next => exact .paired (rest next (by simp))
  | watched n w ls ds ws next watch =>
    exact .paired (.append (settles_of_isWatch watch) (.other rfl (rest next (by simp))))
  | turn duty ds ws next isWatch watch =>
    refine .paired (.append (settles_of_isWatch watch) (rest next ?_))
    rintro id uuid rfl
    exact absurd isWatch (by simp [Duty.isWatch])
  | unmoved n j ls ds next => exact .paired (.other rfl (rest next (by simp)))
  | moved n j ls ds d e next => exact .paired (.other rfl (.other rfl (rest next (by simp))))
  | late duty j ds next about =>
    rcases about with rfl | ⟨uuid, rfl⟩ | rfl
    · exact .paired (rest next (by simp))
    · rw [next] at tidy
      obtain ⟨ds', rfl, paired⟩ := tidy.of_adopt
      exact .concluding j paired
    · exact .paired (rest next (by simp))
  | decide j d ds usable next => exact .paired (rest next (by simp))
  | concede j d ds next => exact .concluding j (rest next (by simp))
  | turnedDown j d ds name why next => exact .concluding j (rest next (by simp))
  | handedIn j d ds name lives next => exact .paired (.other rfl (.pair j _ (rest next (by simp))))
  | adopt j d uuid ds next =>
    rw [next] at tidy
    obtain ⟨ds', rfl, paired⟩ := tidy.of_adopt
    exact .concluding j paired
  | conclude j d ds next => exact .paired (rest next (by simp))

/-! ## Whose turn it is -/

/-- **A duty stays on the agenda until it has its turn**, unless it is a pursuit, which may be put
off. -/
theorem Step.stays (step : Step law c s c') {duty : Duty} (due : duty ∈ c.agenda)
    (lasting : duty.isPursuit = false) : duty ∈ c'.agenda ∨ c.agenda.head? = some duty := by
  -- the first duty is done, and others come in its place
  have popped {head : Duty} {ds : List Duty} (next : c.agenda = head :: ds) (ws : List Duty) :
      duty ∈ ws ++ ds ∨ c.agenda.head? = some duty := by
    rw [next] at due ⊢
    rcases List.mem_cons.1 due with rfl | mem
    · exact .inr rfl
    · exact .inl (List.mem_append_right _ mem)
  cases step with
  | create | destroy | enlist | cancel | receivers | reported | startRun | endRuns | comeUp
  | session | edit | findPower | requestUnheard => exact .inl due
  | defer ds quiet pursuits =>
    have pursuit : duty.isPursuit := List.all_eq_true.1 quiet duty due
    rw [lasting] at pursuit
    exact absurd pursuit (by simp)
  | summon j d quiet found => exact .inl (List.mem_cons_of_mem _ due)
  | request q r n lives => exact .inl (List.mem_cons_of_mem _ due)
  | heardByAll n ds next => exact popped next []
  | watched n w ls ds ws next watch =>
    have stays := popped next (ws ++ [.announce n ls])
    rwa [List.append_assoc] at stays
  | turn head ds ws next => exact popped next ws
  | unmoved n j ls ds next => exact popped next [.announce n ls]
  | moved n j ls ds d e next => exact popped next [.reassess j, .announce n ls]
  | late head j ds next => exact popped next []
  | decide j d ds usable next => exact popped next []
  | concede j d ds next => exact popped next [.conclude j]
  | turnedDown j d ds name why next => exact popped next [.conclude j]
  | handedIn j d ds name lives next => exact popped next [.announce _ _, .adopt j _, .conclude j]
  | adopt j d uuid ds next => exact popped next []
  | conclude j d ds next => exact popped next []

/-- **An announcement reaches the devices that it was made for**: one that outlives the step is still
to hear of the change, or follows it in this step and, if it concerned it, is assessed next. -/
theorem Step.hears (step : Step law c s c') {n : Registry.Notice} {ls : List Listener}
    (due : .announce n ls ∈ c.agenda) (listens : .device id ∈ ls) (found : c.devices id = some d)
    (there : c'.devices id = some e) :
    (∃ ls', .announce n ls' ∈ c'.agenda ∧ .device id ∈ ls') ∨
      e = (d.hear c.registry.profiles n).getD d ∧
        ((d.hear c.registry.profiles n).isSome → .reassess id ∈ c'.agenda) := by
  rcases step.stays due rfl with stays | head
  · exact .inl ⟨ls, stays, listens⟩
  -- the announcement has its turn
  obtain ⟨ds, next⟩ := List.head?_eq_some_iff.1 head
  have turn {duty : Duty} {ds' : List Duty} (next' : c.agenda = duty :: ds') :
      duty = .announce n ls := (List.cons.inj (next'.symm.trans next)).1
  cases step with
  | heardByAll m ds' next' =>
    obtain ⟨-, rfl⟩ := Duty.announce.inj (turn next')
    exact absurd listens (by simp)
  | watched m w ls' ds' ws next' =>
    obtain ⟨rfl, rfl⟩ := Duty.announce.inj (turn next')
    have mem : .device id ∈ ls' := by simpa using listens
    exact .inl ⟨ls', List.mem_append_right _ List.mem_cons_self, mem⟩
  | unmoved m j ls' ds' next' deaf =>
    obtain ⟨rfl, rfl⟩ := Duty.announce.inj (turn next')
    rcases List.mem_cons.1 listens with same | mem
    · obtain rfl := Listener.device.inj same
      obtain rfl := Option.some.inj (found.symm.trans there)
      rw [deaf d found]
      exact .inr ⟨rfl, fun concerned => absurd concerned (by simp)⟩
    · exact .inl ⟨ls', List.mem_cons_self, mem⟩
  | moved m j ls' ds' x y next' found' hears =>
    obtain ⟨rfl, rfl⟩ := Duty.announce.inj (turn next')
    rcases List.mem_cons.1 listens with same | mem
    · obtain rfl := Listener.device.inj same
      obtain rfl := Option.some.inj (found.symm.trans found')
      rcases eq_of_update_some there with ⟨-, rfl⟩ | ⟨other, -⟩
      · rw [hears]
        exact .inr ⟨rfl, fun _ => List.mem_cons_self⟩
      · exact absurd rfl other
    · exact .inl ⟨ls', List.mem_cons_of_mem _ List.mem_cons_self, mem⟩
  | defer ds' quiet =>
    exact absurd (List.all_eq_true.1 quiet _ due) (by simp [Duty.isPursuit])
  | summon | request => exact .inl ⟨ls, List.mem_cons_of_mem _ due, listens⟩
  | turn duty ds' ws next' isWatch =>
    rw [turn next'] at isWatch
    exact absurd isWatch (by simp [Duty.isWatch])
  | late duty j ds' next' about =>
    rw [turn next'] at about
    exact absurd about (by simp)
  | decide _ _ _ _ next' | concede _ _ _ next' | turnedDown _ _ _ _ _ next'
  | handedIn _ _ _ _ _ next' | adopt _ _ _ _ next' | conclude _ _ _ next' =>
    exact absurd (turn next') (by simp)
  | _ => exact .inl ⟨ls, due, listens⟩

/-- A device that outlives the step has still to take the profile that it submitted as its own, or
does so in this step. -/
theorem Step.adopts (step : Step law c s c') {u : String} (due : .adopt id u ∈ c.agenda)
    (found : c.devices id = some d) (there : c'.devices id = some e) :
    .adopt id u ∈ c'.agenda ∨ u ∈ e.candidates ∧ e.submitting = false := by
  rcases step.stays due rfl with stays | head
  · exact .inl stays
  obtain ⟨ds, next⟩ := List.head?_eq_some_iff.1 head
  have turn {duty : Duty} {ds' : List Duty} (next' : c.agenda = duty :: ds') :
      duty = .adopt id u := (List.cons.inj (next'.symm.trans next)).1
  cases step with
  | adopt j x v ds' next' found' =>
    obtain ⟨rfl, rfl⟩ := Duty.adopt.inj (turn next')
    rcases eq_of_update_some there with ⟨-, rfl⟩ | ⟨other, -⟩
    · exact .inr ⟨Device.mem_track.2 (.inl rfl), rfl⟩
    · exact absurd rfl other
  | late duty j ds' next' about gone =>
    -- the device is there, so the duty is about another one
    rw [turn next'] at about
    obtain rfl : id = j := by simpa using about
    exact absurd (gone.symm.trans found) (by simp)
  | defer ds' quiet =>
    exact absurd (List.all_eq_true.1 quiet _ due) (by simp [Duty.isPursuit])
  | summon | request => exact .inl (List.mem_cons_of_mem _ due)
  | turn duty ds' ws next' isWatch =>
    rw [turn next'] at isWatch
    exact absurd isWatch (by simp [Duty.isWatch])
  | heardByAll _ _ next' | watched _ _ _ _ _ next' | unmoved _ _ _ _ next'
  | moved _ _ _ _ _ _ next' | decide _ _ _ _ next' | concede _ _ _ next'
  | turnedDown _ _ _ _ _ next' | handedIn _ _ _ _ _ next' | conclude _ _ _ next' =>
    exact absurd (turn next') (by simp)
  | _ => exact .inl due

end Core

end Piconet
