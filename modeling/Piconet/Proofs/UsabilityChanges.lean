import Piconet.Proofs.Layers
import Piconet.Proofs.Redundancy

/-!
# What stirs a device

A device says that it has become usable, or that it no longer is, when it is assessed. What is left to
be done that may bring this about is counted (`stirring`): an announcement that the device has still
to hear, its assessment, the conclusion of its attempt to have a profile. One leads to the next, but
nothing that is done leaves more of it than there was, and each time that the device changes its mind
one is used up (`Core.Change.stirring_le`). So one cause brings about one change of mind at most.

Only the profile of another device could add to what is left. It does not if the device does not
accept it, or if there is nobody who would submit one (`Core.Sole`).
-/

namespace Piconet

open Function (update)
open Bench (shut)

variable {scope : Core.Scope} {c c' : Core} {s : Option (DeviceId × Profile)} {id : DeviceId}
  {d e x : Device} {ds ws : List Duty}

/-! ## What is left to be done -/

/-- Doing the duty may bring a device to change its mind about being usable, or lead to something that
may. An addition does not if the device does not accept the profile, or is about to submit its own. -/
def Duty.stirs (id : DeviceId) (d : Device) : Duty → Bool
  | .announce (.added p) ls => !d.submitting && d.accepts p && ls.contains (.device id)
  | .announce _ ls => ls.contains (.device id)
  | .reassess j | .conclude j => j = id
  | .react .. | .perform .. | .record .. | .adopt .. | .pursue _ => false

/-- How much is left to be done that may bring a device to change its mind. -/
def stirring (id : DeviceId) (d : Device) (ds : List Duty) : Nat := ds.countP (Duty.stirs id d)

theorem stirring_cons (duty : Duty) : stirring id d (duty :: ds) =
    stirring id d ds + if duty.stirs id d then 1 else 0 := by
  rw [stirring, List.countP_cons, stirring]

/-- An announcement stirs nobody who is not to hear it. -/
theorem stirs_announce_of_not_mem {n : Registry.Notice} {ls : List Listener} (last : .device id ∉ ls) :
    (Duty.announce n ls).stirs id d = false := by
  cases n <;> simp [Duty.stirs, last]

/-- That others have heard of a change makes no difference. -/
theorem stirs_announce_cons {n : Registry.Notice} {l : Listener} {ls : List Listener}
    (other : l ≠ .device id) :
    (Duty.announce n (l :: ls)).stirs id d = (Duty.announce n ls).stirs id d := by
  have same : (l :: ls).contains (.device id) = ls.contains (.device id) := by
    simp [Ne.symm other]
  cases n <;> simp only [Duty.stirs, same]

/-- A device that follows a change was stirred by it. -/
theorem stirs_of_hears {stored : List Profile} {n : Registry.Notice} {ls : List Listener}
    (hears : d.hear stored n = some e) : (Duty.announce n (.device id :: ls)).stirs id d = true := by
  cases n with
  | added p =>
    obtain ⟨idle, adopts⟩ := Option.ite_none_left_eq_some.1 hears
    have accepts := (Device.adopt?_eq_some.1 adopts).1
    simp [Duty.stirs, idle, accepts]
  | removed | updated | loaded => simp [Duty.stirs]

/-- What does not stir the device can be done, and put in front of the rest, at will. -/
theorem stirring_append (calm : ∀ w ∈ ws, w.stirs id d = false) :
    stirring id d (ws ++ ds) = stirring id d ds := by
  rw [stirring, List.countP_append, List.countP_eq_zero.2 fun w mem => by simp [calm w mem], Nat.zero_add,
    stirring]

theorem stirring_of_watch (watch : ws.all Duty.isWatch) : stirring id d (ws ++ ds) = stirring id d ds := by
  refine stirring_append fun w mem => ?_
  obtain ⟨_, _, _, rfl⟩ | ⟨_, _, rfl⟩ | ⟨_, _, rfl⟩ := Duty.eq_of_isWatch (List.all_eq_true.1 watch w mem) <;> rfl

/-- When nobody is being notified nothing is left. -/
theorem stirring_of_quiet (quiet : ds.all Duty.isPursuit) : stirring id d ds = 0 := by
  refine List.countP_eq_zero.2 fun duty mem => ?_
  obtain ⟨run, rfl⟩ := Duty.eq_of_isPursuit (List.all_eq_true.1 quiet duty mem)
  simp [Duty.stirs]

/-- What stirs a device depends on what it accepts, and on whether it is about to submit a profile. -/
theorem stirring_congr (accepts : ∀ p, e.accepts p = d.accepts p) (submitting : e.submitting = d.submitting) :
    stirring id e ds = stirring id d ds := by
  have same : Duty.stirs id e = Duty.stirs id d := by
    funext duty
    cases duty with
    | announce n ls => cases n <;> simp only [Duty.stirs, accepts, submitting]
    | _ => rfl
  rw [stirring, same, stirring]

/-- A device that is about to submit a profile is stirred by less. -/
theorem stirring_submitting (d : Device) (ds : List Duty) :
    stirring id { d with attempted := true, submitting := true } ds ≤ stirring id d ds := by
  refine List.countP_mono_left fun duty _ stirs => ?_
  cases duty with
  | announce n ls =>
    cases n with
    | added p => exact absurd stirs (by simp [Duty.stirs])
    | removed | updated | loaded => exact stirs
  | _ => exact stirs

/-- Where nothing is added it does not depend on the device. -/
theorem stirring_of_plain (plain : Plain ds) : stirring id e ds = stirring id d ds := by
  refine List.countP_congr fun duty mem => ?_
  have other := plain duty mem
  cases duty with
  | announce n ls =>
    cases n with
    | added p => exact absurd other (by simp [Duty.adds])
    | removed | updated | loaded => exact Iff.rfl
  | _ => exact Iff.rfl

namespace Core

/-! ## Changes -/

/-- **Nothing stirs more than there was to stir**, and a device that changes its mind uses some of it
up: as long as nobody asks the registry for anything, the discovery of the device does not go on, and
it accepts no profile that another one submits. -/
theorem Change.stirring_le (change : Change shut scope c s c') (aside : ¬ scope.discovery id)
    (known : id < c.nextId) (layered : Layered c.devices c.agenda) (once : c.Once)
    (found : c.devices id = some x) (there : c'.devices id = some e)
    (foreign : ∀ j p, s = some (j, p) → j ≠ id → x.accepts p = false) :
    stirring id e c'.agenda + (if e.usable = x.usable then 0 else 1) ≤ stirring id x c.agenda := by
  -- the device is as it was, or as good as that
  have like (usable : e.usable = x.usable) (accepts : ∀ p, e.accepts p = x.accepts p)
      (submitting : e.submitting = x.submitting) {ds' : List Duty}
      (fewer : stirring id x ds' ≤ stirring id x c.agenda) :
      stirring id e ds' + (if e.usable = x.usable then 0 else 1) ≤ stirring id x c.agenda := by
    rw [if_pos usable, stirring_congr accepts submitting]
    exact fewer
  have same (kept : c.devices id = some e) {ds' : List Duty}
      (fewer : stirring id x ds' ≤ stirring id x c.agenda) :
      stirring id e ds' + (if e.usable = x.usable then 0 else 1) ≤ stirring id x c.agenda := by
    obtain rfl := Option.some.inj (found.symm.trans kept)
    exact like rfl (fun _ => rfl) rfl fewer
  have head {duty : Duty} {ds : List Duty} (next : c.agenda = duty :: ds) :
      Layered c.devices (duty :: ds) := next ▸ layered
  -- a duty that is about another device is done, and what it leads to is about that one too
  have passed {duty : Duty} {ds : List Duty} (next : c.agenda = duty :: ds) (ws : List Duty)
      (calm : ∀ w ∈ ws, w.stirs id x = false) :
      stirring id x (ws ++ ds) ≤ stirring id x c.agenda := by
    rw [next, stirring_append calm, stirring_cons]
    exact Nat.le_add_right _ _
  cases change with
  | create path g t =>
    rcases eq_of_update_some there with ⟨rfl, -⟩ | ⟨-, kept⟩
    · exact absurd known (Nat.lt_irrefl _)
    · exact same kept (Nat.le_refl _)
  | destroy j =>
    rcases eq_of_update there with ⟨-, gone⟩ | ⟨-, kept⟩
    · exact absurd gone (by simp)
    · exact same kept (Nat.le_refl _)
  | enlist | cancel | receivers | reported | endRuns | comeUp => exact same there (Nat.le_refl _)
  | startRun j y found' | session j y _ found' =>
    rcases eq_of_update_some there with ⟨rfl, rfl⟩ | ⟨-, kept⟩
    · obtain rfl := Option.some.inj (found.symm.trans found')
      exact like rfl (fun _ => rfl) rfl (Nat.le_refl _)
    · exact same kept (Nat.le_refl _)
  | findPower run j y on quiet found' rising allowed =>
    rcases eq_of_update_some there with ⟨rfl, -⟩ | ⟨-, kept⟩
    · exact absurd allowed aside
    · exact same kept (Nat.le_refl _)
  | defer ds quiet pursuits =>
    refine same there ?_
    rw [stirring_of_quiet pursuits]
    exact Nat.zero_le _
  | summon j y quiet found' allowed =>
    have other : j ≠ id := by
      rintro rfl
      exact aside allowed
    refine same there ?_
    rw [stirring_cons]
    simp [Duty.stirs, other]
  | edit j y z es ds next quiet found' edit up allowed =>
    rcases eq_of_update_some there with ⟨rfl, -⟩ | ⟨-, kept⟩
    · exact absurd allowed aside
    · exact same kept (Nat.le_refl _)
  | requestUnheard _ _ _ lawful | request _ _ _ _ _ lawful => exact lawful.elim
  | heardByAll n ds next => exact same there (passed next [] (by simp))
  | watched n w ls ds ws next watch =>
    refine same there (Nat.le_of_eq ?_)
    rw [stirring_of_watch watch, next, stirring_cons, stirring_cons, stirs_announce_cons (by simp)]
  | turn duty ds ws next isWatch watch =>
    refine same there ?_
    rw [stirring_of_watch watch]
    exact passed next [] (by simp)
  | unmoved n j ls ds next deaf =>
    by_cases mine : j = id
    · refine same there ?_
      subst mine
      have last : .device j ∉ ls := (List.nodup_cons.1 (once.heard n _ (by simp [next]))).1
      rw [stirring_cons, stirs_announce_of_not_mem last]
      exact passed next [] (by simp)
    · refine same there (Nat.le_of_eq ?_)
      rw [next, stirring_cons, stirring_cons, stirs_announce_cons (by simpa using mine)]
  | moved n j ls ds y z next found' hears =>
    rcases eq_of_update_some there with ⟨rfl, rfl⟩ | ⟨other, kept⟩
    · obtain rfl := Option.some.inj (found.symm.trans found')
      have last : .device id ∉ ls := (List.nodup_cons.1 (once.heard n _ (by simp [next]))).1
      -- what is left is the assessment, instead of the announcement
      refine like (by rw [Device.hear_eq hears]) (fun p => ?_) (by rw [Device.hear_eq hears]) ?_
      · rw [Device.hear_eq hears]
        rfl
      · rw [next, stirring_cons, stirring_cons, stirring_cons, stirs_announce_of_not_mem last,
          stirs_of_hears hears]
        simp [Duty.stirs]
    · refine same kept ?_
      rw [next, stirring_cons, stirring_cons, stirring_cons, stirs_announce_cons (by simpa using other.symm)]
      simp [Duty.stirs, other.symm]
  | late duty j ds next about gone => exact same there (passed next [] (by simp))
  | decide j y ds usable next found' decided =>
    rcases eq_of_update_some there with ⟨rfl, rfl⟩ | ⟨other, kept⟩
    · obtain rfl := Option.some.inj (found.symm.trans found')
      -- the one assessment that is done makes up for the change of mind
      have rest : stirring id { x with usable } ds = stirring id x ds :=
        stirring_congr (fun _ => rfl) rfl
      rw [rest, next, stirring_cons]
      simp only [Duty.stirs, decide_true, if_true]
      split <;> omega
    · exact same kept (passed next [] (by simp))
  | concede j y ds next found' =>
    refine same there ?_
    rw [next, stirring_cons, stirring_cons]
    exact Nat.le_refl _
  | turnedDown j y ds name why next found' =>
    have fewer : stirring id x (.conclude j :: ds) ≤ stirring id x c.agenda := by
      rw [next, stirring_cons, stirring_cons]
      exact Nat.le_refl _
    rcases eq_of_update_some there with ⟨rfl, rfl⟩ | ⟨-, kept⟩
    · obtain rfl := Option.some.inj (found.symm.trans found')
      exact like rfl (fun _ => rfl) rfl fewer
    · exact same kept fewer
  | handedIn j y ds name lives next found' =>
    rcases eq_of_update_some there with ⟨rfl, rfl⟩ | ⟨other, kept⟩
    · obtain rfl := Option.some.inj (found.symm.trans found')
      -- it is deaf to its own addition, so what is left is the conclusion instead of the assessment
      have rest : stirring id { x with attempted := true, submitting := true } ds ≤ stirring id x ds :=
        stirring_submitting x ds
      rw [if_pos rfl, next, stirring_cons, stirring_cons, stirring_cons, stirring_cons]
      simp only [Duty.stirs, decide_true, Bool.not_true, Bool.false_and, if_true, Bool.false_eq_true,
        if_false]
      omega
    · refine same kept (passed next [_, _, _] ?_)
      have unheard := foreign j _ rfl other.symm
      simp [Duty.stirs, unheard, other.symm]
  | adopt j y uuid ds next found' =>
    rcases eq_of_update_some there with ⟨rfl, rfl⟩ | ⟨other, kept⟩
    · obtain rfl := Option.some.inj (found.symm.trans found')
      have usable : (x.track uuid).usable = x.usable := by rw [Device.track_eq]
      rw [if_pos usable, stirring_of_plain (d := x) (head next).plain_of_adopt]
      exact passed next [] (by simp)
    · exact same kept (passed next [] (by simp))
  | conclude j y ds next found' =>
    rcases eq_of_update_some there with ⟨rfl, rfl⟩ | ⟨other, kept⟩
    · obtain rfl := Option.some.inj (found.symm.trans found')
      have rest : stirring id { x with usable := x.provisioned.isSome } ds =
          stirring id x ds :=
        stirring_congr (fun _ => rfl) rfl
      rw [rest, next, stirring_cons]
      simp only [Duty.stirs, decide_true, if_true]
      split <;> omega
    · exact same kept (passed next [] (by simp))

/-! ## Nobody else has reason to submit a profile -/

/-- Nothing but additions is announced, and nobody but the device is to be assessed without a
candidate. -/
structure Sole (id : DeviceId) (c : Core) : Prop where
  added : ∀ n ls, .announce n ls ∈ c.agenda → ∃ p, n = .added p
  matched : ∀ j, j ≠ id → .reassess j ∈ c.agenda → ∀ y, c.devices j = some y → y.candidates ≠ []

/-- So it is where the device is to be assessed, and nobody else is being notified. -/
theorem sole_of_reassess (next : c.agenda = .reassess id :: ds) (pursuits : ds.all Duty.isPursuit) :
    c.Sole id := by
  have only {duty : Duty} (due : duty ∈ c.agenda) : duty = .reassess id ∨ duty.isPursuit := by
    rw [next] at due
    exact (List.mem_cons.1 due).imp_right (List.all_eq_true.1 pursuits duty)
  refine ⟨fun n ls due => ?_, fun j other due => ?_⟩
  · exact absurd (only due) (by simp [Duty.isPursuit])
  · exact absurd (only due) (by simp [Duty.isPursuit, other])

/-- A device loses no candidate while nothing but additions is announced. -/
theorem Revises.matched {j : DeviceId} {y : Device} (revises : c.Revises c' j y e)
    (added : ∀ n ls, .announce n ls ∈ c.agenda → ∃ p, n = .added p) (matched : y.candidates ≠ []) :
    e.candidates ≠ [] := by
  cases revises with
  | same | start | session | power | decide | turnedDown | handedIn | conclude => exact matched
  | edit _ _ edit _ _ =>
    obtain ⟨u, tracked⟩ := List.exists_mem_of_ne_nil _ matched
    exact List.ne_nil_of_mem (edit.mono tracked)
  | @hear n ls ds _ next hears =>
    obtain ⟨p, rfl⟩ := added n _ (by rw [next]; exact List.mem_cons_self)
    exact Device.candidates_ne_nil_of_hears_added hears
  | adopt => exact List.ne_nil_of_mem (Device.mem_track.2 (.inl rfl))

/-- **As long as nobody asks the registry for anything** and no discovery goes on, nobody else comes to
have reason to submit a profile. -/
theorem Change.sole (change : Change shut scope c s c') (aside : ∀ j, ¬ scope.discovery j)
    (sole : c.Sole id) (upkeep : c.Upkeep) : c'.Sole id where
  added n ls mem := by
    cases change.step.arises.2 _ mem with
    | kept due => exact sole.added n ls due
    | heard ls' due => exact sole.added n _ due
    | pursuit isPursuit => exact absurd isPursuit (by simp [Duty.isPursuit])
    | watch isWatch => exact absurd isWatch (by simp [Duty.isWatch])
    | announced announces =>
      rcases announces.cause with ⟨-, -, q, r, lawful, -⟩ | ⟨y, name, about, -⟩
      · exact lawful.elim
      · exact ⟨_, about⟩
  matched j other mem e there := by
    have before (due : .reassess j ∈ c.agenda) : e.candidates ≠ [] := by
      rcases change.step.origin there with ⟨y, found, revises⟩ | ⟨rfl, -⟩
      · exact revises.matched sole.added (sole.matched j other due y found)
      · exact absurd rfl (upkeep.about_ne due)
    have rest {duty : Duty} {ds : List Duty} (next : c.agenda = duty :: ds) (left : .reassess j ∈ ds) :
        e.candidates ≠ [] :=
      before (by rw [next]; exact List.mem_cons_of_mem _ left)
    cases change with
    | create | destroy | enlist | cancel | receivers | reported | startRun | endRuns | comeUp | session
    | findPower | edit => exact before mem
    | requestUnheard _ _ _ lawful | request _ _ _ _ _ lawful => exact lawful.elim
    | defer ds quiet pursuits =>
      exact absurd (List.all_eq_true.1 pursuits _ mem) (by simp [Duty.isPursuit])
    | summon i _ _ _ allowed => exact absurd allowed (aside i)
    | heardByAll n ds next | late _ _ ds next | decide _ _ ds _ next | adopt _ _ _ ds next
    | conclude _ _ ds next => exact rest next mem
    | watched n w ls ds ws next watch =>
      rcases List.mem_append.1 mem with new | mem
      · exact absurd (List.all_eq_true.1 watch _ new) (by simp [Duty.isWatch])
      · exact rest next (by simpa using mem)
    | turn duty ds ws next isWatch watch =>
      rcases List.mem_append.1 mem with new | mem
      · exact absurd (List.all_eq_true.1 watch _ new) (by simp [Duty.isWatch])
      · exact rest next mem
    | unmoved n i ls ds next | concede i y ds next | turnedDown i y ds name why next
    | handedIn i y ds name lives next => exact rest next (by simpa using mem)
    | moved n i ls ds y z next found hears =>
      rcases List.mem_cons.1 mem with same | mem
      · -- the device has just taken up what was added
        obtain rfl := Duty.reassess.inj same
        obtain ⟨p, rfl⟩ := sole.added n _ (by rw [next]; exact List.mem_cons_self)
        rcases eq_of_update_some there with ⟨-, rfl⟩ | ⟨elsewhere, -⟩
        · exact Device.candidates_ne_nil_of_hears_added hears
        · exact absurd rfl elsewhere
      · exact rest next (by simpa using mem)

end Core

end Piconet
