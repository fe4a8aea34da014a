import Piconet.Proofs.Agenda

/-!
# Layers of the agenda

When nobody else calls back into the registry, what is nested on the agenda is simple. While a
profile is announced as added nobody submits another one: the devices that are assessed above the
announcement are those that took the profile up, so they have a candidate. So at most one profile
is being submitted at a time, and an addition that its device does not listen to is its own.
-/

namespace Piconet

open Function (update)
open Bench (orderly)

/-- An addition, or what a device has to do after it. -/
def Duty.adds : Duty → Bool
  | .announce (.added _) _ | .adopt .. => true
  | _ => false

/-- Nothing is added. -/
def Plain (ds : List Duty) : Prop := ∀ duty ∈ ds, duty.adds = false

/-- Above an addition nobody but devices with candidates is assessed, and there is one at most. -/
inductive Layered (devices : DeviceId → Option Device) : List Duty → Prop
  | plain {ds : List Duty} (plain : Plain ds) : Layered devices ds
  | added (p : Profile) (ls : List Listener) {ds : List Duty} (plain : Plain ds) :
      Layered devices (.announce (.added p) ls :: ds)
  | handedIn (p : Profile) (ls : List Listener) (id : DeviceId) {ds : List Duty} (plain : Plain ds) :
      Layered devices (.announce (.added p) ls :: .adopt id p.uuid :: ds)
  | adopt (id : DeviceId) (uuid : String) {ds : List Duty} (plain : Plain ds) :
      Layered devices (.adopt id uuid :: ds)
  | watch {w : Duty} (isWatch : w.isWatch) {ds : List Duty} (layered : Layered devices ds) :
      Layered devices (w :: ds)
  | reassess (id : DeviceId) (matched : ∀ d, devices id = some d → d.candidates ≠ [])
      {ds : List Duty} (layered : Layered devices ds) : Layered devices (.reassess id :: ds)

variable {law : Core → Registry.Request → Prop} {c c' : Core} {s : Option (DeviceId × Profile)}
  {id : DeviceId}

/-- Less to do is as plain. -/
theorem Plain.of_cons {duty : Duty} {ds : List Duty} (plain : Plain (duty :: ds)) : Plain ds :=
  fun d hd => plain d (List.mem_cons_of_mem _ hd)

/-- A duty that announces no addition may be put first. -/
theorem Plain.cons {duty : Duty} {ds : List Duty} (head : duty.adds = false) (plain : Plain ds) :
    Plain (duty :: ds) := by
  intro d hd
  rcases List.mem_cons.1 hd with rfl | mem
  · exact head
  · exact plain d mem

/-- Discovery announces no addition. -/
theorem plain_of_isPursuit {ds : List Duty} (pursuits : ds.all Duty.isPursuit) : Plain ds := by
  intro d mem
  obtain ⟨run, rfl⟩ := Duty.eq_of_isPursuit (List.all_eq_true.1 pursuits d mem)
  rfl

namespace Layered

variable {devices devices' : DeviceId → Option Device} {ds : List Duty} {p : Profile}
  {ls : List Listener} {uuid : String} {n : Registry.Notice}

/-- Only the devices that are to be assessed matter, and of these only whether they have candidates. -/
theorem mono (layered : Layered devices ds) (keeps : ∀ id, .reassess id ∈ ds →
    (∀ d, devices id = some d → d.candidates ≠ []) → ∀ d, devices' id = some d → d.candidates ≠ []) :
    Layered devices' ds := by
  induction layered with
  | plain plain => exact .plain plain
  | added p ls plain => exact .added p ls plain
  | handedIn p ls id plain => exact .handedIn p ls id plain
  | adopt id uuid plain => exact .adopt id uuid plain
  | watch isWatch _ ih =>
    exact .watch isWatch (ih fun id mem => keeps id (List.mem_cons_of_mem _ mem))
  | reassess id matched _ ih =>
    exact .reassess id (keeps id List.mem_cons_self matched)
      (ih fun id mem => keeps id (List.mem_cons_of_mem _ mem))

/-- What follows for watchers comes first, and submits nothing. -/
theorem append_watches {ws : List Duty} (watch : ws.all Duty.isWatch) (layered : Layered devices ds) :
    Layered devices (ws ++ ds) := by
  induction ws with
  | nil => exact layered
  | cons w ws ih =>
    obtain ⟨head, rest⟩ := Bool.and_eq_true_iff.1 (List.all_cons ▸ watch)
    exact .watch head (ih rest)

/-! ### What is left when a duty is done -/

/-- Below an `Added` notification there is at most the rest of one submission. -/
theorem of_added (layered : Layered devices (.announce (.added p) ls :: ds)) :
    Plain ds ∨ ∃ id ds', ds = .adopt id p.uuid :: ds' ∧ Plain ds' := by
  cases layered with
  | plain plain => exact absurd (plain _ List.mem_cons_self) (by simp [Duty.adds])
  | added _ _ plain => exact .inl plain
  | handedIn _ _ id plain => exact .inr ⟨id, _, rfl, plain⟩
  | watch isWatch => exact absurd isWatch (by simp [Duty.isWatch])

/-- Anything announced but an addition is announced where nothing is added. -/
theorem plain_of_announce (layered : Layered devices (.announce n ls :: ds))
    (other : ∀ p, n ≠ .added p) : Plain ds := by
  cases layered with
  | plain plain => exact plain.of_cons
  | added p => exact absurd rfl (other p)
  | handedIn p => exact absurd rfl (other p)
  | watch isWatch => exact absurd isWatch (by simp [Duty.isWatch])

/-- When some of the listeners have heard of a change, the agenda looks the same. -/
theorem of_announce (layered : Layered devices (.announce n ls :: ds)) (ls' : List Listener) :
    Layered devices (.announce n ls' :: ds) := by
  by_cases other : ∀ p, n ≠ .added p
  · refine .plain (Plain.cons ?_ (layered.plain_of_announce other))
    cases n <;> simp_all [Duty.adds]
  · obtain ⟨p, rfl⟩ : ∃ p, n = .added p := by simpa using other
    rcases layered.of_added with plain | ⟨id, ds', rfl, plain⟩
    · exact .added p ls' plain
    · exact .handedIn p ls' id plain

/-- A change that everybody was notified of is off the agenda. -/
theorem of_announced (layered : Layered devices (.announce n ls :: ds)) : Layered devices ds := by
  by_cases other : ∀ p, n ≠ .added p
  · exact .plain (layered.plain_of_announce other)
  · obtain ⟨p, rfl⟩ : ∃ p, n = .added p := by simpa using other
    rcases layered.of_added with plain | ⟨id, ds', rfl, plain⟩
    · exact .plain plain
    · exact .adopt id p.uuid plain

/-- What was done for a watcher is off the agenda. -/
theorem of_watch {w : Duty} (layered : Layered devices (w :: ds)) (isWatch : w.isWatch) :
    Layered devices ds := by
  cases layered with
  | plain plain => exact .plain plain.of_cons
  | added | handedIn | adopt | reassess => exact absurd isWatch (by simp [Duty.isWatch])
  | watch _ layered => exact layered

/-- A device that was assessed and submitted nothing leaves the rest. -/
theorem of_reassess (layered : Layered devices (.reassess id :: ds)) : Layered devices ds := by
  cases layered with
  | plain plain => exact .plain plain.of_cons
  | watch _ layered => exact layered
  | reassess _ _ layered => exact layered

/-- A device without candidates is assessed where nothing is added. -/
theorem plain_of_reassess {d : Device} (layered : Layered devices (.reassess id :: ds))
    (found : devices id = some d) (alone : d.candidates = []) : Plain ds := by
  cases layered with
  | plain plain => exact plain.of_cons
  | watch isWatch => exact absurd isWatch (by simp [Duty.isWatch])
  | reassess _ matched => exact absurd alone (matched d found)

/-- Nothing else is submitted before the device has taken its submitted profile as its own. -/
theorem plain_of_adopt (layered : Layered devices (.adopt id uuid :: ds)) : Plain ds := by
  cases layered with
  | plain plain => exact plain.of_cons
  | adopt _ _ plain => exact plain
  | watch isWatch => exact absurd isWatch (by simp [Duty.isWatch])

/-- Nothing else is submitted before a device has settled its usability after its submission. -/
theorem plain_of_conclude (layered : Layered devices (.conclude id :: ds)) : Plain ds := by
  cases layered with
  | plain plain => exact plain.of_cons
  | watch isWatch => exact absurd isWatch (by simp [Duty.isWatch])

/-- **Whose addition it is**: while a profile is being submitted, no other one is announced as
added. -/
theorem uuid_eq (layered : Layered devices ds) (adopts : .adopt id uuid ∈ ds)
    (announced : .announce (.added p) ls ∈ ds) : p.uuid = uuid := by
  induction layered with
  | plain plain => exact absurd (plain _ adopts) (by simp [Duty.adds])
  | added q ls' plain =>
    rcases List.mem_cons.1 adopts with same | mem
    · exact absurd same (by simp)
    · exact absurd (plain _ mem) (by simp [Duty.adds])
  | handedIn q ls' j plain =>
    -- nothing below the two parts of the submission adds anything
    have none {duty : Duty} (adds : duty.adds) : duty ∉ _ := fun mem =>
      absurd (plain duty mem) (by simp [adds])
    obtain ⟨rfl, -⟩ : p = q ∧ ls = ls' := by
      rcases List.mem_cons.1 announced with same | mem
      · simpa using same
      · rcases List.mem_cons.1 mem with same | mem
        · exact absurd same (by simp)
        · exact absurd mem (none rfl)
    rcases List.mem_cons.1 adopts with same | mem
    · exact absurd same (by simp)
    · rcases List.mem_cons.1 mem with same | mem
      · exact (Duty.adopt.inj same).2.symm
      · exact absurd mem (none rfl)
  | adopt j v plain =>
    rcases List.mem_cons.1 announced with same | mem
    · exact absurd same (by simp)
    · exact absurd (plain _ mem) (by simp [Duty.adds])
  | watch isWatch _ ih =>
    refine ih ?_ ?_
    · rcases List.mem_cons.1 adopts with rfl | mem
      · exact absurd isWatch (by simp [Duty.isWatch])
      · exact mem
    · rcases List.mem_cons.1 announced with rfl | mem
      · exact absurd isWatch (by simp [Duty.isWatch])
      · exact mem
  | reassess j _ _ ih =>
    refine ih ?_ ?_
    · rcases List.mem_cons.1 adopts with same | mem
      · exact absurd same (by simp)
      · exact mem
    · rcases List.mem_cons.1 announced with same | mem
      · exact absurd same (by simp)
      · exact mem

end Layered

namespace Core

/-- At a quiet state nothing is announced at all. -/
theorem plain_of_quiet (quiet : c.isQuiet) : Plain c.agenda := plain_of_isPursuit quiet

/-- A device that keeps its candidates when it changes is matched if it was. -/
theorem matched_of_update {f : DeviceId → Option Device} {j : DeviceId} {d e : Device}
    (found : f j = some d) (keeps : d.candidates ≠ [] → e.candidates ≠ [])
    (matched : ∀ x, f id = some x → x.candidates ≠ []) :
    ∀ x, update f j (some e) id = some x → x.candidates ≠ [] := by
  intro x there
  rcases eq_of_update_some there with ⟨rfl, rfl⟩ | ⟨-, kept⟩
  · exact keeps (matched d found)
  · exact matched x kept

/-- **Every step keeps the layers.** -/
theorem Step.layered (step : Step orderly c s c') (upkeep : c.Upkeep)
    (layered : Layered c.devices c.agenda) : Layered c'.devices c'.agenda := by
  have from_ {duty : Duty} {ds : List Duty} (next : c.agenda = duty :: ds) :
      Layered c.devices (duty :: ds) := by
    rw [← next]
    exact layered
  cases step with
  | enlist | cancel | receivers | reported | endRuns | comeUp | requestUnheard => exact layered
  | create path g t =>
    -- nobody is to assess a device that has only just come
    apply layered.mono
    intro id mem matched d there
    rcases eq_of_update_some there with ⟨rfl, -⟩ | ⟨-, kept⟩
    · exact absurd rfl (upkeep.about_ne mem)
    · exact matched d kept
  | destroy j =>
    apply layered.mono
    intro id mem matched d there
    rcases eq_of_update there with ⟨-, hx⟩ | ⟨-, kept⟩
    · exact absurd hx (by simp)
    · exact matched d kept
  | startRun j d found => exact layered.mono fun _ _ matched => matched_of_update found (·) matched
  | session j d s found => exact layered.mono fun _ _ matched => matched_of_update found (·) matched
  | findPower run j d on quiet found =>
    exact layered.mono fun _ _ matched => matched_of_update found (·) matched
  | defer ds quiet pursuits => exact .plain (plain_of_isPursuit pursuits)
  | summon j d quiet found => exact .plain (.cons rfl (plain_of_quiet quiet))
  | edit j d e es ds next quiet =>
    refine .plain ?_
    rw [show c.agenda = _ from next]
    exact .cons rfl (plain_of_isPursuit quiet)
  | request q r n lives isOpen lawful =>
    -- nobody is being notified when a request comes in, so nothing is being added
    have plain : Plain c.agenda := plain_of_quiet lawful.1
    cases n with
    | added p => exact .added p _ plain
    | removed | updated | loaded => exact .plain (.cons rfl plain)
  | heardByAll n ds next => exact (from_ next).of_announced
  | watched n w ls ds ws next watch =>
    exact ((from_ next).of_announce ls).append_watches watch
  | turn duty ds ws next isWatch watch => exact ((from_ next).of_watch isWatch).append_watches watch
  | unmoved n j ls ds next => exact (from_ next).of_announce ls
  | moved n j ls ds d e next found hears =>
    by_cases other : ∀ p, n ≠ .added p
    · -- it may take a candidate off, but nothing is added below
      refine .plain (.cons rfl (.cons ?_ ((from_ next).plain_of_announce other)))
      cases n <;> simp_all [Duty.adds]
    · obtain ⟨p, rfl⟩ : ∃ p, n = .added p := by simpa using other
      -- the device takes the added profile up, so it has a candidate when it is assessed
      have more := Device.candidates_ne_nil_of_hears_added hears
      refine .reassess j (fun x there => ?_) (((from_ next).of_announce ls).mono fun _ _ matched =>
        matched_of_update found (fun _ => more) matched)
      rcases eq_of_update_some there with ⟨-, rfl⟩ | ⟨elsewhere, -⟩
      · exact more
      · exact absurd rfl elsewhere
  | late duty j ds next about =>
    rcases about with rfl | ⟨uuid, rfl⟩ | rfl
    · exact (from_ next).of_reassess
    · exact .plain (from_ next).plain_of_adopt
    · exact .plain (from_ next).plain_of_conclude
  | decide j d ds usable next found =>
    exact (from_ next).of_reassess.mono fun _ _ matched => matched_of_update found (·) matched
  | concede j d ds next found lacks =>
    exact .plain (.cons rfl ((from_ next).plain_of_reassess found (Device.of_provision lacks).2.1))
  | turnedDown j d ds name why next found lacks =>
    exact .plain (.cons rfl ((from_ next).plain_of_reassess found (Device.of_provision lacks).2.1))
  | handedIn j d ds name lives next found lacks =>
    -- a device that submits has no candidate, so it is not assessed above another addition
    have plain := (from_ next).plain_of_reassess found (Device.of_provision lacks).2.1
    exact .handedIn _ _ j (.cons rfl plain)
  | adopt j d uuid ds next found => exact .plain (from_ next).plain_of_adopt
  | conclude j d ds next found => exact .plain (from_ next).plain_of_conclude

/-- A device that submits a profile still has to take it as its own. -/
def Submitting (c : Core) : Prop :=
  ∀ id d, c.devices id = some d → d.submitting → ∃ uuid, .adopt id uuid ∈ c.agenda

/-- **A device whose own submission is under way still has `adopt` on the agenda**: the duty is put there when
it submits, and the mark `submitting` is gone when the duty is done. -/
theorem Step.submitting (step : Step law c s c') (submitting : c.Submitting) : c'.Submitting := by
  intro id e there busy
  -- a device that was submitting before still has to take its profile, or has just taken it
  have before {d : Device} (found : c.devices id = some d) (was : d.submitting) :
      ∃ uuid, .adopt id uuid ∈ c'.agenda := by
    obtain ⟨uuid, due⟩ := submitting id d found was
    rcases step.adopts due found there with still | ⟨-, idle⟩
    · exact ⟨uuid, still⟩
    · exact absurd busy (by simp [idle])
  rcases step.origin there with ⟨d, found, revises⟩ | ⟨-, -, -, path, g, t, rfl⟩
  · cases revises with
    | same | start | session | power | decide | turnedDown | conclude => exact before found busy
    | edit _ _ edit _ _ =>
      rw [edit.kept.2.2.1] at busy
      exact before found busy
    | hear _ hears _ =>
      rw [Device.hear_eq hears] at busy
      exact before found busy
    | handedIn p ls _ _ after =>
      rw [after]
      exact ⟨p.uuid, List.mem_cons_of_mem _ List.mem_cons_self⟩
    | adopt => exact absurd busy (by simp)
  · exact absurd busy (by simp [Device.fresh])

end Core

end Piconet
