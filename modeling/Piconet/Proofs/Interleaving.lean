import Piconet.Proofs.Attempts
import Piconet.Proofs.DeviceSlice

/-!
# The order of updates does not matter

Two runs that bring a device the same properties and the same states of its adapter's power, in
different orders, may go different ways: in one of them everything is there for a moment, and the
device submits a profile, and in the other it never is. In the end it makes no difference to
whether the device is usable. What it needs for that is there in both runs or in neither; and if a
profile is the last thing that it needs, then either there was one all along, or the device has
found one as its identity became known, which it did in both runs, or it has submitted one if
there was any point in it (`Core.Ensues`).

If somebody is being notified at first, the two runs come to the same before either of them takes an
update in (`Bench.Undergoes.settles`), and are compared from there.
-/

namespace Piconet

open Function (update)
open Bench (shut)

variable {scope : Core.Scope} {c c' : Core} {s : Option (DeviceId × Profile)} {id : DeviceId}
  {d e x : Device} {r : Registry}

/-! ## What has to do with candidates -/

namespace Device

/-- Two records of a device that agree in its identity. -/
def SameIdentity (d e : Device) : Prop := e.address = d.address ∧ e.capabilities = d.capabilities

/-- Two records of a device that agree in its identity, its candidates and its attempt. -/
structure Alike (d e : Device) : Prop where
  identity : d.SameIdentity e
  candidates : e.candidates = d.candidates
  attempted : e.attempted = d.attempted

theorem Alike.refl (d : Device) : d.Alike d := ⟨⟨rfl, rfl⟩, rfl, rfl⟩

theorem SameIdentity.accepts (same : d.SameIdentity e) (p : Profile) : e.accepts p = d.accepts p :=
  accepts_congr same.1 same.2 p

/-- A profile has turned out to be for the device. -/
def Gains (d e : Device) (p : Profile) : Prop := e.accepts p = true ∧ d.accepts p = false

theorem SameIdentity.gains (same : x.SameIdentity e) (p : Profile) : d.Gains e p ↔ d.Gains x p := by
  rw [Gains, Gains, same.accepts p]

end Device

/-- The device has submitted a profile since, and it was accepted. -/
structure Device.Handed (d : Device) (r : Registry) (e : Device) : Prop where
  untried : d.attempted = false
  tried : e.attempted = true
  accepted : r.rejection = none
  loaded : r.loaded = true
  addressed : e.address.isSome
  accessPoint : e.capabilities.nap = true

namespace Device.Handed

theorem capable (handed : d.Handed r e) : e.capabilities.isEmpty = false := by
  simp [Capabilities.isEmpty, handed.accessPoint]

theorem mono (handed : d.Handed r x) (identity : x.SameIdentity e)
    (attempted : x.attempted = true → e.attempted = true) : d.Handed r e where
  untried := handed.untried
  tried := attempted handed.tried
  accepted := handed.accepted
  loaded := handed.loaded
  addressed := identity.1 ▸ handed.addressed
  accessPoint := identity.2 ▸ handed.accessPoint

end Device.Handed

/-- Nothing new is announced, and what the device is to adopt stays. -/
structure Duty.Carried (id : DeviceId) (before after : List Duty) : Prop where
  news : ∀ n ls, .announce n ls ∈ after → ∃ ls', .announce n ls' ∈ before
  owed : ∀ u, .adopt id u ∈ after ↔ .adopt id u ∈ before

namespace Duty.Carried

variable {ds ws as bs : List Duty} {duty : Duty}

theorem refl (as : List Duty) : Carried id as as := ⟨fun _ ls mem => ⟨ls, mem⟩, fun _ => Iff.rfl⟩

theorem trans (first : Carried id as bs) (second : Carried id bs ws) : Carried id as ws where
  news n ls mem := by
    obtain ⟨ls', mem⟩ := second.news n ls mem
    exact first.news n ls' mem
  owed u := (second.owed u).trans (first.owed u)

/-- Between quiet agendas there is nothing to carry. -/
theorem of_quiet (before : as.all Duty.isPursuit) (after : bs.all Duty.isPursuit) :
    Carried id as bs where
  news n ls mem := absurd (List.all_eq_true.1 after _ mem) (by simp [Duty.isPursuit])
  owed u := by
    refine ⟨fun mem => ?_, fun mem => ?_⟩
    · exact absurd (List.all_eq_true.1 after _ mem) (by simp [Duty.isPursuit])
    · exact absurd (List.all_eq_true.1 before _ mem) (by simp [Duty.isPursuit])

/-- A duty that is done leaves others in its place. -/
theorem popped (ws : List Duty) (next : as = duty :: ds) (other : ∀ u, duty ≠ .adopt id u)
    (adopts : ∀ u, .adopt id u ∉ ws)
    (news : ∀ n ls, .announce n ls ∈ ws → ∃ ls', duty = .announce n ls') :
    Carried id as (ws ++ ds) where
  news n ls mem := by
    rw [next]
    rcases List.mem_append.1 mem with new | old
    · obtain ⟨ls', rfl⟩ := news n ls new
      exact ⟨ls', List.mem_cons_self⟩
    · exact ⟨ls, List.mem_cons_of_mem _ old⟩
  owed u := by
    rw [next, List.mem_append, List.mem_cons]
    exact or_congr (iff_of_false (adopts u) fun same => other u same.symm) Iff.rfl

/-- What a watcher has to do is neither to announce nor to adopt anything. -/
theorem watch (next : as = duty :: ds) (other : ∀ u, duty ≠ .adopt id u)
    (watch : ws.all Duty.isWatch) : Carried id as (ws ++ ds) := by
  refine popped ws next other (fun u mem => ?_) fun n ls mem => ?_
  · exact absurd (List.all_eq_true.1 watch _ mem) (by simp [Duty.isWatch])
  · exact absurd (List.all_eq_true.1 watch _ mem) (by simp [Duty.isWatch])

end Duty.Carried

namespace Core

/-! ## What a run comes to -/

/-- What becomes of a device `d` and a registry `r` in a run in which nobody but the device asks the
registry for anything: the device is `e` now. -/
structure Ensues (d : Device) (r : Registry) (id : DeviceId) (c : Core) (e : Device) : Prop where
  loaded : c.registry.loaded = r.loaded
  rejection : c.registry.rejection = r.rejection
  stored : c.registry.profiles = r.profiles ∨ d.Handed r e
  once : d.attempted = true → e.attempted = true
  grown : ∀ p, d.accepts p = true → e.accepts p = true
  kept : d.candidates ⊆ e.candidates
  /-- what was stored and has turned out to be for the device is a candidate -/
  surveyed : ∀ p ∈ r.profiles, d.Gains e p → p.uuid ∈ e.candidates
  /-- there are no other reasons to have a candidate -/
  grounds : e.candidates ≠ [] →
    d.candidates ≠ [] ∨ (∃ p ∈ r.profiles, d.Gains e p) ∨ d.Handed r e
  /-- an attempt that was made was made before, or in vain, or it brings a candidate -/
  tried : e.attempted = true → d.attempted = true ∨ r.rejection ≠ none ∨
    (∃ u, .adopt id u ∈ c.agenda) ∨ e.candidates ≠ []
  news : ∀ n ls, .announce n ls ∈ c.agenda → (∃ p, n = .added p) ∧ d.Handed r e
  owed : ∀ u, .adopt id u ∈ c.agenda → d.Handed r e

namespace Ensues

/-- When nobody is being notified everything is still to come. -/
theorem start (quiet : c.isQuiet) : Ensues d.apart c.registry id c d where
  loaded := rfl
  rejection := rfl
  stored := .inl rfl
  once := fun attempted => attempted
  grown _ accepts := accepts
  kept := List.Subset.refl _
  surveyed p _ gains := absurd (gains.1.symm.trans (show d.accepts p = false from gains.2)) (by simp)
  grounds := .inl
  tried := .inl
  news n ls mem := absurd (List.all_eq_true.1 quiet _ mem) (by simp [Duty.isPursuit])
  owed u mem := absurd (List.all_eq_true.1 quiet _ mem) (by simp [Duty.isPursuit])

variable (ensues : c.Ensues d r id x)

include ensues

/-- Nothing has happened that matters to candidates. -/
theorem frame (registry : c'.registry = c.registry) (alike : x.Alike e)
    (carried : Duty.Carried id c.agenda c'.agenda) : c'.Ensues d r id e := by
  have handed (was : d.Handed r x) : d.Handed r e :=
    was.mono alike.identity fun attempted => alike.attempted.trans attempted
  refine ⟨registry ▸ ensues.loaded, registry ▸ ensues.rejection,
    registry ▸ ensues.stored.imp_right handed, ?_, ?_, ?_, ?_, ?_, ?_, ?_, ?_⟩
  · rw [alike.attempted]
    exact ensues.once
  · simp only [alike.identity.accepts]
    exact ensues.grown
  · rw [alike.candidates]
    exact ensues.kept
  · simp only [alike.identity.gains, alike.candidates]
    exact ensues.surveyed
  · simp only [alike.identity.gains, alike.candidates]
    exact fun some => (ensues.grounds some).imp_right (Or.imp_right handed)
  · simp only [alike.attempted, alike.candidates, carried.owed]
    exact ensues.tried
  · intro n ls mem
    obtain ⟨ls', before⟩ := carried.news n ls mem
    exact (ensues.news n ls' before).imp_right handed
  · exact fun u mem => handed (ensues.owed u ((carried.owed u).1 mem))

/-- The device hears of the profile that it submitted. -/
theorem hear (registry : c'.registry = c.registry) {n : Registry.Notice} {ls : List Listener}
    (due : .announce n ls ∈ c.agenda) (hears : x.hear c.registry.profiles n = some e)
    (carried : Duty.Carried id c.agenda c'.agenda) : c'.Ensues d r id e := by
  obtain ⟨⟨p, rfl⟩, was⟩ := ensues.news n ls due
  obtain ⟨q, -, -, -, rfl⟩ : ∃ q, q = p ∧ x.accepts q ∧ q.uuid ∉ x.candidates ∧
      e = { x with candidates := q.uuid :: x.candidates } := by
    rcases Device.hear_cases hears with ⟨q, about, accepts, new, same⟩ | ⟨q, about, -⟩ | ⟨about, -⟩
    · refine ⟨q, ?_, accepts, new, same⟩
      rcases about with ⟨same, -⟩ | same
      · exact (Registry.Notice.added.inj same).symm
      · exact absurd same (by simp)
    · exact absurd about (by simp)
    · exact absurd about (by simp)
  have identity : x.SameIdentity { x with candidates := q.uuid :: x.candidates } := ⟨rfl, rfl⟩
  have handed : d.Handed r { x with candidates := q.uuid :: x.candidates } :=
    was.mono identity fun attempted => attempted
  refine ⟨registry ▸ ensues.loaded, registry ▸ ensues.rejection, .inr handed, ensues.once,
    fun p accepts => (identity.accepts p).trans (ensues.grown p accepts),
    fun u mem => List.mem_cons_of_mem _ (ensues.kept mem), ?_, fun _ => .inr (.inr handed),
    fun _ => .inr (.inr (.inr (List.cons_ne_nil _ _))), ?_, fun _ _ => handed⟩
  · intro p stored gains
    exact List.mem_cons_of_mem _ (ensues.surveyed p stored ((identity.gains p).1 gains))
  · intro n ls mem
    obtain ⟨ls', before⟩ := carried.news n ls mem
    exact ⟨(ensues.news n ls' before).1, handed⟩

/-- The device takes the profile that it submitted as its own. -/
theorem adopt (registry : c'.registry = c.registry) {u : String} (due : .adopt id u ∈ c.agenda)
    (after : c'.agenda ⊆ c.agenda) : c'.Ensues d r id
      { x.track u with submitting := false, provisioned := some u } := by
  have identity : x.SameIdentity
      { x.track u with submitting := false, provisioned := some u } := by
    rw [Device.track_eq]
    exact ⟨rfl, rfl⟩
  have attempted : (x.track u).attempted = x.attempted := by rw [Device.track_eq]
  have some : (x.track u).candidates ≠ [] := List.ne_nil_of_mem (Device.mem_track.2 (.inl rfl))
  have more : x.candidates ⊆ (x.track u).candidates := fun v mem => Device.mem_track.2 (.inr mem)
  have handed := (ensues.owed u due).mono identity attempted.trans
  refine ⟨registry ▸ ensues.loaded, registry ▸ ensues.rejection, .inr handed,
    fun was => attempted.trans (ensues.once was),
    fun p accepts => (identity.accepts p).trans (ensues.grown p accepts),
    fun u mem => more (ensues.kept mem), ?_, fun _ => .inr (.inr handed),
    fun _ => .inr (.inr (.inr some)), fun n ls mem => ⟨(ensues.news n ls (after mem)).1, handed⟩,
    fun _ _ => handed⟩
  exact fun p stored gains => more (ensues.surveyed p stored ((identity.gains p).1 gains))

/-- The device submits a profile, which is turned down. -/
theorem turnedDown (loaded : c'.registry.loaded = c.registry.loaded)
    (rejection : c'.registry.rejection = c.registry.rejection)
    (profiles : c'.registry.profiles = c.registry.profiles)
    (refused : c.registry.rejection ≠ none) (carried : Duty.Carried id c.agenda c'.agenda) :
    c'.Ensues d r id { x with attempted := true } := by
  have vain : r.rejection ≠ none := ensues.rejection ▸ refused
  have identity : x.SameIdentity { x with attempted := true } := ⟨rfl, rfl⟩
  have handed (was : d.Handed r x) : d.Handed r { x with attempted := true } :=
    was.mono identity fun _ => rfl
  refine ⟨loaded.trans ensues.loaded, rejection.trans ensues.rejection,
    profiles ▸ ensues.stored.imp_right handed, fun _ => rfl,
    fun p accepts => (identity.accepts p).trans (ensues.grown p accepts), ensues.kept, ?_, ?_,
    fun _ => .inr (.inl vain), ?_, fun u mem => handed (ensues.owed u ((carried.owed u).1 mem))⟩
  · exact fun p stored gains => ensues.surveyed p stored ((identity.gains p).1 gains)
  · simp only [identity.gains]
    exact fun some => (ensues.grounds some).imp_right (Or.imp_right handed)
  · intro n ls mem
    obtain ⟨ls', before⟩ := carried.news n ls mem
    exact (ensues.news n ls' before).imp_right handed

/-- The device submits a profile, which is stored. -/
theorem handedIn (loaded : c'.registry.loaded = c.registry.loaded)
    (rejection : c'.registry.rejection = c.registry.rejection) {p : Profile}
    (fresh : x.attempted = false) (may : x.MaySubmit c.registry p)
    (accepted : c.registry.rejection = none)
    (news : ∀ n ls, .announce n ls ∈ c'.agenda →
      n = .added p ∨ ∃ ls', .announce n ls' ∈ c.agenda) (owed : .adopt id p.uuid ∈ c'.agenda) :
    c'.Ensues d r id { x with attempted := true, submitting := true } := by
  have untried : d.attempted = false :=
    Bool.eq_false_iff.2 fun tried => absurd (ensues.once tried) (by simp [fresh])
  have identity : x.SameIdentity { x with attempted := true, submitting := true } := ⟨rfl, rfl⟩
  obtain ⟨a, address, -⟩ := may.address
  have handed : d.Handed r { x with attempted := true, submitting := true } :=
    ⟨untried, rfl, ensues.rejection ▸ accepted, ensues.loaded ▸ may.loaded,
      Option.isSome_of_eq_some address, may.accessPoint⟩
  refine ⟨loaded.trans ensues.loaded, rejection.trans ensues.rejection, .inr handed, fun _ => rfl,
    fun p accepts => (identity.accepts p).trans (ensues.grown p accepts), ensues.kept,
    fun q stored gains => ensues.surveyed q stored ((identity.gains q).1 gains),
    fun _ => .inr (.inr handed), fun _ => .inr (.inr (.inl ⟨_, owed⟩)), ?_, fun _ _ => handed⟩
  intro n ls mem
  rcases news n ls mem with rfl | ⟨ls', before⟩
  · exact ⟨⟨p, rfl⟩, handed⟩
  · exact ⟨(ensues.news n ls' before).1, handed⟩

/-- A batch that makes the identity of the device known has it look through what is stored. -/
theorem survey (registry : c'.registry = c.registry) (b : PropertyBatch)
    (changed : (x.changes (x.merge b)).identity = true)
    (carried : Duty.Carried id c.agenda c'.agenda) :
    c'.Ensues d r id ((x.merge b).survey c.registry.profiles) := by
  -- the identity was not known, so nothing was for the device
  have unknown : ¬ (x.address.isSome ∧ x.capabilities.isEmpty = false) := by
    rintro ⟨addressed, capable⟩
    obtain ⟨a, known⟩ := Option.isSome_iff_exists.1 addressed
    have address : (x.merge b).address = x.address :=
      (Device.address_merge known b).trans known.symm
    simp [Device.changes, Changes.identity, address, Device.capabilities_merge capable b] at changed
  have none (p : Profile) : x.accepts p = false :=
    Bool.eq_false_iff.2 fun accepts => unknown (Device.identified_of_accepts accepts)
  have unhanded : ¬ d.Handed r x := fun handed => unknown ⟨handed.addressed, handed.capable⟩
  have stored : c.registry.profiles = r.profiles := ensues.stored.resolve_right unhanded
  have foreign (p : Profile) : d.accepts p = false :=
    Bool.eq_false_iff.2 fun accepts => absurd (ensues.grown p accepts) (by simp [none p])
  rw [stored, Device.survey_eq]
  refine ⟨registry ▸ ensues.loaded, registry ▸ ensues.rejection, .inl (registry ▸ stored),
    ensues.once, fun p accepts => absurd accepts (by simp [foreign p]), ?_, ?_, ?_, ?_, ?_, ?_⟩
  · exact fun u mem => Device.mem_survey.2 (.inl (ensues.kept mem))
  · exact fun p mem gains => Device.mem_survey.2 (.inr ⟨p, mem, gains.1, rfl⟩)
  · intro some
    obtain ⟨v, mem⟩ := List.exists_mem_of_ne_nil _ some
    rcases Device.mem_survey.1 mem with before | ⟨p, isStored, accepts, -⟩
    · rcases ensues.grounds (List.ne_nil_of_mem before) with some | ⟨p, -, gains⟩ | handed
      · exact .inl some
      · exact absurd gains.1 (by simp [none p])
      · exact absurd handed unhanded
    · exact .inr (.inl ⟨p, isStored, accepts, foreign p⟩)
  · intro attempted
    rcases ensues.tried attempted with before | vain | ⟨u, due⟩ | some
    · exact .inl before
    · exact .inr (.inl vain)
    · exact absurd (ensues.owed u due) unhanded
    · obtain ⟨v, mem⟩ := List.exists_mem_of_ne_nil _ some
      exact .inr (.inr (.inr (List.ne_nil_of_mem (Device.mem_survey.2 (.inl mem)))))
  · intro n ls mem
    obtain ⟨ls', before⟩ := carried.news n ls mem
    exact absurd (ensues.news n ls' before).2 unhanded
  · exact fun u mem => absurd (ensues.owed u ((carried.owed u).1 mem)) unhanded

/-- **An update is taken in.** -/
theorem takeIn (u : Update) (registry : c'.registry = c.registry)
    (carried : Duty.Carried id c.agenda c'.agenda) :
    c'.Ensues d r id (x.takeIn c.registry.profiles u) := by
  cases u with
  | power on => exact ensues.frame registry ⟨⟨rfl, rfl⟩, rfl, rfl⟩ carried
  | properties b =>
    rw [Device.takeIn]
    split
    · next changed => exact ensues.survey registry b changed carried
    · next same =>
      rw [Bool.not_eq_true] at same
      simp only [Device.changes, Changes.identity, Bool.or_eq_false_iff, decide_eq_false_iff_not,
        not_not] at same
      exact ensues.frame registry ⟨⟨same.1.symm, same.2.symm⟩, rfl, rfl⟩ carried

/-- **A change of the core that has nothing to do with discovery of the device** keeps it so. -/
theorem change (change : Change shut scope c s c')
    (own : ∀ p, s = some p → p.1 = id) (aside : ¬ scope.discovery id) (known : id < c.nextId)
    (found : c.devices id = some x) (there : c'.devices id = some e) : c'.Ensues d r id e := by
  -- a device that is left alone, or changed in what does not matter here
  have same (there : c.devices id = some e) : x.Alike e := by
    obtain rfl := Option.some.inj (found.symm.trans there)
    exact .refl x
  have set {j : DeviceId} {y z : Device} (found' : c.devices j = some y)
      (there : update c.devices j (some z) id = some e) (alike : y.Alike z) : x.Alike e := by
    rcases eq_of_update_some there with ⟨rfl, rfl⟩ | ⟨-, kept⟩
    · obtain rfl := Option.some.inj (found.symm.trans found')
      exact alike
    · exact same kept
  have kept : Duty.Carried id c.agenda c.agenda := .refl _
  have alive {j : DeviceId} (gone : c.devices j = none) : id ≠ j := by
    rintro rfl
    exact absurd (gone.symm.trans found) (by simp)
  cases change with
  | create path g t =>
    rcases eq_of_update_some there with ⟨rfl, -⟩ | ⟨-, there⟩
    · exact absurd known (Nat.lt_irrefl _)
    · exact ensues.frame rfl (same there) kept
  | destroy j =>
    rcases eq_of_update there with ⟨-, gone⟩ | ⟨-, there⟩
    · exact absurd gone (by simp)
    · exact ensues.frame rfl (same there) kept
  | enlist | cancel | receivers | reported | endRuns | comeUp =>
    exact ensues.frame rfl (same there) kept
  | startRun j y found' => exact ensues.frame rfl (set found' there ⟨⟨rfl, rfl⟩, rfl, rfl⟩) kept
  | session j y _ found' => exact ensues.frame rfl (set found' there ⟨⟨rfl, rfl⟩, rfl, rfl⟩) kept
  | findPower run j y on quiet found' =>
    exact ensues.frame rfl (set found' there ⟨⟨rfl, rfl⟩, rfl, rfl⟩) kept
  | defer ds quiet pursuits => exact ensues.frame rfl (same there) (.of_quiet quiet pursuits)
  | summon j y quiet =>
    refine ensues.frame rfl (same there) ⟨fun n ls mem => ⟨ls, ?_⟩, fun u => ?_⟩
    · simpa using mem
    · simp
  | edit j y z es ds next quiet found' edit up allowed =>
    rcases eq_of_update_some there with ⟨rfl, -⟩ | ⟨-, there⟩
    · exact absurd allowed aside
    · exact ensues.frame rfl (same there) kept
  | requestUnheard _ _ _ lawful | request _ _ _ _ _ lawful => exact lawful.elim
  | heardByAll n ds next =>
    exact ensues.frame rfl (same there) (.popped [] next (by simp) (by simp) (by simp))
  | watched n w ls ds ws next watch =>
    refine ensues.frame rfl (same there) ?_
    have both : Duty.Carried id c.agenda ((ws ++ [.announce n ls]) ++ ds) := by
      refine .popped _ next (by simp) (fun u mem => ?_) fun n' ls' mem => ?_
      · rcases List.mem_append.1 mem with mem | mem
        · exact absurd (List.all_eq_true.1 watch _ mem) (by simp [Duty.isWatch])
        · exact absurd (List.mem_singleton.1 mem) (by simp)
      · rcases List.mem_append.1 mem with mem | mem
        · exact absurd (List.all_eq_true.1 watch _ mem) (by simp [Duty.isWatch])
        · obtain ⟨rfl, -⟩ := Duty.announce.inj (List.mem_singleton.1 mem)
          exact ⟨_, rfl⟩
    rwa [List.append_assoc] at both
  | turn duty ds ws next isWatch watch =>
    refine ensues.frame rfl (same there) (.watch next ?_ watch)
    rintro u rfl
    exact absurd isWatch (by simp [Duty.isWatch])
  | unmoved n j ls ds next =>
    exact ensues.frame rfl (same there) (.popped [.announce n ls] next (by simp) (by simp)
      (by simp))
  | moved n j ls ds y z next found' hears =>
    have carried : Duty.Carried id c.agenda ([.reassess j, .announce n ls] ++ ds) :=
      .popped _ next (by simp) (by simp) (by simp)
    rcases eq_of_update_some there with ⟨rfl, rfl⟩ | ⟨-, there⟩
    · obtain rfl := Option.some.inj (found.symm.trans found')
      exact ensues.hear rfl (by rw [next]; exact List.mem_cons_self) hears carried
    · exact ensues.frame rfl (same there) carried
  | late duty j ds next about gone =>
    refine ensues.frame rfl (same there) (.popped [] next ?_ (by simp) (by simp))
    rintro u rfl
    exact alive gone (by simpa using about)
  | decide j y ds usable next found' =>
    exact ensues.frame rfl (set found' there ⟨⟨rfl, rfl⟩, rfl, rfl⟩)
      (.popped [] next (by simp) (by simp) (by simp))
  | concede j y ds next found' =>
    exact ensues.frame rfl (same there) (.popped [.conclude j] next (by simp) (by simp)
      (by simp))
  | turnedDown j y ds name why next found' lacks due refused =>
    obtain rfl : j = id := own _ rfl
    obtain rfl := Option.some.inj (found.symm.trans found')
    rcases eq_of_update_some there with ⟨-, rfl⟩ | ⟨other, -⟩
    · exact ensues.turnedDown rfl rfl rfl (by simp [refused])
        (.popped [.conclude j] next (by simp) (by simp) (by simp))
    · exact absurd rfl other
  | handedIn j y ds name lives next found' lacks due accepted =>
    obtain rfl : j = id := own _ rfl
    obtain rfl := Option.some.inj (found.symm.trans found')
    obtain ⟨fresh, may⟩ := maySubmit lacks due
    rcases eq_of_update_some there with ⟨-, rfl⟩ | ⟨other, -⟩
    · refine ensues.handedIn rfl rfl fresh may accepted (fun n ls mem => ?_) (by simp)
      rw [next]
      simp only [List.mem_cons, reduceCtorEq, false_or, Duty.announce.injEq] at mem
      exact mem.imp And.left fun old => ⟨ls, List.mem_cons_of_mem _ old⟩
    · exact absurd rfl other
  | adopt j y u ds next found' =>
    rcases eq_of_update_some there with ⟨rfl, rfl⟩ | ⟨other, there⟩
    · obtain rfl := Option.some.inj (found.symm.trans found')
      refine ensues.adopt ?_ ?_ ?_
      · rfl
      · rw [next]
        exact List.mem_cons_self
      · rw [next]
        exact List.subset_cons_self _ ds
    · refine ensues.frame rfl (same there) (.popped [] next ?_ (by simp) (by simp))
      intro u' clash
      exact other (Duty.adopt.inj clash).1.symm
  | conclude j y ds next found' =>
    exact ensues.frame rfl (set found' there ⟨⟨rfl, rfl⟩, rfl, rfl⟩)
      (.popped [] next (by simp) (by simp) (by simp))

end Ensues

/-- Any number of changes that have nothing to do with discovery of the device keep it so. -/
theorem Changes.ensues (changes : Changes shut scope c c')
    (aside : ¬ scope.discovery id) (known : id < c.nextId) (found : c.devices id = some x)
    (ensues : c.Ensues d r id x) :
    id < c'.nextId ∧ ∀ e, c'.devices id = some e → c'.Ensues d r id e := by
  induction changes with
  | refl =>
    refine ⟨known, fun e there => ?_⟩
    obtain rfl := Option.some.inj (found.symm.trans there)
    exact ensues
  | @tail c₁ c₂ _ change ih =>
    obtain ⟨known₁, ensues₁⟩ := ih
    refine ⟨Nat.lt_of_lt_of_le known₁ change.step.nextId_le, fun e there => ?_⟩
    obtain ⟨y, before⟩ := change.step.alive known₁ there
    exact (ensues₁ y before).change change (by simp) aside known₁ before there

end Core

/-! ## Moves -/

namespace Bench

variable {b : Bench} {m : Move}

/-- A run that follows its device leaves the registry alone, and has at most the device assessed. -/
theorem carried_followOn {h : Host} {run : RunId} {y : Run} :
    (h.followOn run y x).registry = h.registry ∧
      Duty.Carried id h.agenda (h.followOn run y x).agenda := by
  have summoned (j : DeviceId) :
      Duty.Carried id h.agenda (.reassess j :: .pursue run :: h.agenda) := by
    refine ⟨fun n ls mem => ⟨ls, by simpa using mem⟩, fun u => by simp⟩
  rw [Host.followOn]
  split
  · next u y' _ =>
    cases u with
    | power on => exact ⟨rfl, summoned _⟩
    | properties b =>
      simp only [Host.takeIn, Host.applyBatch, Host.emitAll_eq]
      exact ⟨rfl, summoned _⟩
  · split
    · exact ⟨rfl, .refl _⟩
    · exact ⟨rfl, .refl _⟩

/-- **A move in which nobody but the device asks the registry for anything** keeps to what the run
comes to. -/
theorem ensues_make {b' : Bench} (reached : Reachable free b) (made : b.make m = some b')
    (unasked : b.request? m = none) (own : ∀ j p, Submits j p b b' → j = id)
    (found : b.host.device? id = some x) (initialized : x.initialized = true)
    (there : b'.host.device? id = some e) (ensues : b.host.core.Ensues d r id x) :
    b'.host.core.Ensues d r id e := by
  by_cases follows : (b.scopeOf m).discovery id
  · obtain ⟨run, y, pursued, running, rfl⟩ := follows
    have quiet := quiet_of_pursued reached made pursued
    obtain ⟨ds, fewer, did, took⟩ :=
      takeIn_of_pursued reached made pursued running found initialized
    obtain rfl := Option.some.inj (there.symm.trans took)
    have pursuits : ds.all Duty.isPursuit :=
      List.all_eq_true.2 fun duty mem => List.all_eq_true.1 quiet duty (fewer mem)
    obtain ⟨registry, carried⟩ :
        b'.host.registry = b.host.registry ∧ Duty.Carried y.device ds b'.host.agenda := by
      rw [did]
      exact carried_followOn
    have carried' : Duty.Carried y.device b.host.agenda b'.host.agenda :=
      (Duty.Carried.of_quiet quiet pursuits).trans carried
    cases b.taken? y.device m with
    | none => exact ensues.frame registry (.refl x) carried'
    | some u => exact ensues.takeIn u registry carried'
  · have known := reached.upkeep.known id x found
    rcases reached.changes_unasked unasked made with changes | ⟨rfl, s, change⟩
    · exact (changes.ensues follows known found ensues).2 e there
    · exact ensues.change change (own_of_change own made change) follows known found there

theorem Undergoes.ensues {us : List Update} {b' : Bench} (reached : Reachable free b)
    (quiet : b.host.core.isQuiet) (found : b.host.device? id = some d)
    (initialized : d.initialized = true) (undergoes : Undergoes id b us b')
    (there : b'.host.device? id = some e) : b'.host.core.Ensues d.apart b.host.registry id e := by
  induction undergoes generalizing e with
  | refl =>
    obtain rfl := Option.some.inj (found.symm.trans there)
    exact .start quiet
  | move m undergoes made unasked own ih =>
    obtain ⟨x, before⟩ := undergoes.alive reached found made there
    obtain ⟨up, -⟩ := undergoes.bare reached found initialized before
    exact ensues_make (reached.trans undergoes.reaches) made unasked own before up there (ih before)

end Bench

/-! ## Two runs -/

/-- **Whether there is a candidate is the same in both runs**, if everything else that the device needs
is there: where one has a candidate the other one has. -/
theorem Core.Ensues.candidates (first : c.Ensues d r id e) (second : c'.Ensues d r id x)
    (identity : e.SameIdentity x) (quiet : c.isQuiet) (mindful : c.Mindful)
    (found : c.devices id = some e) (ready : e.gate.ready = true) (some : x.candidates ≠ []) :
    e.candidates ≠ [] := by
  intro alone
  rcases second.grounds some with before | ⟨p, stored, gains⟩ | handed
  · obtain ⟨v, mem⟩ := List.exists_mem_of_ne_nil _ before
    exact List.ne_nil_of_mem (first.kept mem) alone
  · exact List.ne_nil_of_mem (first.surveyed p stored ((identity.gains p).1 gains)) alone
  · -- it would have submitted a profile in this run, too
    have accessPoint : e.capabilities.nap = true := identity.2 ▸ handed.accessPoint
    have lacks : e.gate.decision = .provision := by
      have none : e.gate.candidates = 0 := List.length_eq_zero_iff.2 alone
      have nap : e.gate.capabilities.nap = true := accessPoint
      simp [Gate.decision, ready, none, nap]
    have attempted : e.attempted = true := by
      rw [← Bool.not_eq_false]
      intro untried
      have loaded : c.registry.loaded = true := first.loaded.trans handed.loaded
      exact not_awaits_of_quiet quiet (mindful id e found ⟨lacks, untried⟩ loaded)
    rcases first.tried attempted with before | vain | ⟨u, due⟩ | some
    · exact absurd before (by simp [handed.untried])
    · exact vain handed.accepted
    · exact absurd (List.all_eq_true.1 quiet _ due) (by simp [Duty.isPursuit])
    · exact some alone

namespace Bench

variable {b b₁ b₂ : Bench} {us₁ us₂ : List Update} {d₁ d₂ : Device}

/-- **Where two runs that bring a device the same updates end, it has a candidate in the one if it has
one in the other**, as long as everything else is there. -/
theorem Undergoes.candidates (reached : Reachable free b) (found : b.host.device? id = some d)
    (initialized : d.initialized = true) (first : Undergoes id b us₁ b₁)
    (second : Undergoes id b us₂ b₂) (quiet₁ : b₁.host.core.isQuiet)
    (quiet₂ : b₂.host.core.isQuiet) (there₁ : b₁.host.device? id = some d₁)
    (there₂ : b₂.host.device? id = some d₂) (identity : d₁.SameIdentity d₂)
    (ready : d₁.gate.ready = true) (some : d₂.candidates ≠ []) : d₁.candidates ≠ [] := by
  -- what was under way at first ends in the same way in both runs
  obtain ⟨c₁, x₁, rest₁, before₁, early₁, leads₁, late₁⟩ :=
    first.settles reached found quiet₁ there₁
  obtain ⟨c₂, x₂, rest₂, before₂, early₂, leads₂, late₂⟩ :=
    second.settles reached found quiet₂ there₂
  have same := leads₁.unique leads₂ (Core.toward_of_quiet rest₁) (Core.toward_of_quiet rest₂)
  have device : x₁.apart = x₂.apart := (congrArg DeviceSlice.device same :)
  have registry : c₁.host.registry = c₂.host.registry := (congrArg DeviceSlice.registry same :)
  obtain ⟨up₁, -⟩ := early₁.bare reached found initialized before₁
  obtain ⟨up₂, -⟩ := early₂.bare reached found initialized before₂
  have ensues₁ := late₁.ensues (reached.trans early₁.reaches) rest₁ before₁ up₁ there₁
  have ensues₂ := late₂.ensues (reached.trans early₂.reaches) rest₂ before₂ up₂ there₂
  rw [device, registry] at ensues₁
  exact ensues₁.candidates ensues₂ identity quiet₁ (reached.trans first.reaches).mindful there₁
    ready some

/-- **The order in which updates come together makes no difference.** From any state of any run in which a
device is initialized, let two runs go on in which nobody but the device asks the registry for anything, and
bring the device the same batches of properties in the same order and the same changes of its adapter's power in
the same order, however these two feeds are interleaved. When nobody is being notified any longer, address,
name, signal strength, capabilities, link state and adapter of the device are the same after both, and so is its
usability. -/
theorem same_of_interleaved (reached : Reachable free b) (found : b.host.device? id = some d)
    (initialized : d.initialized = true) (first : Undergoes id b us₁ b₁)
    (second : Undergoes id b us₂ b₂) (quiet₁ : b₁.host.core.isQuiet)
    (quiet₂ : b₂.host.core.isQuiet) (there₁ : b₁.host.device? id = some d₁)
    (there₂ : b₂.host.device? id = some d₂)
    (properties : us₁.filterMap Update.batch? = us₂.filterMap Update.batch?)
    (powers : us₁.filterMap Update.power? = us₂.filterMap Update.power?) :
    d₁.address = d₂.address ∧ d₁.binAddress = d₂.binAddress ∧ d₁.name = d₂.name ∧
      d₁.rssi = d₂.rssi ∧ d₁.capabilities = d₂.capabilities ∧ d₁.connected = d₂.connected ∧
      d₁.adapter = d₂.adapter ∧ d₁.usable = d₂.usable := by
  have reached₁ := reached.trans first.reaches
  have reached₂ := reached.trans second.reaches
  obtain ⟨up₁, known₁⟩ := first.bare reached found initialized there₁
  obtain ⟨up₂, known₂⟩ := second.bare reached found initialized there₂
  have same : d₁.bare = d₂.bare := by
    rw [known₁, known₂, Device.foldl_amend, Device.foldl_amend, properties, powers]
  have address : d₁.address = d₂.address := (congrArg Device.address same :)
  have name : d₁.name = d₂.name := (congrArg Device.name same :)
  have capabilities : d₁.capabilities = d₂.capabilities := (congrArg Device.capabilities same :)
  have bus : d₁.busPresent = d₂.busPresent := (congrArg Device.busPresent same :)
  have adapter : d₁.adapter = d₂.adapter := (congrArg Device.adapter same :)
  have ready : d₁.gate.ready = d₂.gate.ready := by
    simp only [Gate.ready, Device.gate, up₁, up₂, address, name, capabilities, bus, adapter]
  have usable : d₁.usable = d₂.usable := by
    rw [usable_eq_fit reached₁ quiet₁ there₁, usable_eq_fit reached₂ quiet₂ there₂, Device.fit,
      Device.fit, ready]
    cases all : d₂.gate.ready with
    | false => rfl
    | true =>
      have one := first.candidates reached found initialized second quiet₁ quiet₂ there₁ there₂
        ⟨address.symm, capabilities.symm⟩ (ready.trans all)
      have other := second.candidates reached found initialized first quiet₂ quiet₁ there₂ there₁
        ⟨address, capabilities⟩ all
      have agree : d₁.candidates = [] ↔ d₂.candidates = [] := not_iff_not.1 ⟨other, one⟩
      rw [Bool.true_and, Bool.true_and, Bool.eq_iff_iff]
      simp [agree]
  exact ⟨address, by rw [Device.binAddress, Device.binAddress, address], name,
    (congrArg Device.rssi same :), capabilities, (congrArg Device.connected same :), adapter, usable⟩

/-- An access point that has come up without a name, and whose adapter is on. -/
def nameless : Bench :=
  (opening .bluez5 (.stub {
    devices := ⟨[("/d", some
      { address := some "1:2:3:4:5:6", uuids := some ["1116-0"], adapter := some "/a" })]⟩
    adapters := ⟨[("/a", some true)]⟩ }) true none).makeAll
    (([.step (.newDevice "D" "/d" none {}), .step (.run "D"), .poll 1] : List Move) ++ List.replicate 11 Move.act)

/-- It gets a name, after as many duties as given. -/
def naming (duties : Nat) : List Move :=
  [.step (.command (.push "/d" { name := some "n" })), .poll 1] ++ List.replicate duties .act

/-- Its adapter is switched off. -/
def darkening : List Move :=
  [.step (.command (.power "/a" false)), .poll 1] ++ List.replicate 2 .act

/-- If the name is there before the adapter is switched off a profile is submitted, and else none is;
the device is not usable in either case. -/
theorem same_nameless :
    (nameless.makeAll (naming 6 ++ darkening)).host.submissions.length = 1 ∧
      (nameless.makeAll (darkening ++ naming 2)).host.submissions = [] ∧
      ∃ d₁ d₂, (nameless.makeAll (naming 6 ++ darkening)).host.device? 0 = some d₁ ∧
        (nameless.makeAll (darkening ++ naming 2)).host.device? 0 = some d₂ ∧
        d₁.address = d₂.address ∧ d₁.binAddress = d₂.binAddress ∧ d₁.name = d₂.name ∧
        d₁.rssi = d₂.rssi ∧ d₁.capabilities = d₂.capabilities ∧ d₁.connected = d₂.connected ∧
        d₁.adapter = d₂.adapter ∧ d₁.usable = d₂.usable := by
  have reached : Reachable free nameless :=
    ⟨_, _, _, _, _, reaches_makeAll _ _ fun _ _ => trivial⟩
  have first : Undergoes 0 nameless [.properties { name := some "n" }, .power false]
      (nameless.makeAll (naming 6 ++ darkening)) := undergoes_makeAll (by rfl)
  have second : Undergoes 0 nameless [.power false, .properties { name := some "n" }]
      (nameless.makeAll (darkening ++ naming 2)) := undergoes_makeAll (by rfl)
  have found : nameless.host.device? 0 = some ((nameless.host.device? 0).get (by rfl)) := by rfl
  exact ⟨by rfl, by rfl, _, _, (Option.some_get (by rfl)).symm, (Option.some_get (by rfl)).symm,
    same_of_interleaved reached found (by rfl) first second (by rfl) (by rfl)
      (Option.some_get _).symm (Option.some_get _).symm (by rfl) (by rfl)⟩

end Bench

end Piconet
