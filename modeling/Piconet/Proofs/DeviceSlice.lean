import Piconet.Proofs.Redundancy
import Piconet.Proofs.Updates

/-!
# What is in store for a device

While somebody is being notified no discovery goes on, and as long as nobody else asks the registry
for anything what is in store for a device is settled (`DeviceSlice.next`): it hears of what is being
announced, is assessed, submits a profile if it is due to, and so on, in the order of the agenda.
Whatever else happens in between is of no concern to it. So all runs that lead to a state in which
nobody is being notified any longer lead to the same state of the device and the registry.
-/

namespace Piconet

open Function (update)
open Bench (shut)

variable {scope : Core.Scope} {c c' : Core} {s : Option (DeviceId × Profile)} {id : DeviceId}
  {d e x : Device}

/-! ## The slice -/

/-- A device apart from its session and from whether its discovery was started. -/
def Device.apart (d : Device) : Device := { d with session := .idle, started := true }

namespace Device

variable {stored : List Profile} {n : Registry.Notice}

theorem apart_track (d : Device) (u : String) : (d.track u).apart = d.apart.track u := by
  have tracks : d.apart.tracks u = d.tracks u := rfl
  rw [track, track, tracks]
  split <;> rfl

theorem apart_adopt? (d : Device) (p : Profile) : d.apart.adopt? p = (d.adopt? p).map apart := by
  have accepts : d.apart.accepts p = d.accepts p := rfl
  have tracks : d.apart.tracks p.uuid = d.tracks p.uuid := rfl
  rw [adopt?, adopt?, accepts, tracks, ← apart_track]
  split <;> rfl

theorem apart_forget? (d : Device) (p : Profile) : d.apart.forget? p = (d.forget? p).map apart := by
  have tracks : d.apart.tracks p.uuid = d.tracks p.uuid := rfl
  rw [forget?, forget?, untrack, untrack, tracks]
  split <;> rfl

theorem apart_survey (d : Device) (stored : List Profile) :
    d.apart.survey stored = (d.survey stored).apart := by
  rw [survey, survey]
  induction stored generalizing d with
  | nil => rfl
  | cons p ps ih =>
    rw [List.foldl_cons, List.foldl_cons, apart_adopt?]
    cases d.adopt? p with
    | none => exact ih d
    | some e => exact ih e

/-- A device follows a change in the same way whatever becomes of its session. -/
theorem apart_hear (d : Device) (stored : List Profile) (n : Registry.Notice) :
    d.apart.hear stored n = (d.hear stored n).map apart := by
  cases n with
  | added p =>
    have submitting : d.apart.submitting = d.submitting := rfl
    rw [hear, hear, submitting, apart_adopt?]
    split <;> rfl
  | removed p => exact d.apart_forget? p
  | updated p =>
    have accepts : d.apart.accepts p = d.accepts p := rfl
    rw [hear, hear, accepts, apart_adopt?, apart_forget?]
    split <;> rfl
  | loaded =>
    rw [hear, hear, apart_survey]
    rfl

end Device

/-- What a duty has in store for a device. -/
def Duty.toward (id : DeviceId) : Duty → Option Duty
  | .announce n ls => if .device id ∈ ls then some (.announce n [.device id]) else none
  | .reassess j => if j = id then some (.reassess id) else none
  | .adopt j u => if j = id then some (.adopt id u) else none
  | .conclude j => if j = id then some (.conclude id) else none
  | _ => none

/-- What decides what becomes of a device while somebody is being notified. -/
structure DeviceSlice where
  device : Device
  naming : Naming
  registry : Registry
  submitted : List HwAddress
  agenda : List Duty

namespace DeviceSlice

/-- The profile that the device would submit. -/
def profileFor (o : DeviceSlice) (name : String) : Profile :=
  .forAccessPoint (o.naming.uuid o.device.binAddress (o.submitted.count o.device.binAddress + 1)) name
    o.device.binAddress

/-- The device has submitted its profile. -/
def provision (o : DeviceSlice) (id : DeviceId) (name : String) (ds : List Duty) : DeviceSlice :=
  let p := o.profileFor name
  let submitted := o.submitted ++ [o.device.binAddress]
  match o.registry.rejection with
  | some _ =>
    { o with
      device := { o.device with attempted := true }
      registry := o.registry.countSubmission
      submitted
      agenda := .conclude id :: ds }
  | none =>
    { o with
      device := { o.device with attempted := true, submitting := true }
      registry := o.registry.countSubmission.insert p
      submitted
      agenda := .announce (.added p) [.device id] :: .adopt id p.uuid :: .conclude id :: ds }

/-- What happens to the device next. -/
def next (id : DeviceId) (o : DeviceSlice) : Option DeviceSlice :=
  match o.agenda with
  | .announce n _ :: ds =>
    match o.device.hear o.registry.profiles n with
    | some e => some { o with device := e, agenda := .reassess id :: ds }
    | none => some { o with agenda := ds }
  | .reassess _ :: ds =>
    match o.device.gate.decision with
    | .decided usable => some { o with device := { o.device with usable }, agenda := ds }
    | .provision =>
      match o.device.dueProfileName? o.registry.loaded with
      | some name => some (o.provision id name ds)
      | none => some { o with agenda := .conclude id :: ds }
  | .adopt _ u :: ds =>
    some { o with
      device := { o.device.track u with submitting := false, provisioned := some u }
      agenda := ds }
  | .conclude _ :: ds =>
    some { o with
      device := { o.device with usable := o.device.provisioned.isSome }
      agenda := ds }
  | _ => none

/-- What the device comes to. -/
abbrev Leads (id : DeviceId) : DeviceSlice → DeviceSlice → Prop :=
  Relation.ReflTransGen fun o o' => o.next id = some o'

/-- **There is one end to it.** -/
theorem Leads.unique {o o₁ o₂ : DeviceSlice} (first : Leads id o o₁) (second : Leads id o o₂)
    (empty₁ : o₁.agenda = []) (empty₂ : o₂.agenda = []) : o₁ = o₂ := by
  have stuck {o o' : DeviceSlice} (empty : o.agenda = []) (leads : Leads id o o') : o = o' := by
    rcases leads.cases_head with same | ⟨o'', next, -⟩
    · exact same
    · simp [DeviceSlice.next, empty] at next
  have unique : Relator.RightUnique fun o o' : DeviceSlice => o.next id = some o' := by
    intro o o' o'' next next'
    exact Option.some.inj (next.symm.trans next')
  rcases Relation.ReflTransGen.total_of_right_unique unique first second with leads | leads
  · exact stuck empty₁ leads
  · exact (stuck empty₂ leads).symm

end DeviceSlice

open DeviceSlice (Leads)

namespace Core

/-- What is in store for a device. -/
def slice (c : Core) (id : DeviceId) (x : Device) : DeviceSlice where
  device := x.apart
  naming := c.naming
  registry := c.registry
  submitted := c.submitted
  agenda := c.agenda.filterMap (Duty.toward id)

/-- When nobody is being notified nothing is in store. -/
theorem toward_of_quiet {ds : List Duty} (quiet : ds.all Duty.isPursuit) :
    ds.filterMap (Duty.toward id) = [] := by
  refine List.filterMap_eq_nil_iff.2 fun duty mem => ?_
  obtain ⟨run, rfl⟩ := Duty.eq_of_isPursuit (List.all_eq_true.1 quiet duty mem)
  rfl

theorem toward_of_watch {ws ds : List Duty} (watch : ws.all Duty.isWatch) :
    (ws ++ ds).filterMap (Duty.toward id) = ds.filterMap (Duty.toward id) := by
  have nothing : ws.filterMap (Duty.toward id) = [] := by
    refine List.filterMap_eq_nil_iff.2 fun duty mem => ?_
    obtain ⟨_, _, _, rfl⟩ | ⟨_, _, rfl⟩ | ⟨_, _, rfl⟩ := Duty.eq_of_isWatch (List.all_eq_true.1 watch duty mem) <;> rfl
  rw [List.filterMap_append, nothing, List.nil_append]

/-! ## Changes -/

/-- Nothing has happened that is of concern to the device. -/
theorem slice_eq (device : e.apart = x.apart) (naming : c'.naming = c.naming) (registry : c'.registry = c.registry)
    (submitted : c'.submitted = c.submitted)
    (agenda : c'.agenda.filterMap (Duty.toward id) = c.agenda.filterMap (Duty.toward id)) :
    c'.slice id e = c.slice id x := by
  rw [slice, slice, device, naming, registry, submitted, agenda]

/-- **What happens to a device in a change is what was in store for it**, if anything does: nobody else
asks the registry for anything, and its discovery does not go on. -/
theorem Change.slice (change : Change shut scope c s c')
    (own : ∀ p, s = some p → p.1 = id) (aside : ¬ scope.discovery id) (known : id < c.nextId)
    (listening : c.Listening) (once : c.Once) (found : c.devices id = some x)
    (there : c'.devices id = some e) :
    c'.slice id e = c.slice id x ∨ (c.slice id x).next id = some (c'.slice id e) := by
  have same (kept : c.devices id = some e) : e.apart = x.apart := by
    obtain rfl := Option.some.inj (found.symm.trans kept)
    rfl
  have set {j : DeviceId} {y z : Device} (found' : c.devices j = some y)
      (there : update c.devices j (some z) id = some e) (alike : z.apart = y.apart) :
      e.apart = x.apart := by
    rcases eq_of_update_some there with ⟨rfl, rfl⟩ | ⟨-, kept⟩
    · obtain rfl := Option.some.inj (found.symm.trans found')
      exact alike
    · exact same kept
  have alive {j : DeviceId} (gone : c.devices j = none) : j ≠ id := by
    rintro rfl
    exact absurd (gone.symm.trans found) (by simp)
  cases change with
  | create path g t =>
    rcases eq_of_update_some there with ⟨rfl, -⟩ | ⟨-, there⟩
    · exact absurd known (Nat.lt_irrefl _)
    · exact .inl (slice_eq (same there) rfl rfl rfl rfl)
  | destroy j =>
    rcases eq_of_update there with ⟨-, gone⟩ | ⟨-, there⟩
    · exact absurd gone (by simp)
    · exact .inl (slice_eq (same there) rfl rfl rfl rfl)
  | enlist | cancel | receivers | reported | endRuns | comeUp =>
    exact .inl (slice_eq (same there) rfl rfl rfl rfl)
  | startRun j y found' => exact .inl (slice_eq (set found' there rfl) rfl rfl rfl rfl)
  | session j y _ found' => exact .inl (slice_eq (set found' there rfl) rfl rfl rfl rfl)
  | findPower run j y on quiet found' rising allowed =>
    rcases eq_of_update_some there with ⟨rfl, -⟩ | ⟨-, there⟩
    · exact absurd allowed aside
    · exact .inl (slice_eq (same there) rfl rfl rfl rfl)
  | defer ds quiet pursuits =>
    refine .inl (slice_eq (same there) rfl rfl rfl ?_)
    rw [toward_of_quiet quiet]
    exact toward_of_quiet pursuits
  | summon j y quiet found' allowed =>
    have other : j ≠ id := by
      rintro rfl
      exact aside allowed
    exact .inl (slice_eq (same there) rfl rfl rfl (by simp [Duty.toward, other]))
  | edit j y z es ds next quiet found' edit up allowed =>
    rcases eq_of_update_some there with ⟨rfl, -⟩ | ⟨-, there⟩
    · exact absurd allowed aside
    · exact .inl (slice_eq (same there) rfl rfl rfl rfl)
  | requestUnheard _ _ _ lawful | request _ _ _ _ _ lawful => exact lawful.elim
  | heardByAll n ds next =>
    exact .inl (slice_eq (same there) rfl rfl rfl (by simp [next, Duty.toward]))
  | watched n w ls ds ws next watch =>
    refine .inl (slice_eq (same there) rfl rfl rfl ?_)
    rw [next, toward_of_watch watch]
    simp [Duty.toward, List.filterMap_cons]
  | turn duty ds ws next isWatch watch =>
    refine .inl (slice_eq (same there) rfl rfl rfl ?_)
    rw [next, toward_of_watch watch, ← List.singleton_append, toward_of_watch (by simpa using isWatch)]
  | unmoved n j ls ds next deaf =>
    by_cases mine : j = id
    · subst mine
      refine .inr ?_
      have last : .device j ∉ ls := (List.nodup_cons.1 (once.heard n _ (by simp [next]))).1
      have deaf' : x.apart.hear c.registry.profiles n = none := by
        rw [Device.apart_hear, deaf x found]
        rfl
      simp [slice, DeviceSlice.next, next, Duty.toward, deaf', last, same there]
    · refine .inl (slice_eq (same there) rfl rfl rfl ?_)
      simp [next, Duty.toward, Ne.symm mine, List.filterMap_cons]
  | moved n j ls ds y z next found' hears =>
    rcases eq_of_update_some there with ⟨rfl, rfl⟩ | ⟨other, there⟩
    · obtain rfl := Option.some.inj (found.symm.trans found')
      refine .inr ?_
      have last : .device id ∉ ls := (List.nodup_cons.1 (once.heard n _ (by simp [next]))).1
      have hears' : x.apart.hear c.registry.profiles n = some e.apart := by
        rw [Device.apart_hear, hears]
        rfl
      simp [slice, DeviceSlice.next, next, Duty.toward, hears', last]
    · refine .inl (slice_eq (same there) rfl rfl rfl ?_)
      simp [next, Duty.toward, other, Ne.symm other, List.filterMap_cons]
  | late duty j ds next about gone =>
    have other := alive gone
    refine .inl (slice_eq (same there) rfl rfl rfl ?_)
    rcases about with rfl | ⟨u, rfl⟩ | rfl <;> simp [next, Duty.toward, other]
  | decide j y ds usable next found' decided =>
    rcases eq_of_update_some there with ⟨rfl, rfl⟩ | ⟨other, there⟩
    · obtain rfl := Option.some.inj (found.symm.trans found')
      refine .inr ?_
      have decided' : x.apart.gate.decision = .decided usable := decided
      simp only [slice, DeviceSlice.next, next, Duty.toward, decided', List.filterMap_cons, if_true]
      rfl
    · exact .inl (slice_eq (same there) rfl rfl rfl (by simp [next, Duty.toward, Ne.symm other]))
  | concede j y ds next found' lacks due =>
    by_cases mine : j = id
    · subst mine
      obtain rfl := Option.some.inj (found.symm.trans found')
      refine .inr ?_
      have lacks' : x.apart.gate.decision = .provision := lacks
      have due' : x.apart.dueProfileName? c.registry.loaded = none := due
      simp [slice, DeviceSlice.next, next, Duty.toward, lacks', due', same there]
    · exact .inl (slice_eq (same there) rfl rfl rfl (by simp [next, Duty.toward, mine]))
  | turnedDown j y ds name why next found' lacks due refused =>
    obtain rfl : j = id := own _ rfl
    obtain rfl := Option.some.inj (found.symm.trans found')
    rcases eq_of_update_some there with ⟨-, rfl⟩ | ⟨other, -⟩
    · refine .inr ?_
      have lacks' : x.apart.gate.decision = .provision := lacks
      have due' : x.apart.dueProfileName? c.registry.loaded = some name := due
      simp only [slice, DeviceSlice.next, DeviceSlice.provision, next, Duty.toward, lacks', due', refused,
        List.filterMap_cons, if_true]
      rfl
    · exact absurd rfl other
  | handedIn j y ds name lives next found' lacks due accepted living =>
    obtain rfl : j = id := own _ rfl
    obtain rfl := Option.some.inj (found.symm.trans found')
    rcases eq_of_update_some there with ⟨-, rfl⟩ | ⟨other, -⟩
    · refine .inr ?_
      have lacks' : x.apart.gate.decision = .provision := lacks
      have due' : x.apart.dueProfileName? c.registry.loaded = some name := due
      have listens := mem_living living found (listening.listens j x found)
      simp only [slice, DeviceSlice.next, DeviceSlice.provision, next, Duty.toward, lacks', due', accepted,
        listens, List.filterMap_cons, if_true]
      rfl
    · exact absurd rfl other
  | adopt j y u ds next found' =>
    rcases eq_of_update_some there with ⟨rfl, rfl⟩ | ⟨other, there⟩
    · obtain rfl := Option.some.inj (found.symm.trans found')
      refine .inr ?_
      simp only [slice, DeviceSlice.next, next, Duty.toward, ← Device.apart_track, List.filterMap_cons,
        if_true]
      rfl
    · exact .inl (slice_eq (same there) rfl rfl rfl (by simp [next, Duty.toward, Ne.symm other]))
  | conclude j y ds next found' =>
    rcases eq_of_update_some there with ⟨rfl, rfl⟩ | ⟨other, there⟩
    · obtain rfl := Option.some.inj (found.symm.trans found')
      refine .inr ?_
      simp only [slice, DeviceSlice.next, next, Duty.toward, List.filterMap_cons, if_true]
      rfl
    · exact .inl (slice_eq (same there) rfl rfl rfl (by simp [next, Duty.toward, Ne.symm other]))

/-- Any number of changes in which nobody submits a profile lead on. -/
theorem Changes.leads (changes : Changes shut scope c c')
    (aside : ¬ scope.discovery id) (upkeep : c.Upkeep) (listening : c.Listening) (once : c.Once)
    (found : c.devices id = some x) :
    (c'.Upkeep ∧ c'.Listening ∧ c'.Once ∧ id < c'.nextId) ∧
      ∀ e, c'.devices id = some e → Leads id (c.slice id x) (c'.slice id e) := by
  induction changes with
  | refl =>
    refine ⟨⟨upkeep, listening, once, upkeep.known id x found⟩, fun e there => ?_⟩
    obtain rfl := Option.some.inj (found.symm.trans there)
    exact .refl
  | @tail c₁ c₂ _ change ih =>
    obtain ⟨⟨upkeep₁, listening₁, once₁, known₁⟩, leads⟩ := ih
    have step := change.step
    refine ⟨⟨step.upkeep upkeep₁, step.listening upkeep₁ listening₁, step.once once₁,
      Nat.lt_of_lt_of_le known₁ step.nextId_le⟩, fun e there => ?_⟩
    obtain ⟨y, before⟩ := step.alive known₁ there
    have led := leads y before
    rcases change.slice (by simp) aside known₁ listening₁ once₁ before there with same | next
    · rwa [same]
    · exact led.tail next

end Core

/-! ## Runs -/

namespace Bench

variable {b c b' : Bench} {m : Move} {us : List Update}

/-- **A move with which no discovery goes on** leads to what was in store for the device. -/
theorem leads_make (reached : Reachable free b) (made : b.make m = some b')
    (unasked : b.request? m = none) (own : ∀ j p, Submits j p b b' → j = id)
    (pursued : b.pursued? m = none) (found : b.host.device? id = some x)
    (there : b'.host.device? id = some e) :
    Leads id (b.host.core.slice id x) (b'.host.core.slice id e) := by
  have aside : ¬ (b.scopeOf m).discovery id := by
    rintro ⟨run, y, going, -⟩
    exact absurd (pursued.symm.trans going) (by simp)
  have listening := reached.listening
  have known := reached.upkeep.known id x found
  rcases reached.changes_unasked unasked made with changes | ⟨rfl, s, change⟩
  · exact (changes.leads aside reached.upkeep listening reached.once found).2 e there
  · have own' := own_of_change own made change
    rcases change.slice own' aside known listening reached.once found there with same | next
    · rw [same]
    · exact .single next

/-- **A run in which somebody is being notified at first** goes on to what is in store for the
device, before it takes any update in. -/
theorem Undergoes.settles (reached : Reachable free b) (found : b.host.device? id = some d)
    (undergoes : Undergoes id b us c) (quiet : c.host.core.isQuiet)
    (there : c.host.device? id = some e) :
    ∃ b₀ x, b₀.host.core.isQuiet ∧ b₀.host.device? id = some x ∧ Undergoes id b [] b₀ ∧
      Leads id (b.host.core.slice id d) (b₀.host.core.slice id x) ∧ Undergoes id b₀ us c := by
  suffices going : (us = [] ∧ Leads id (b.host.core.slice id d) (c.host.core.slice id e)) ∨
      ∃ b₀ x, b₀.host.core.isQuiet ∧ b₀.host.device? id = some x ∧ Undergoes id b [] b₀ ∧
        Leads id (b.host.core.slice id d) (b₀.host.core.slice id x) ∧ Undergoes id b₀ us c by
    rcases going with ⟨rfl, leads⟩ | settled
    · exact ⟨c, e, quiet, there, undergoes, leads, .refl⟩
    · exact settled
  clear quiet
  induction undergoes generalizing e with
  | refl =>
    obtain rfl := Option.some.inj (found.symm.trans there)
    exact .inl ⟨rfl, .refl⟩
  | @move us c c' m undergoes made unasked own ih =>
    obtain ⟨y, before⟩ := undergoes.alive reached found made there
    rcases ih before with ⟨rfl, leads⟩ | ⟨b₀, x, quiet, there₀, first, leads, after⟩
    · by_cases quiet : c.host.core.isQuiet
      · refine .inr ⟨c, y, quiet, before, undergoes, leads, ?_⟩
        exact .move m .refl made unasked own
      · have reached' := reached.trans undergoes.reaches
        have pursued : c.pursued? m = none :=
          Option.eq_none_iff_forall_ne_some.2 fun run going =>
            quiet (quiet_of_pursued reached' made going)
        refine .inl ⟨by simp [taken?, pursued], ?_⟩
        exact leads.trans (leads_make reached' made unasked own pursued before there)
    · exact .inr ⟨b₀, x, quiet, there₀, first, leads, after.move m made unasked own⟩

end Bench

end Piconet
