import Mathlib.Data.List.Induction
import Piconet.Proofs.Provisioning
import Piconet.Proofs.DiscoveryVerdicts
import Piconet.Proofs.DroppedDevices

/-!
# The updates that a device takes in

Once a device is up, its run takes in updates from two feeds, one of properties and one of the
adapter's power. What discovery knows of the device afterwards is what the updates make of what it
knew before (`Bench.Undergoes.bare`), and since the two kinds of updates are about different things,
how the two feeds come together makes no difference to it (`Device.foldl_amend`).
-/

namespace Piconet

/-! ## What updates make of a device -/

/-- The batch of an update of properties. -/
def Update.batch? : Update → Option PropertyBatch
  | .properties b => some b
  | .power _ => none

/-- The power that an update is about. -/
def Update.power? : Update → Option Bool
  | .power on => some on
  | .properties _ => none

namespace Device

variable {d e : Device}

/-- A device after an update, apart from its candidates. -/
def amend (d : Device) : Update → Device
  | .properties b => d.merge b
  | .power on => { d with adapter := .resolved on }

/-- The state of the adapter after a number of updates of its power. -/
def adapterAfter (d : Device) (powers : List Bool) : AdapterState :=
  powers.getLast?.elim d.adapter .resolved

/-- Where the adapter stands is of no concern to properties. -/
theorem merge_adapter (d : Device) (a : AdapterState) (b : PropertyBatch) :
    ({ d with adapter := a } : Device).merge b = { d.merge b with adapter := a } := by
  rw [merge, merge]
  cases b.uuids <;> rfl

/-- **The two kinds of updates do not get in each other's way**: all properties are merged, and the
last word on the power stands. -/
theorem foldl_amend (d : Device) (us : List Update) :
    us.foldl amend d = { (us.filterMap Update.batch?).foldl merge d with
      adapter := d.adapterAfter (us.filterMap Update.power?) } := by
  induction us using List.reverseRecOn with
  | nil => rfl
  | append_singleton us u ih =>
    rw [List.foldl_append, ih, List.filterMap_append, List.filterMap_append, List.foldl_append]
    cases u with
    | properties b =>
      have powers : List.filterMap Update.power? [.properties b] = [] := rfl
      rw [powers, List.append_nil]
      exact merge_adapter _ _ b
    | power on =>
      have after : d.adapterAfter (us.filterMap Update.power? ++ [on]) = .resolved on := by
        rw [adapterAfter, List.getLast?_concat, Option.elim_some]
      exact congrArg (fun a => { (us.filterMap Update.batch?).foldl merge d with adapter := a })
        after.symm

/-- What an update makes of a device has to do with neither its profiles nor its session. -/
theorem bare_amend (d : Device) (u : Update) : (d.amend u).bare = (d.bare.amend u).bare := by
  cases u with
  | power on => rfl
  | properties b =>
    rw [amend, amend, merge, merge]
    cases b.uuids <;> rfl

theorem bare_takeIn (d : Device) (stored : List Profile) (u : Update) :
    (d.takeIn stored u).bare = (d.amend u).bare := by
  cases u with
  | power on => rfl
  | properties b =>
    rw [takeIn]
    split
    · exact bare_survey (d.merge b) stored
    · rfl

end Device

/-! ## The update of a turn -/

namespace Host

variable {h : Host} {run : RunId} {r : Run} {d : Device}

/-- A run that follows its device takes the next update in, if there is one. -/
theorem device?_followOn (found : h.device? r.device = some d) :
    (h.followOn run r d).device? r.device =
      some ((r.next?.map (·.1)).elim d (d.takeIn h.registry.profiles)) := by
  rw [followOn]
  cases next : r.next? with
  | none =>
    simp only [Option.map_none, Option.elim_none]
    split <;> exact found
  | some taken =>
    obtain ⟨u, r'⟩ := taken
    have device : r'.device = r.device := congrArg Standing.device (Run.takes_of_next? next).standing
    simp only [Option.map_some, Option.elim_some]
    rw [device]
    cases u with
    | power on => exact device?_setDevice_self (h := (h.setRun run r').urge [.pursue run]) found _
    | properties b =>
      simp only [takeIn, applyBatch, emitAll_eq]
      exact device?_setDevice_self (h := { (h.setRun run r').urge [.pursue run] with receivers := _ })
        found _

end Host

/-! ## Moves -/

namespace Bench

variable {b c : Bench} {m : Move} {id : DeviceId} {d e : Device}

/-- The update of a device that its run takes in a move. -/
def taken? (b : Bench) (id : DeviceId) (m : Move) : Option Update :=
  (b.pursued? m).bind fun run => (b.host.run? run).bind fun r =>
    if r.device = id ∧ r.phase = .follow then r.next?.map (·.1) else none

/-- A device that is initialized is followed by the run that it has, if it has one. -/
theorem follow_of_initialized {run : RunId} {r : Run} (upkeep : b.host.core.Upkeep)
    (running : b.host.run? run = some r) (found : b.host.device? r.device = some d)
    (initialized : d.initialized = true) : r.phase = .follow := by
  by_contra rising
  have mem : (run, r.standing) ∈ b.host.core.standing.entries :=
    List.mem_map.2 ⟨(run, r), Table.mem_entries_of_get? running, rfl⟩
  have idle := upkeep.rising _ mem (decide_eq_false rising) d found
  exact absurd idle (by simp [initialized])

/-- A device that is up when its run is taken up takes the next update in. -/
theorem takeIn_of_pursued {run : RunId} {r : Run} (reached : Reachable free b)
    (made : b.make m = some c) (pursued : b.pursued? m = some run)
    (running : b.host.run? run = some r) (found : b.host.device? r.device = some d)
    (initialized : d.initialized = true) : ∃ ds, ds ⊆ b.host.agenda ∧
      c.host = (b.host.withAgenda ds).followOn run r d ∧
      c.host.device? r.device =
        some ((b.taken? r.device m).elim d (d.takeIn b.host.registry.profiles)) := by
  have phase := follow_of_initialized reached.upkeep running found initialized
  obtain ⟨ds, fewer, did⟩ := pursue_of_make made pursued
  have running' : (b.host.withAgenda ds).run? run = some r := running
  have found' : (b.host.withAgenda ds).device? r.device = some d := found
  have follows : (b.host.withAgenda ds).pursue run = (b.host.withAgenda ds).followOn run r d := by
    simp only [Host.pursue, running', found', phase]
  rw [follows] at did
  have taken : b.taken? r.device m = r.next?.map (·.1) := by
    simp [taken?, pursued, running, phase]
  refine ⟨ds, fewer, did, ?_⟩
  rw [did, taken]
  exact Host.device?_followOn found'

/-- Only when nobody is being notified a run is taken up. -/
theorem quiet_of_pursued {run : RunId} (reached : Reachable free b)
    (made : b.make m = some c) (pursued : b.pursued? m = some run) : b.host.core.isQuiet := by
  cases m with
  | act =>
    rw [pursued?] at pursued
    split at pursued
    · next run' ds next =>
      have last := reached.pursuitsLast
      rw [Core.PursuitsLast, show b.host.core.agenda = _ from next] at last
      have pursuits := (List.pairwise_cons.1 last).1
      rw [Core.isQuiet, show b.host.core.agenda = _ from next]
      exact List.all_eq_true.2 (List.forall_mem_cons.2 ⟨rfl, fun duty mem => pursuits duty mem rfl⟩)
    · exact absurd pursued (by simp)
  | poll run' => exact (Option.ite_none_right_eq_some.1 made).1
  | step | follow | report => exact absurd pursued (by simp [pursued?])

/-- **What discovery knows of a device that is up** is in every move amended by the update that is
taken in it, if one is. -/
theorem bare_of_make (reached : Reachable free b) (made : b.make m = some c)
    (found : b.host.device? id = some d) (initialized : d.initialized = true)
    (there : c.host.device? id = some e) :
    e.bare = ((b.taken? id m).elim d d.amend).bare := by
  have upkeep := reached.upkeep
  have untaken (same : e.bare = d.bare) (none : b.taken? id m = none) :
      e.bare = ((b.taken? id m).elim d d.amend).bare := by
    rw [none]
    exact same
  cases pursued : b.pursued? m with
  | none =>
    refine untaken ?_ (by simp [taken?, pursued])
    rcases (rests_make reached made pursued).device id e there with ⟨d', found', same⟩ | ⟨new, -⟩
    · obtain rfl := Option.some.inj (found.symm.trans found')
      have begun : d.started = true := by
        by_contra unstarted
        have idle := upkeep.idle id d found (Bool.eq_false_iff.2 unstarted)
        exact absurd idle (by simp [initialized])
      rw [same.bare, same.started begun, ← begun]
      rfl
    · exact absurd (upkeep.known id d found) (Nat.not_lt.2 new)
  | some run =>
    obtain ⟨ds, fewer, did⟩ := pursue_of_make made pursued
    have same {d' : Device} (kept : c.host.device? id = some d') (bare : d'.bare = d.bare) :
        e.bare = d.bare := by
      obtain rfl := Option.some.inj (kept.symm.trans there)
      exact bare
    cases running : b.host.run? run with
    | none =>
      refine untaken (same ?_ rfl) (by simp [taken?, pursued, running])
      have gone : (b.host.withAgenda ds).run? run = none := running
      rw [did, Host.pursue, gone]
      exact found
    | some r =>
      by_cases mine : r.device = id
      · subst mine
        obtain ⟨-, -, -, took⟩ := takeIn_of_pursued reached made pursued running found initialized
        obtain rfl := Option.some.inj (there.symm.trans took)
        cases b.taken? r.device m with
        | none => rfl
        | some u => exact d.bare_takeIn _ u
      · refine untaken (same ?_ rfl) (by simp [taken?, pursued, running, mine])
        have running' : (b.host.withAgenda ds).run? run = some r := running
        rw [did, (Host.apart_pursue running').device? id (Ne.symm mine)]
        exact found

/-- What is submitted in a move is what the core sees submitted. -/
theorem own_of_change {law : Law} {scope : Core.Scope} {s : Option (DeviceId × Profile)}
    (own : ∀ j p, Submits j p b c → j = id) (made : b.make .act = some c)
    (change : Core.Change law scope b.host.core s c.host.core) (p : DeviceId × Profile)
    (submits : s = some p) : p.1 = id := by
  obtain ⟨j, p⟩ := p
  subst submits
  obtain ⟨head, noted, -⟩ := change.step.submits
  exact own j p ⟨head, made, noted⟩

/-! ## Runs -/

/-- A run in which a device takes updates in. Nobody asks the registry for anything meanwhile, and
nobody but the device submits a profile. -/
inductive Undergoes (id : DeviceId) (b : Bench) : List Update → Bench → Prop
  | refl : Undergoes id b [] b
  | move {us : List Update} {c e : Bench} (m : Move) (undergoes : Undergoes id b us c)
      (made : c.make m = some e) (unasked : c.request? m = none)
      (own : ∀ j p, Submits j p c e → j = id) :
      Undergoes id b (us ++ (c.taken? id m).toList) e

namespace Undergoes

variable {us : List Update}

theorem reaches (undergoes : Undergoes id b us c) : Reaches free b c := by
  induction undergoes with
  | refl => exact .refl
  | move m _ made _ _ ih => exact ih.move m (fun _ _ _ => trivial) made

/-- A device that is there after a move was there before, if it was there at all. -/
theorem alive {c' : Bench} (reached : Reachable free b) (found : b.host.device? id = some d)
    (undergoes : Undergoes id b us c) (made : c.make m = some c')
    (there : c'.host.device? id = some e) : ∃ x, c.host.device? id = some x := by
  have reached' := reached.trans undergoes.reaches
  have runs : Core.Runs free b.host.core c.host.core := undergoes.reaches.runs reached.pursuitsLast
  have last : Core.Runs free c.host.core c'.host.core :=
    runs_make reached'.pursuitsLast (fun _ _ _ => trivial) made
  have known : id < c.host.nextId :=
    Nat.lt_of_lt_of_le (reached.upkeep.known id d found) runs.nextId_le
  exact last.alive known there

/-- **What discovery knows in the end is what the updates make of what it knew.** -/
theorem bare (reached : Reachable free b) (found : b.host.device? id = some d)
    (initialized : d.initialized = true) (undergoes : Undergoes id b us c)
    (there : c.host.device? id = some e) :
    e.initialized = true ∧ e.bare = (us.foldl Device.amend d).bare := by
  induction undergoes generalizing e with
  | refl =>
    obtain rfl := Option.some.inj (found.symm.trans there)
    exact ⟨initialized, rfl⟩
  | @move us c c' m undergoes made unasked own ih =>
    obtain ⟨x, before⟩ := undergoes.alive reached found made there
    obtain ⟨up, known⟩ := ih before
    have amended := bare_of_make (reached.trans undergoes.reaches) made before up there
    rw [List.foldl_append]
    cases taken : c.taken? id m with
    | none =>
      rw [taken, Option.elim_none] at amended
      have same : e.initialized = x.initialized := (congrArg Device.initialized amended :)
      exact ⟨same.trans up, amended.trans known⟩
    | some u =>
      rw [taken, Option.elim_some] at amended
      have same : e.initialized = (x.amend u).initialized := (congrArg Device.initialized amended :)
      refine ⟨same.trans ?_, ?_⟩
      · cases u <;> exact up
      · rw [amended, x.bare_amend, known, ← Device.bare_amend]
        rfl

theorem trans {vs : List Update} {e : Bench} (first : Undergoes id b us c)
    (second : Undergoes id c vs e) : Undergoes id b (us ++ vs) e := by
  induction second with
  | refl => rwa [List.append_nil]
  | move m _ made unasked own ih =>
    rw [← List.append_assoc]
    exact ih.move m made unasked own

end Undergoes

/-- The move asks the registry for nothing, and no other device is assessed in it. -/
def leavesTo (b : Bench) (id : DeviceId) (m : Move) : Bool :=
  (b.request? m).isNone && match b.host.agenda.head? with
    | some (.reassess j) => j = id
    | _ => true

/-- What a device takes in while moves are made in turn, if they leave the registry to it. -/
def takenAll (id : DeviceId) : Bench → List Move → Option (List Update)
  | _, [] => some []
  | b, m :: ms => match b.make m with
    | some c =>
      if b.leavesTo id m then (c.takenAll id ms).map ((b.taken? id m).toList ++ ·) else none
    | none => some []

theorem undergoes_makeAll {us : List Update} {ms : List Move} (taken : b.takenAll id ms = some us) :
    Undergoes id b us (b.makeAll ms) := by
  induction ms generalizing b us with
  | nil =>
    obtain rfl := Option.some.inj taken
    exact .refl
  | cons m ms ih =>
    rw [takenAll] at taken
    rw [makeAll]
    cases made : b.make m with
    | some c =>
      simp only [made] at taken ⊢
      obtain ⟨leaves, taken⟩ := Option.ite_none_right_eq_some.1 taken
      obtain ⟨vs, rest, rfl⟩ := Option.map_eq_some_iff.1 taken
      rw [leavesTo, Bool.and_eq_true, Option.isNone_iff_eq_none] at leaves
      have own (j : DeviceId) (p : Profile) (submits : Submits j p b c) : j = id := by
        have alone := leaves.2
        rw [submits.1] at alone
        simpa using alone
      exact (Undergoes.refl.move m made leaves.1 own).trans (ih rest)
    | none =>
      simp only [made] at taken ⊢
      obtain rfl := Option.some.inj taken
      exact .refl

end Bench

end Piconet
