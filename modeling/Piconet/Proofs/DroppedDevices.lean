import Piconet.Proofs.DeviceHandles
import Piconet.Proofs.Provisioning
import Piconet.Proofs.Sessions
import Piconet.Proofs.Streams

/-!
# Devices that were let go of

A device is gone for good when nobody keeps its handle any longer, and its identifier is never given
out again. What was begun for it may still be on the way then: an announcement that was to reach it,
its assessment, its run of discovery, operations on its session. All of these come to their turn
and pass (`Bench.Passes`), so the device falls silent at once (`Bench.Silent`).
-/

namespace Piconet

open Function (update)
open Bench (free)

variable {law : Core → Registry.Request → Prop} {scope : Core.Scope} {c c' : Core}
  {s : Option (DeviceId × Profile)} {id : DeviceId}

namespace Core

/-! ## Gone for good -/

/-- A device that is there after a step and is not new was there before. -/
theorem Step.alive (step : Step law c s c') (known : id < c.nextId) {e : Device}
    (there : c'.devices id = some e) : ∃ d, c.devices id = some d := by
  rcases step.origin there with ⟨d, found, -⟩ | ⟨rfl, -⟩
  · exact ⟨d, found⟩
  · exact absurd known (Nat.lt_irrefl _)

theorem Runs.nextId_le (runs : Runs law c c') : c.nextId ≤ c'.nextId :=
  runs.preserves (P := (c.nextId ≤ ·.nextId)) (fun _ _ _ le step => Nat.le_trans le step.nextId_le)
    (Nat.le_refl _)

/-- A device that is there after some steps and is not new was there before. -/
theorem Runs.alive (runs : Runs law c c') (known : id < c.nextId) {e : Device}
    (there : c'.devices id = some e) : ∃ d, c.devices id = some d := by
  induction runs generalizing e with
  | refl => exact ⟨e, there⟩
  | tail runs step ih =>
    obtain ⟨s, step⟩ := step
    obtain ⟨x, before⟩ := step.alive (Nat.lt_of_lt_of_le known (Runs.nextId_le runs)) there
    exact ih before

/-- A device was there and is not there any longer. -/
def Gone (id : DeviceId) (c : Core) : Prop := id < c.nextId ∧ c.devices id = none

/-- A device that is gone stays so, as its number is not given out again. -/
theorem Step.gone (step : Step law c s c') (gone : c.Gone id) : c'.Gone id := by
  obtain ⟨known, absent⟩ := gone
  refine ⟨Nat.lt_of_lt_of_le known step.nextId_le, ?_⟩
  apply Option.eq_none_iff_forall_ne_some.2
  intro e there
  obtain ⟨d, found⟩ := step.alive known there
  exact absurd (absent.symm.trans found) (by simp)

/-- Only devices that are there listen to the registry. -/
def Subscribed (c : Core) : Prop :=
  ∀ x ∈ c.subscriptions, ∀ id, x.listener = .device id → (c.devices id).isSome

theorem subscribed_opening (isLoaded : Bool) (naming : Naming) : (opening isLoaded naming).Subscribed :=
  fun _ mem => absurd mem (by simp [opening])

/-- A step lets go of a device only together with its subscription. -/
theorem Step.subscribed (step : Step law c s c') (subscribed : c.Subscribed) : c'.Subscribed := by
  intro x mem id same
  have stays {j : DeviceId} (e : Device) (there : (c.devices id).isSome) :
      (update c.devices j (some e) id).isSome := by
    rw [Function.update_apply]
    split
    · rfl
    · exact there
  cases step with
  | receivers | reported | endRuns | comeUp | defer | summon | requestUnheard | heardByAll | watched
  | turn | unmoved | late | concede => exact subscribed x mem id same
  | startRun | session | edit | findPower | moved | decide | turnedDown | adopt | conclude =>
    exact stays _ (subscribed x mem id same)
  | cancel | request => exact subscribed x (List.mem_filter.1 mem).1 id same
  | handedIn => exact stays _ (subscribed x (List.mem_filter.1 mem).1 id same)
  | enlist name =>
    rcases List.mem_append.1 mem with mem | new
    · exact subscribed x mem id same
    · obtain rfl := List.mem_singleton.1 new
      exact absurd same (by simp)
  | create path g t =>
    rcases List.mem_append.1 mem with mem | new
    · exact stays _ (subscribed x mem id same)
    · obtain rfl := List.mem_singleton.1 new
      obtain rfl := Listener.device.inj same
      change (update c.devices c.nextId (some (.fresh path g t)) c.nextId).isSome
      rw [Function.update_self]
      rfl
  | destroy j =>
    obtain ⟨mem, stays⟩ := List.mem_filter.1 mem
    have other : id ≠ j := by
      rintro rfl
      exact absurd same (by simpa using stays)
    have there := subscribed x mem id same
    rwa [← Function.update_of_ne other none c.devices] at there

/-- **Nobody is told anything by a device that is gone.** -/
theorem Change.untold (change : Change law scope c s c') (gone : c.devices id = none) {r : Receiver}
    (mem : r ∈ c'.receivers) (device : r.device = id) : r ∈ c.receivers ∨ r.events = [] := by
  -- those who are told anything listen to another device
  have told {j : DeviceId} {d : Device} {es : List Event} (found : c.devices j = some d)
      (mem : r ∈ tell j es c.receivers) : r ∈ c.receivers := by
    rw [tell_eq] at mem
    obtain ⟨r', mem', rfl⟩ := List.mem_map.1 mem
    split at device
    · next same =>
      have same' : j = id := same.symm.trans device
      exact absurd (gone.symm.trans (same' ▸ found)) (by simp)
    · next other =>
      rwa [if_neg other]
  cases change with
  | receivers rs kept noNews => exact noNews r mem
  | edit j d e es ds next quiet found => exact .inl (told found mem)
  | decide j d ds usable next found =>
    split at mem
    · exact .inl mem
    · exact .inl (told found mem)
  | conclude j d ds next found =>
    split at mem
    · exact .inl mem
    · exact .inl (told found mem)
  | _ => exact .inl mem

/-- A receiver of a device that is gone is told nothing more. -/
theorem Changes.untold (changes : Changes law scope c c') (gone : c.Gone id) {r : Receiver}
    (mem : r ∈ c'.receivers) (device : r.device = id) : r ∈ c.receivers ∨ r.events = [] := by
  suffices both : c'.Gone id ∧ ∀ r ∈ c'.receivers, r.device = id → r ∈ c.receivers ∨ r.events = [] from
    both.2 r mem device
  clear mem device
  induction changes with
  | refl => exact ⟨gone, fun r mem _ => .inl mem⟩
  | tail _ change ih =>
    obtain ⟨gone, untold⟩ := ih
    refine ⟨change.step.gone gone, fun r mem device => ?_⟩
    rcases change.untold gone.2 mem device with mem | none
    · exact untold r mem device
    · exact .inr none

end Core

/-- Something that is due is for a device to do. -/
def Duty.concerns (h : Host) (id : DeviceId) : Duty → Prop
  | .announce _ (l :: _) => l = .device id
  | .reassess j | .adopt j _ | .conclude j => j = id
  | .pursue run => ∃ r, h.run? run = some r ∧ r.device = id
  | .announce _ [] | .react .. | .perform .. | .record .. => False

namespace Bench

variable {b b' c : Bench} {p : Pending} {name : String}

/-! ## Whose turn it is -/

/-- It is a device that is to do something in a move: it hears of a change, it is assessed or settles
an attempt to have a profile, its run of discovery goes on, or an operation on its session does. -/
def Concerns (b : Bench) (id : DeviceId) : Move → Prop
  | .act => ∃ duty ds, b.host.agenda = duty :: ds ∧ duty.concerns b.host id
  | .step s => ∃ p, b.resumed? s = some p ∧ p.device = id
  | .poll run => ∃ r, b.host.run? run = some r ∧ r.device = id
  | .follow _ | .report => False

/-- The turn of a device passes and nothing is done: no call is made, nobody is told anything and
nothing new is due. All that may happen is that its run of discovery ends. -/
def Passes (id : DeviceId) (b c : Bench) : Prop :=
  ∃ ds rs, c.host = { b.host with agenda := ds, runs := rs } ∧
    rs.entries.Sublist b.host.runs.entries ∧
    ∀ duty ∈ ds, duty ∈ b.host.agenda ∨
      ∃ n ls, duty = .announce n ls ∧ .announce n (.device id :: ls) ∈ b.host.agenda

/-- A device is silent: it is gone and listens to nothing, and whatever happens next, it publishes
no event, submits no profile and makes no call. -/
structure Silent (id : DeviceId) (b : Bench) : Prop where
  gone : b.host.device? id = none
  unsubscribed : ∀ x ∈ b.host.subscriptions, x.listener ≠ .device id
  /-- a receiver of its events gets no further one, and one that is set up later gets none -/
  untold : ∀ m c, b.make m = some c → ∀ r ∈ c.host.receivers, r.device = id →
    r ∈ b.host.receivers ∨ r.events = []
  submitsNone : ∀ p c, ¬ Submits id p b c
  /-- what is still due for it makes no call and changes nothing of others -/
  passes : ∀ m c, b.make m = some c → b.Concerns id m → Passes id b c
  /-- a run of the device ends when it is looked at -/
  finished : ∀ m c run r, b.make m = some c → b.pursued? m = some run → b.host.run? run = some r →
    r.device = id → c.host.run? run = none
  /-- and does not read the power of an adapter again when a signal asks for that -/
  unheeding : ∀ path r, r.device = id → b.host.follows? path r = none

/-! ## Operations on a device that is gone -/

/-- An operation on a device that is gone makes no call, and nothing of the host changes. -/
theorem host_finish_of_gone (gone : b.host.device? p.device = none) (r : SessionReply) :
    (b.finish name p r).1.host = b.host := by
  change (b.putDevice p.device (p.operation.finish r (b.host.device? p.device)).1).host = b.host
  rw [gone]
  rfl

/-- An operation that looks for its device finds nobody and changes nothing. -/
theorem host_look_of_gone (gone : b.host.device? p.device = none) :
    (b.look name p).1.host = b.host := by
  rcases look_cases b name p with ⟨r, ends⟩ | waits
  · rw [ends, host_finish_of_gone gone]
  · rw [waits]

/-- An operation that is polled after its device is gone changes nothing at the host. -/
theorem poll_of_gone (gone : b.host.device? p.device = none) :
    (b.poll name p).1.host = b.host := by
  rw [Bench.poll]
  split
  · rw [Bench.start, gone]
    rfl
  · exact host_look_of_gone gone

/-- Neither does one whose deadline comes after that. -/
theorem expire_of_gone (held : b.operations.get? name = some p)
    (gone : b.host.device? p.device = none) : (b.expire name p).1.host = b.host := by
  have polled : (b.poll name p).1.host = b.host := poll_of_gone gone
  cases phase : p.phase with
  | created =>
    -- an operation that was not started ends at once
    have ends : ∃ o, (b.poll name p).2 = some o := by
      rw [Bench.poll, phase]
      simp only
      rw [Bench.start, gone]
      exact ⟨_, rfl⟩
    obtain ⟨o, ends⟩ := ends
    rw [Bench.expire]
    split
    · next got => rwa [got] at polled
    · next got =>
      rw [got] at ends
      exact absurd ends (by simp)
  | calling deadline channel =>
    have looks : b.poll name p = b.look name p := by
      rw [Bench.poll, phase]
    rw [Bench.expire, looks]
    rcases look_cases b name p with ⟨r, ends⟩ | waits
    · rw [ends]
      exact host_finish_of_gone gone r
    · rw [waits]
      simp only [held, phase]
      exact host_look_of_gone (b := { b with clock := max b.clock deadline }) gone

/-- **A step that goes on with an operation on a device that is gone does nothing to the host.** -/
theorem host_resume_of_gone {s : Step} (resumed : b.resumed? s = some p)
    (gone : b.host.device? p.device = none) : (b.doStep s).1.host = b.host := by
  cases s with
  | operate device operation name provision isLazy favors =>
    cases isLazy with
    | true => exact absurd resumed (by simp [resumed?])
    | false =>
      -- an operation is only started on a device that is there
      obtain ⟨j, -, resumed⟩ := Option.bind_eq_some_iff.1 resumed
      obtain ⟨d, found, rfl⟩ := Option.map_eq_some_iff.1 resumed
      exact absurd (found.symm.trans gone) (by simp)
  | poll name =>
    have held : b.operations.get? name = some p := resumed
    simp only [doStep, withSome, held, Option.elim_some, fst_progress]
    exact poll_of_gone gone
  | expire name =>
    have held : b.operations.get? name = some p := resumed
    simp only [doStep, withSome, held, Option.elim_some, fst_progress]
    exact expire_of_gone held gone
  | reply name r =>
    obtain ⟨channel, sender, held⟩ := Option.bind_eq_some_iff.1 resumed
    simp only [doStep, withSome, sender, Option.elim_some]
    change ((b.give name channel r).pollIfThere name).1.host = b.host
    have under : (b.give name channel r).operations.get? name = some p := held
    simp only [pollIfThere, under]
    exact poll_of_gone (b := b.give name channel r) gone
  | _ => exact absurd resumed (by simp [resumed?])

/-! ## Everything else that is due for it -/

/-- Its turn passes when nothing of the host changes. -/
theorem Passes.of_host (same : c.host = b.host) : Passes id b c :=
  ⟨b.host.agenda, b.host.runs, by rw [same], .refl _, fun _ mem => .inl mem⟩

/-- The run of a device that is gone ends. -/
theorem pursue_of_gone {h : Host} {run : RunId} {r : Run} (running : h.run? run = some r)
    (gone : h.device? r.device = none) : h.pursue run = h.endRun run := by
  simp only [Host.pursue, running, gone]

/-- A duty that is about a device that is gone passes. -/
theorem passes_act {duty : Duty} {ds : List Duty} (next : b.host.agenda = duty :: ds)
    (concerns : duty.concerns b.host id) (gone : b.host.device? id = none) :
    Passes id b (b.onHost fun h => (h.withAgenda ds).act duty) := by
  have rest {duty' : Duty} (mem : duty' ∈ ds) : duty' ∈ b.host.agenda := by
    rw [next]
    exact List.mem_cons_of_mem _ mem
  have gone' : (b.host.withAgenda ds).device? id = none := gone
  cases duty with
  | announce n listeners =>
    cases listeners with
    | nil => exact concerns.elim
    | cons l ls =>
      obtain rfl : l = .device id := concerns
      refine ⟨.announce n ls :: ds, b.host.runs, ?_, .refl _, ?_⟩
      · have deaf : ((b.host.withAgenda ds).urge [.announce n ls]).device? id = none := gone
        simp only [onHost, Host.act, Host.hear, deaf]
        rfl
      · intro duty mem
        rcases List.mem_cons.1 mem with rfl | mem
        · exact .inr ⟨n, ls, rfl, by rw [next]; exact List.mem_cons_self⟩
        · exact .inl (rest mem)
  | reassess j =>
    obtain rfl : j = id := concerns
    refine ⟨ds, b.host.runs, ?_, .refl _, fun _ mem => .inl (rest mem)⟩
    simp only [onHost, Host.act, Host.reassess, gone']
    rfl
  | adopt j uuid =>
    obtain rfl : j = id := concerns
    refine ⟨ds, b.host.runs, ?_, .refl _, fun _ mem => .inl (rest mem)⟩
    simp only [onHost, Host.act, Host.adopt, gone']
    rfl
  | conclude j =>
    obtain rfl : j = id := concerns
    refine ⟨ds, b.host.runs, ?_, .refl _, fun _ mem => .inl (rest mem)⟩
    simp only [onHost, Host.act, Host.conclude, gone']
    rfl
  | pursue run =>
    obtain ⟨r, running, rfl⟩ := concerns
    refine ⟨ds, b.host.runs.erase run, ?_, List.filter_sublist, fun _ mem => .inl (rest mem)⟩
    exact pursue_of_gone (h := b.host.withAgenda ds) running gone
  | react | perform | record => exact concerns.elim

/-- **Whatever is still due for a device that is gone passes**, and so does every move that goes on
with its run or with an operation on it. -/
theorem passes_make {m : Move} (gone : b.host.device? id = none) (made : b.make m = some c)
    (concerns : b.Concerns id m) : Passes id b c := by
  cases m with
  | act =>
    obtain ⟨duty, ds, next, concerns⟩ := concerns
    rw [make, next] at made
    obtain rfl := Option.some.inj made
    exact passes_act next concerns gone
  | step s =>
    obtain ⟨-, made⟩ := Option.ite_none_right_eq_some.1 made
    obtain rfl := Option.some.inj made
    obtain ⟨p, resumed, rfl⟩ := concerns
    exact .of_host (host_resume_of_gone resumed gone)
  | poll run =>
    obtain ⟨-, made⟩ := Option.ite_none_right_eq_some.1 made
    obtain rfl := Option.some.inj made
    obtain ⟨r, running, rfl⟩ := concerns
    refine ⟨b.host.agenda, b.host.runs.erase run, ?_, List.filter_sublist, fun _ mem => .inl mem⟩
    exact pursue_of_gone running gone
  | follow | report => exact concerns.elim

/-- The run of a device that is gone is finished when it is next looked at. -/
theorem finished_of_gone {m : Move} {k : RunId} {r : Run} (made : b.make m = some c)
    (pursued : b.pursued? m = some k) (running : b.host.run? k = some r)
    (gone : b.host.device? r.device = none) : c.host.run? k = none := by
  have erased (h : Host) : (h.endRun k).run? k = none := by
    rw [Host.run?, Host.endRun, Table.get?_erase, if_pos rfl]
  cases m with
  | act =>
    rw [pursued?] at pursued
    split at pursued
    · next k' ds next =>
      obtain rfl := Option.some.inj pursued
      rw [make, next] at made
      obtain rfl := Option.some.inj made
      change ((b.host.withAgenda ds).pursue k').run? k' = none
      rw [pursue_of_gone (h := b.host.withAgenda ds) running gone]
      exact erased _
    · exact absurd pursued (by simp)
  | poll k' =>
    obtain ⟨-, made⟩ := Option.ite_none_right_eq_some.1 made
    obtain rfl := Option.some.inj made
    obtain rfl := Option.some.inj pursued
    change (b.host.pursue k').run? k' = none
    rw [pursue_of_gone running gone]
    exact erased _
  | step | follow | report => exact absurd pursued (by simp [pursued?])

/-! ## Silence -/

/-- In every run it is devices that are there who are subscribed, and watchers. -/
theorem Reachable.subscribed {law : Law} (reached : Reachable law b) : b.host.core.Subscribed :=
  reached.core_induction Core.subscribed_opening fun _ _ _ subscribed step => step.subscribed subscribed

/-- A device that is gone is silent. -/
theorem silent_of_gone (reached : Reachable free b) (gone : b.host.core.Gone id) : Silent id b where
  gone := gone.2
  unsubscribed x mem same := by
    have there : (b.host.device? id).isSome := reached.subscribed x mem id same
    have absent : b.host.device? id = none := gone.2
    exact absurd there (by simp [absent])
  untold m c made r mem device := by
    rcases reached.changes_make made with changes | ⟨-, s, change⟩
    · exact changes.untold gone mem device
    · exact change.untold gone.2 mem device
  submitsNone p c submits := by
    obtain ⟨-, -, d, -, found, -⟩ := (submits.step reached).submits
    exact absurd (gone.2.symm.trans found) (by simp)
  passes m c made concerns := passes_make gone.2 made concerns
  finished m c run r made pursued running device :=
    finished_of_gone made pursued running (device ▸ gone.2)
  unheeding path r device := by
    have absent : b.host.device? r.device = none := device ▸ gone.2
    have absent' : b.host.devices.contains r.device = false := by
      rw [Table.contains, ← Host.device?, absent]
      rfl
    rw [Host.follows?, absent']
    rfl

/-- **Dropping a device silences it.** From the move on with which the last handle of a device goes, whatever
that move is and whatever is under way, the device has no subscription to the registry, publishes no event,
submits no profile and makes no call on any later run; a notification that was still to reach it comes to
nothing, and its run of discovery ends at its next turn. -/
theorem silent_of_dropped {m : Move} (reached : Reachable free b) (kept : b.host.Keeps id)
    (made : b.make m = some b') (dropped : ¬ b'.host.Keeps id) :
    ∀ c, Reaches free b' c → Silent id c := by
  intro c later
  have moved : Reaches free b b' := Reaches.refl.move m (fun _ _ _ => trivial) made
  have reached' : Reachable free b' := reached.trans moved
  have there : (b.host.device? id).isSome := (reached.inCustody.custody.there_iff id).2 kept
  obtain ⟨d, found⟩ := Option.isSome_iff_exists.1 there
  have absent : ¬ (b'.host.device? id).isSome := fun there =>
    dropped ((reached'.inCustody.custody.there_iff id).1 there)
  have known : id < b'.host.nextId :=
    Nat.lt_of_lt_of_le (reached.upkeep.known id d found) (moved.runs reached.pursuitsLast).nextId_le
  have gone : c.host.core.Gone id :=
    (later.runs reached'.pursuitsLast).preserves (fun _ _ _ gone step => step.gone gone)
      ⟨known, Option.not_isSome_iff_eq_none.1 absent⟩
  exact silent_of_gone (reached'.trans later) gone

/-- A bench whose only device hands a profile in. A watcher, which hears of the profile before the
device does, lets go of the device in the middle of the announcement. -/
def parting (duties : Nat) : Bench :=
  let rule : Rule := { on := .added, uuid := none, steps := [.drop "D"], times := 1 }
  (opening .bluez4 (.stub (offering "1116-0")) true none).makeAll
    (([.step (.command (.subscribe "W" [rule])), .step (.newDevice "D" "/d" none {}),
      .step (.run "D"), .poll 2] : List Move) ++ List.replicate duties Move.act)

theorem reachable_parting (duties : Nat) : Reachable free (parting duties) :=
  ⟨_, _, _, _, _, reaches_makeAll _ _ fun _ _ => trivial⟩

/-- A watcher drops the handle of a device in the middle of the device's own submission, and the device is
silent at once. -/
theorem silent_parting :
    (parting 9).host.Keeps 1 ∧ (parting 9).make .act = some (parting 10) ∧
      ¬ (parting 10).host.Keeps 1 ∧ ∀ c, Reaches free (parting 10) c → Silent 1 c := by
  have kept : (parting 9).host.Keeps 1 := ⟨.holder "D", by rfl⟩
  have made : (parting 9).make .act = some (parting 10) := by rfl
  have dropped : ¬ (parting 10).host.Keeps 1 := by
    rintro ⟨name | path, held⟩
    · have none : (parting 10).host.handles = {} := by rfl
      rw [Host.kept?, none] at held
      exact absurd held (by simp [Table.get?])
    · have none : (parting 10).host.manager = none := by rfl
      rw [Host.kept?, none] at held
      exact absurd held (by simp)
  exact ⟨kept, made, dropped, silent_of_dropped (reachable_parting 9) kept made dropped⟩

end Bench

end Piconet
