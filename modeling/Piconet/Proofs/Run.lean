import Piconet.Bench.Report
import Piconet.Proofs.Registry

/-!
# Runs of a bench

`Bench.take` lets everything run until it waits, in one order. The results about whole runs are
for every order: a `Bench.Move` is the least that can happen at once, and `Bench.Reaches` allows
any sequence of moves. Between two duties of the agenda nothing comes in from outside unless a
watcher has the turn; a watcher that has it may do anything that a user of the bench may do, so
runs include watchers that no rules could describe. Discovery may be put off at any of its stages,
and which run or which branch of the monitor goes on next is open.

What the requests to the registry look like is a parameter, the `law` of a run.
-/

namespace Piconet

/-- The least that can happen at once. -/
inductive Bench.Move where
  /-- the first duty of the agenda is done -/
  | act
  /-- a user of the bench, or a watcher that has the turn, does something -/
  | step (s : Piconet.Step)
  /-- a run of discovery goes on -/
  | poll (run : RunId)
  /-- the monitor goes on with a branch -/
  | follow (branch : Monitor.Branch)
  /-- what happened is reported -/
  | report

namespace Bench

/-- The bench that everything starts from: no devices, no profiles, no listeners. -/
def opening (g : Generation) (t : Transport) (isLoaded : Bool) (manager : Option Timeouts)
    (naming : Naming := .byAddress) : Bench where
  host := {
    generation := g
    transport := t
    naming
    registry := { loaded := isLoaded }
    manager := manager.map fun timeouts => { timeouts } }

/-- A branch with which the monitor can go on. -/
def branch? (b : Bench) (branch : Monitor.Branch) : Option Monitor :=
  b.host.monitor.filter fun m => m.stage matches .following && m.ready branch

/-- Makes a move, if it can be made now. -/
def make (b : Bench) : Move → Option Bench
  | .act =>
    match b.host.agenda with
    | duty :: duties => some (b.onHost fun h => (h.withAgenda duties).act duty)
    | [] => none
  | .step s => if b.host.core.isOpen then some (b.doStep s).1 else none
  | .poll run => if b.host.core.isQuiet then some (b.onHost (·.pursue run)) else none
  | .follow branch =>
    if b.host.core.isQuiet then
      (b.branch? branch).map fun m => b.onHost (·.follow m branch)
    else none
  | .report => if b.host.core.isQuiet then some b.clear else none

/-- The request that a move puts to the registry, with the host that it is put to. -/
def request? (b : Bench) : Move → Option (Host × Registry.Request)
  | .act =>
    match b.host.agenda with
    | .perform w (.request q :: cs) :: duties =>
      let h := b.host.withAgenda duties
      some (h.urge [.record w (h.answerTo (.request q)), .perform w cs], q)
    | _ => none
  | .step (.command (.request q)) => some (b.host, q)
  | .step _ | .poll _ | .follow _ | .report => none

/-- A condition on the requests that are put to a registry. -/
abbrev Law := Core → Registry.Request → Prop

/-- All benches that a bench may come to, by any number of moves in which requests to the registry obey a law.
-/
inductive Reaches (law : Law) (b : Bench) : Bench → Prop
  | refl : Reaches law b b
  | move {c d : Bench} (m : Move) (reached : Reaches law b c)
      (lawful : ∀ h q, c.request? m = some (h, q) → law h.core q) (made : c.make m = some d) :
      Reaches law b d

/-- All benches that some opening bench may come to while requests obey a law. -/
def Reachable (law : Law) (b : Bench) : Prop :=
  ∃ g t isLoaded manager naming, Reaches law (opening g t isLoaded manager naming) b

/-- Any request may be put to the registry at any time. -/
def free : Law := fun _ _ => True

/-- No request is ever put to the registry. -/
def shut : Law := fun _ _ => False

/-- Nobody puts a request to the registry while anybody is being notified, and UUIDs are
unique: a profile that a request brings in has none that a device will come up with, for these are
drawn at random. -/
def orderly : Law := fun c q => c.isQuiet ∧ ∀ p, q.brings? = some p → c.Old p.uuid

namespace Reaches

variable {law : Law} {b c d : Bench}

theorem trans (first : Reaches law b c) (second : Reaches law c d) : Reaches law b d := by
  induction second with
  | refl => exact first
  | move m _ lawful made ih => exact ih.move m lawful made

/-- A run that obeys a law obeys every weaker one. -/
theorem weaken {law' : Law} (weaker : ∀ c q, law c q → law' c q) (run : Reaches law b c) :
    Reaches law' b c := by
  induction run with
  | refl => exact .refl
  | move m _ lawful made ih =>
    exact ih.move m (fun h q asked => weaker _ _ (lawful h q asked)) made

end Reaches

theorem Reachable.trans {law : Law} {b c : Bench} (reached : Reachable law b)
    (run : Reaches law b c) : Reachable law c := by
  obtain ⟨g, t, isLoaded, manager, naming, start⟩ := reached
  exact ⟨g, t, isLoaded, manager, naming, start.trans run⟩

/-! ## Runs that are given move by move -/

/-- Makes moves one after the other, up to one that cannot be made. -/
def makeAll : Bench → List Move → Bench
  | b, [] => b
  | b, m :: ms => match b.make m with
    | some c => c.makeAll ms
    | none => b

/-- The requests that the moves put to the registry, with the hosts that they are put to. -/
def asked : Bench → List Move → List (Host × Registry.Request)
  | _, [] => []
  | b, m :: ms => (b.request? m).toList ++ match b.make m with
    | some c => c.asked ms
    | none => []

theorem reaches_makeAll {law : Law} (b : Bench) (ms : List Move)
    (lawful : ∀ x ∈ b.asked ms, law x.1.core x.2) : Reaches law b (b.makeAll ms) := by
  induction ms generalizing b with
  | nil => exact .refl
  | cons m ms ih =>
    rw [asked] at lawful
    rw [makeAll]
    split
    · next c made =>
      rw [made] at lawful
      have first : Reaches law b c := Reaches.refl.move m
        (fun h q asks => lawful (h, q) (List.mem_append_left _ (by simp [asks]))) made
      exact first.trans (ih c fun x hx => lawful x (List.mem_append_right _ hx))
    · exact .refl

/-- A stub with one device behind it, which offers one service. -/
def offering (service : String) : Stub where
  devices := ⟨[("/d", some
    { address := some "1:2:3:4:5:6", name := some "n", uuids := some [service] })]⟩

/-- A bench whose only device, an access point, is being brought up, after as many duties as given. -/
def bringingUp (duties : Nat) : Bench :=
  (opening .bluez4 (.stub (offering "1116-0")) true none).makeAll
    ([.step (.newDevice "D" "/d" none {}), .step (.run "D"), .poll 1] ++ List.replicate duties .act)

theorem reachable_bringingUp (duties : Nat) : Reachable free (bringingUp duties) :=
  ⟨_, _, _, _, _, reaches_makeAll _ _ fun _ _ => trivial⟩

/-- A profile to dial up with, through a device with the given address. -/
def dialUp (address : HwAddress) : Profile where
  uuid := "u"
  id := "n"
  connectionType := Profile.bluetoothType
  autoconnect := false
  bluetooth := some { bdaddr := address.toList, deviceType := Role.dun.settingType }
  ipv4 := {}
  ipv6 := {}

/-- A profile for the device of the stub. -/
def fitting : Profile := dialUp ⟨1, 2, 3, 4, 5, 6⟩

/-- A bench that has brought up its only device, for which it had a profile. -/
def matched : Bench :=
  (opening .bluez4 (.stub (offering "1103-0")) true none).makeAll
    (([.step (.command (.request (.insert fitting))), .act, .step (.newDevice "D" "/d" none {}),
      .step (.run "D"), .poll 1] : List Move) ++ List.replicate 8 Move.act)

theorem orderly_insert_fitting :
    orderly (opening .bluez4 (.stub (offering "1103-0")) true none).host.core (.insert fitting) := by
  refine ⟨rfl, ?_⟩
  rintro p ⟨⟩
  exact Core.old_of_head? rfl (by decide)

theorem reachable_matched {law : Law}
    (lawful : law (opening .bluez4 (.stub (offering "1103-0")) true none).host.core
      (.insert fitting)) : Reachable law matched := by
  refine ⟨_, _, _, _, _, reaches_makeAll _ _ ?_⟩
  intro x asked
  obtain rfl := List.mem_singleton.1 asked
  exact lawful

/-! ## Runs that are played -/

/-- Goes on as `Host.step` does, or does nothing when everything waits. -/
theorem reaches_step {b : Bench} {h : Host} (hh : b.host.step = some h) :
    Reaches free b { b with host := h } := by
  rw [Host.step] at hh
  split at hh
  · next duty duties ha =>
    apply Reaches.refl.move .act (fun _ _ _ => trivial)
    rw [make, ha]
    exact congrArg some (congrArg (fun h => { b with host := h }) (Option.some.inj hh))
  · next ha =>
    have quiet : b.host.core.isQuiet := by simp [Core.isQuiet, Host.core, ha]
    rw [Host.resume] at hh
    split at hh
    · next m branch found =>
      obtain ⟨m', hm, hb⟩ := Option.bind_eq_some_iff.1 found
      obtain ⟨branch', hb', e⟩ := Option.map_eq_some_iff.1 hb
      obtain ⟨rfl, rfl⟩ := Prod.mk.inj e
      apply Reaches.refl.move (.follow branch') (fun _ _ _ => trivial)
      rw [Monitor.branch?] at hb'
      split at hb'
      · next following =>
        have ready : m'.ready branch' = true := List.find?_some hb'
        rw [make, if_pos quiet, branch?, hm, Option.filter_some, following, ready, ← Option.some.inj hh]
        rfl
      · exact absurd hb' (by simp)
      · exact absurd hb' (by simp)
    · obtain ⟨run, -, rfl⟩ := Option.map_eq_some_iff.1 hh
      exact Reaches.refl.move (.poll run) (fun _ _ _ => trivial) (by rw [make, if_pos quiet]; rfl)

/-- Letting everything run until it waits is a run. -/
theorem reaches_settle (b : Bench) : Reaches free b { b with host := b.host.settle } := by
  refine Host.settle_induction (P := fun h => Reaches free b { b with host := h }) ?_ .refl
  intro h h' reached hh
  exact reached.trans (reaches_step (b := { b with host := h }) hh)

/-- **A step that is played is a run**: it ends where nothing is left to do. -/
theorem reaches_advance {b : Bench} (quiet : b.host.core.isOpen) (s : Piconet.Step) :
    Reaches free b (b.advance s).1 := by
  have taken : Reaches free b (b.take s).1 :=
    (Reaches.refl.move (.step s) (fun _ _ _ => trivial) (by rw [make, if_pos quiet])).trans
      (reaches_settle (b.doStep s).1)
  apply taken.move .report (fun _ _ _ => trivial)
  rw [make, if_pos]
  · rfl
  · have rest : (b.take s).1.host.agenda = [] := Host.agenda_settle _
    simp [Core.isQuiet, Host.core, rest]

end Bench

end Piconet
