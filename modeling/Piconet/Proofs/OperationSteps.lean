import Piconet.Proofs.Sessions

/-!
# Dealings with operations

Whatever a move does to the operations on sessions, it does by a few kinds of changes
(`Bench.Deals`): an operation is created or dropped, its checks end it or it makes its call, its call
is over, or something else happens to something else. What each of these keeps is kept by every move
(`Bench.Dealings.preserves`).
-/

namespace Piconet

open Bench (free)

variable {name : String} {p : Pending} {id : DeviceId} {op : Operation}

namespace Bench

/-- The least that happens to the operations on sessions and to what the core sees of it. -/
inductive Deals (b c : Bench) : Prop
  /-- nothing happens to sessions and their operations -/
  | aside (keeps : b.host.core.KeepsSessions c.host.core)
      (runs : Core.Runs free b.host.core c.host.core) (operations : c.operations = b.operations)
  /-- an operation is created, maybe in the place of another one -/
  | create (name : String) (p : Pending) (known : p.device < b.host.nextId)
      (created : p.phase = .created) (core : c.host.core = b.host.core)
      (operations : c.operations = b.operations.set name p)
  /-- an operation is dropped -/
  | drop (name : String) (core : c.host.core = b.host.core)
      (operations : c.operations = b.operations.erase name)
  /-- the checks of an operation end it -/
  | refuse (name : String) (p : Pending) (after : Option Device) (outcome : Outcome)
      (under : b.operations.get? name = some p) (created : p.phase = .created)
      (started : p.operation.start (b.host.device? p.device) = .ended after outcome)
      (core : c.host.core = (b.putDevice p.device after).host.core)
      (operations : c.operations = b.operations.erase name)
  /-- an operation passes its checks and makes its call -/
  | call (name : String) (p q : Pending) (d after : Device) (call : EndpointCall)
      (under : b.operations.get? name = some p) (created : p.phase = .created)
      (found : b.host.device? p.device = some d)
      (started : p.operation.start (some d) = .calling after call)
      (device : q.device = p.device) (operation : q.operation = p.operation)
      (calling : q.phase ≠ .created)
      (core : c.host.core = (b.putDevice p.device (some after)).host.core)
      (operations : c.operations = b.operations.set name q)
  /-- the call of an operation is over -/
  | finish (name : String) (p : Pending) (r : SessionReply)
      (under : b.operations.get? name = some p) (calling : p.phase ≠ .created)
      (core : c.host.core =
        (b.putDevice p.device (p.operation.finish r (b.host.device? p.device)).1).host.core)
      (operations : c.operations = b.operations.erase name)

/-- Any number of such changes. -/
abbrev Dealings : Bench → Bench → Prop := Relation.ReflTransGen Deals

/-- What each change keeps is kept by any number of them. -/
theorem Dealings.preserves {b c : Bench} {P : Bench → Prop}
    (each : ∀ b c, P b → Deals b c → P c) (dealings : Dealings b c) (holds : P b) : P c := by
  induction dealings with
  | refl => exact holds
  | tail _ deals ih => exact each _ _ ih deals

variable {b c b' : Bench}

/-- What the core leaves out but the operations does not matter. -/
theorem Deals.of_eq (core : c.host.core = b.host.core) (operations : c.operations = b.operations) :
    Deals b c := by
  refine .aside (.of_devices ?_ ?_) ?_ operations
  · exact Nat.le_of_eq (congrArg Core.nextId core).symm
  · exact congrArg Core.devices core
  · rw [core]

/-- What the core sees of a device that is put back. -/
theorem runs_putDevice {id : DeviceId} {after : Option Device}
    (marked : ∀ e, after = some e → ∃ d, b.host.device? id = some d ∧ d.SameButSession e) :
    Core.Runs free b.host.core (b.putDevice id after).host.core := by
  have changes : Changes free .wide b (b.putDevice id after) := steps_putDevice trivial marked
  exact changes.steps.runs

/-- What the core sees of it. -/
theorem Deals.runs (deals : Deals b c) : Core.Runs free b.host.core c.host.core := by
  cases deals with
  | aside _ runs => exact runs
  | create _ _ _ _ core | drop _ core => rw [core]
  | refuse name p after outcome under created started core =>
    rw [core]
    exact runs_putDevice fun e same => Operation.start_marks (by rw [started]; exact same)
  | call name p q d after call under created found started device operation calling core =>
    rw [core]
    refine runs_putDevice fun e same => ?_
    rw [found]
    exact Operation.start_marks (by rw [started]; exact same)
  | finish name p r under calling core =>
    rw [core]
    exact runs_putDevice fun e after => Operation.finish_marks after

/-! ## Going on -/

variable {said : List Talk}

/-- What an operation does when it goes on is such a change. -/
theorem Goes.deals (goes : Goes id b c said) : Deals b c := by
  cases goes with
  | wait core operations => exact .of_eq core operations
  | refuse name p after outcome under created started core operations =>
    exact .refuse name p after outcome under created started core operations
  | call name p q d after call under created found started device operation calling core operations =>
    exact .call name p q d after call under created found started device operation calling core operations
  | finish name p r under calling core operations =>
    exact .finish name p r under calling core operations

theorem Going.dealings (going : Going id b c said) : Dealings b c := by
  induction going with
  | refl => exact .refl
  | tail _ goes ih => exact ih.tail goes.deals

theorem Begins.deals {s : Step} (upkeep : b.host.core.Upkeep) (begins : Begins b s c) : Deals b c := by
  cases begins with
  | anew name p d _ found created core operations =>
    exact .create name p (upkeep.known _ d found) created core operations
  | held _ core operations => exact .of_eq core operations

/-! ## Moves -/

/-- A move that goes on with no operation and drops none leaves sessions and operations alone. -/
theorem keeps_aside {m : Move} (reached : Reachable free b) (off : ¬ (b.scopeOf m).sessions)
    (keeps : ∀ name, m ≠ .step (.cancel name)) (made : b.make m = some b') :
    b.host.core.KeepsSessions b'.host.core ∧ Core.Runs free b.host.core b'.host.core ∧
      b'.operations = b.operations := by
  refine ⟨?_, runs_make reached.pursuitsLast (fun _ _ _ => trivial) made, operations_make off keeps made⟩
  rcases reached.changes_make made with changes | ⟨-, s, change⟩
  · exact changes.sessions off
  · exact change.sessions off

/-- **A move deals with operations in these ways only.** -/
theorem dealings_make {m : Move} (reached : Reachable free b) (made : b.make m = some b') :
    Dealings b b' := by
  by_cases goesOn : (b.scopeOf m).sessions
  · obtain ⟨s, rfl, goesOn⟩ := goesOn
    obtain ⟨-, made⟩ := Option.ite_none_right_eq_some.1 made
    obtain rfl := Option.some.inj made
    obtain ⟨c, begins, goes⟩ := going_resume (b := b) goesOn
    exact .head (begins.deals reached.upkeep) (goes 0).dealings
  by_cases cancels : ∃ name, m = .step (.cancel name)
  · obtain ⟨name, rfl⟩ := cancels
    obtain ⟨-, made⟩ := Option.ite_none_right_eq_some.1 made
    obtain rfl := Option.some.inj made
    exact .single (.drop name rfl rfl)
  · obtain ⟨keeps, runs, operations⟩ := keeps_aside reached goesOn (not_exists.1 cancels) made
    exact .single (.aside keeps runs operations)

/-! ## Operations and their devices -/

/-- The device of an operation was there once. -/
def Given (b : Bench) : Prop := ∀ name p, b.operations.get? name = some p → p.device < b.host.nextId

theorem given_of_deals (given : b.Given) (deals : Deals b b') : b'.Given := by
  have erased {name : String} (nextId : b'.host.nextId = b.host.nextId)
      (operations : b'.operations = b.operations.erase name) : b'.Given := by
    intro n q held
    rw [operations, Table.get?_erase] at held
    rw [nextId]
    exact given n q (Option.ite_none_left_eq_some.1 held).2
  have set {name : String} {p : Pending} (nextId : b'.host.nextId = b.host.nextId)
      (known : p.device < b.host.nextId) (operations : b'.operations = b.operations.set name p) : b'.Given := by
    intro n q held
    rw [operations, Table.get?_set] at held
    rw [nextId]
    split at held
    · rwa [← Option.some.inj held]
    · exact given n q held
  have put {id : DeviceId} {after : Option Device} (core : b'.host.core = (b.putDevice id after).host.core) :
      b'.host.nextId = b.host.nextId :=
    (congrArg Core.nextId core).trans (nextId_putDevice b id after)
  cases deals with
  | aside keeps runs operations =>
    intro n q held
    exact Nat.lt_of_lt_of_le (given n q (operations ▸ held)) keeps.nextId_le
  | create name p known created core operations => exact set (congrArg Core.nextId core) known operations
  | drop name core operations => exact erased (congrArg Core.nextId core) operations
  | refuse name p after outcome under created started core operations => exact erased (put core) operations
  | call name p q d after call under created found started device operation calling core operations =>
    exact set (put core) (device ▸ given name p under) operations
  | finish name p r under calling core operations => exact erased (put core) operations

theorem Reachable.given (reached : Reachable free b) : b.Given := by
  obtain ⟨g, t, isLoaded, manager, naming, run⟩ := reached
  induction run with
  | refl => exact fun name p held => absurd held (by simp [opening, Table.get?])
  | move m run lawful made ih =>
    exact (dealings_make ⟨g, t, isLoaded, manager, naming, run⟩ made).preserves (fun _ _ => given_of_deals) ih

end Bench

end Piconet
