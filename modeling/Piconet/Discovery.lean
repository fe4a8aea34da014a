import Piconet.Stage

/-!
# Runs of discovery

A run goes through the stages of discovery and then follows the feeds of property changes and of
power changes. `Run.next?` takes the updates of the two feeds in turns; each feed keeps its own
order.
-/

namespace Piconet

/-- An update of a device that is followed. -/
inductive Update where
  | properties (batch : PropertyBatch)
  | power (on : Bool)
  deriving DecidableEq, Repr

/-- What a run is doing. -/
inductive Phase where
  | bringUp (stage : Stage) (progress : Progress)
  | follow
  deriving DecidableEq, Repr

/-- A run of discovery. -/
structure Run where
  /-- the name of the handle it was started from -/
  label : Option String
  /-- the device that it brings up -/
  device : Nat
  phase : Phase := .bringUp .acquire .fresh
  changes : Option (Feed PropertyBatch) := none
  power : Option (Feed Bool) := none
  /-- the feed of power changes is looked at first -/
  powerFirst : Bool := false

namespace Run

/-- Moves on to a stage whose call is still to be made. -/
def enter (r : Run) (stage : Stage) : Run := { r with phase := .bringUp stage .fresh }

/-- The next batch of properties, if one is queued. -/
def takeProperties (r : Run) : Option (Update × Run) :=
  match r.changes with
  | some f => match f.queue with
    | b :: rest => some (.properties b, { r with changes := some { f with queue := rest } })
    | [] => none
  | none => none

/-- The next change of the adapter's power, if one is queued. -/
def takePower (r : Run) : Option (Update × Run) :=
  match r.power with
  | some f => match f.queue with
    | on :: rest => some (.power on, { r with power := some { f with queue := rest } })
    | [] => none
  | none => none

/-- Hands the first turn to the other feed. -/
def turn (r : Run) : Run := { r with powerFirst := !r.powerFirst }

/-- The next update, if one is waiting, and what is left. -/
def next? (r : Run) : Option (Update × Run) :=
  if r.powerFirst then r.turn.takePower <|> r.turn.takeProperties
  else r.turn.takeProperties <|> r.turn.takePower

/-- Some update is waiting. -/
def hasUpdate (r : Run) : Bool :=
  r.changes.any (!·.queue.isEmpty) || r.power.any (!·.queue.isEmpty)

/-- Both feeds have ended. -/
def exhausted (r : Run) : Bool := r.changes.any (·.exhausted) && r.power.any (·.exhausted)

/-! ## What it is to take an update -/

/-- The update is the first of its feed, and the rest of the feed is left. -/
inductive Takes (r : Run) : Update → Run → Prop
  | properties {f : Feed PropertyBatch} {b : PropertyBatch} {rest : List PropertyBatch}
      (feed : r.changes = some f) (queue : f.queue = b :: rest) :
      Takes r (.properties b) { r.turn with changes := some { f with queue := rest } }
  | power {f : Feed Bool} {on : Bool} {rest : List Bool}
      (feed : r.power = some f) (queue : f.queue = on :: rest) :
      Takes r (.power on) { r.turn with power := some { f with queue := rest } }

variable {r r' : Run} {u : Update}

/-- A batch is taken from the front of its feed. -/
theorem takes_of_takeProperties (taken : r.turn.takeProperties = some (u, r')) : r.Takes u r' := by
  rw [takeProperties] at taken
  split at taken
  · next f feed =>
    split at taken
    · next b rest queue =>
      obtain ⟨rfl, rfl⟩ := Prod.mk.inj (Option.some.inj taken)
      exact .properties feed queue
    · exact absurd taken (by simp)
  · exact absurd taken (by simp)

/-- A change of power is taken from the front of its feed, too. -/
theorem takes_of_takePower (taken : r.turn.takePower = some (u, r')) : r.Takes u r' := by
  rw [takePower] at taken
  split at taken
  · next f feed =>
    split at taken
    · next on rest queue =>
      obtain ⟨rfl, rfl⟩ := Prod.mk.inj (Option.some.inj taken)
      exact .power feed queue
    · exact absurd taken (by simp)
  · exact absurd taken (by simp)

/-- **The next update is the first of one of both feeds.** -/
theorem takes_of_next? (next : r.next? = some (u, r')) : r.Takes u r' := by
  rw [next?] at next
  split at next
  · rw [Option.orElse_eq_orElse, Option.orElse_eq_or, Option.or_eq_some_iff] at next
    rcases next with first | ⟨-, second⟩
    · exact takes_of_takePower first
    · exact takes_of_takeProperties second
  · rw [Option.orElse_eq_orElse, Option.orElse_eq_or, Option.or_eq_some_iff] at next
    rcases next with first | ⟨-, second⟩
    · exact takes_of_takeProperties first
    · exact takes_of_takePower second

/-- When there is no next update, none is waiting. -/
theorem hasUpdate_of_next?_eq_none (next : r.next? = none) : r.hasUpdate = false := by
  have both : r.turn.takePower = none ∧ r.turn.takeProperties = none := by
    rw [next?] at next
    split at next
    · rw [Option.orElse_eq_orElse, Option.orElse_eq_or, Option.or_eq_none_iff] at next
      exact next
    · rw [Option.orElse_eq_orElse, Option.orElse_eq_or, Option.or_eq_none_iff] at next
      exact next.symm
  obtain ⟨noPower, noProperties⟩ := both
  have power : r.power.any (!·.queue.isEmpty) = false := by
    rw [takePower, show r.turn.power = r.power from rfl] at noPower
    cases feed : r.power with
    | none => rfl
    | some f => cases queue : f.queue <;> simp_all
  have properties : r.changes.any (!·.queue.isEmpty) = false := by
    rw [takeProperties, show r.turn.changes = r.changes from rfl] at noProperties
    cases feed : r.changes with
    | none => rfl
    | some f => cases queue : f.queue <;> simp_all
  rw [hasUpdate, power, properties, Bool.or_false]

end Run

end Piconet
