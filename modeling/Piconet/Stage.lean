import Piconet.Feed
import Piconet.Properties

/-!
# Stages of discovery

A run of discovery brings a device up in stages: it acquires the bus, binds the device, subscribes
to its changes before it reads all properties, and where the generation asks for it does the same
with the adapter. Every stage but the last makes one call; `Stage.Yield` is what that call brings.
-/

namespace Piconet

/-- Where a run stands while it brings a device up. All but the last stage make one call. -/
inductive Stage where
  | acquire
  | bind
  | subscribe
  | fetch
  | bindAdapter (path : String)
  | subscribePower (path : String)
  | readPower (path : String)
  /-- everything is in place -/
  | announce
  deriving DecidableEq, Repr

/-- How far the call of a stage has come. -/
inductive Progress where
  /-- the call is not made yet -/
  | fresh
  /-- the call waits at a point of the transport -/
  | waits (atPath : Bool)
  /-- the call is never answered -/
  | stuck
  deriving DecidableEq, Repr

/-- The power of an adapter, as a run finds it. -/
structure PowerReading where
  on : Bool
  /-- later changes will be heard of -/
  heard : Bool
  deriving DecidableEq, Repr

/-- What the call of a stage brings. A subscription to property changes may have ended at once. -/
abbrev Stage.Yield : Stage → Type
  | acquire | bind | bindAdapter _ | subscribePower _ | announce => Unit
  | subscribe => Feed.Link
  | fetch => PropertyBatch
  | readPower _ => PowerReading

/-- What a call comes to. -/
inductive Finding (α : Type) where
  | waits (progress : Progress)
  | failed
  | yields (a : α)

/-- How many stages can come after this one. -/
def Stage.rank : Stage → Nat
  | acquire => 7
  | bind => 6
  | subscribe => 5
  | fetch => 4
  | bindAdapter _ => 3
  | subscribePower _ => 2
  | readPower _ => 1
  | announce => 0

/-- How much of a call is still to come. -/
def Progress.rank : Progress → Nat
  | fresh => 3
  | waits false => 2
  | waits true => 1
  | stuck => 0

end Piconet
