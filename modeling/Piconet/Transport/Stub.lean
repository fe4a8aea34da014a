import Piconet.Properties
import Piconet.Table

/-!
# A transport without a bus

A stub answers every call from tables. A call first passes its *points*: the name of its kind, then
the name together with the path it is about. At each of them it waits while the point is held and
fails if the point is failing.
-/

namespace Piconet

/-- The tables and points of a stub. -/
structure Stub where
  /-- what reading a device gives; a device without properties cannot be read -/
  devices : Table String (Option PropertyBatch) := {}
  /-- the power of an adapter; one without power cannot be read -/
  adapters : Table String (Option Bool) := {}
  held : List String := []
  failing : List String := []

namespace Stub

/-- How far a call has come. -/
inductive Passage where
  /-- it waits at the point of its kind, or at the one for its path -/
  | waits (atPath : Bool)
  | fails
  | passes

/-- The point for a path. -/
def pathPoint (kind path : String) : String := kind ++ ":" ++ path

/-- A call at the point for its path. -/
def passPath (s : Stub) (kind path : String) : Passage :=
  if s.held.contains (pathPoint kind path) then .waits true
  else if s.failing.contains (pathPoint kind path) then .fails
  else .passes

/-- A call at the point of its kind. -/
def passKind (s : Stub) (kind path : String) : Passage :=
  if s.held.contains kind then .waits false
  else if s.failing.contains kind then .fails
  else s.passPath kind path

/-- Calls at a point wait until it is released. -/
def hold (s : Stub) (point : String) : Stub := { s with held := s.held.insert point }

/-- Calls at a point are answered again. -/
def release (s : Stub) (point : String) : Stub := { s with held := s.held.filter (· ≠ point) }

/-- Calls at a point fail. -/
def fail (s : Stub) (point : String) : Stub := { s with failing := s.failing.insert point }

/-- Calls at a point do not fail any longer. -/
def unfail (s : Stub) (point : String) : Stub := { s with failing := s.failing.filter (· ≠ point) }

end Stub

end Piconet
