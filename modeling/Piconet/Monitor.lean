import Piconet.Error

/-!
# Following the object tree

A monitor tells the manager which remote devices there are. It lists all objects once and then
follows two streams of signals, of objects that got interfaces and of objects that lost some. The
streams are separate: each keeps its own order, and which of them is looked at next is anybody's
choice (`Monitor.Branch`).
-/

namespace Piconet

/-- A signal that an object got or lost interfaces. -/
structure ObjectSignal where
  path : String
  interfaces : List String
  deriving DecidableEq, Repr

/-- How a monitor ended. -/
abbrev Monitor.Ending := Except ConnectionError Unit

/-- Where a monitor stands. -/
inductive Monitor.Stage where
  /-- the list of objects never comes -/
  | enumerating
  | following
  | ended (ending : Monitor.Ending)
  deriving Repr

/-- A follower of the object tree. -/
structure Monitor where
  stage : Monitor.Stage
  /-- signals of interfaces that came, not looked at yet -/
  added : List ObjectSignal := []
  /-- signals of interfaces that went, not looked at yet -/
  removed : List ObjectSignal := []
  /-- the end of both streams is in sight -/
  closed : Bool := false
  /-- the monitor was asked to stop -/
  stopped : Bool := false
  deriving Repr

namespace Monitor

/-- What a monitor asks of the manager. -/
inductive Request where
  | add (path : String)
  | remove (path : String)
  deriving DecidableEq, Repr

/-- What a monitor waits for. -/
inductive Branch where
  | stop
  | added
  | removed
  deriving DecidableEq, Repr

/-- What a stream that ends before the monitor was asked to stop comes to. -/
def streamEnded : ConnectionError := .stuck "monitoring stream ended"

/-- Whether the monitor, if it follows signals, can go on with a branch. -/
def ready (m : Monitor) : Branch → Bool
  | .stop => m.stopped
  | .added => !m.added.isEmpty || m.closed
  | .removed => !m.removed.isEmpty || m.closed

/-- Goes on with a branch. Only objects with the device interface count. -/
def take (m : Monitor) (interface : String) : Branch → Monitor × Option Request
  | .stop => ({ m with stage := .ended (.ok ()) }, none)
  | .added =>
    match m.added with
    | s :: rest =>
      ({ m with added := rest }, if s.interfaces.contains interface then some (.add s.path) else none)
    | [] => ({ m with stage := .ended (.error streamEnded) }, none)
  | .removed =>
    match m.removed with
    | s :: rest =>
      ({ m with removed := rest },
        if s.interfaces.contains interface then some (.remove s.path) else none)
    | [] => ({ m with stage := .ended (.error streamEnded) }, none)

/-- The branch to go on with, where one is ready. -/
def branch? (m : Monitor) : Option Branch :=
  match m.stage with
  | .following => [Branch.stop, .added, .removed].find? m.ready
  | .enumerating | .ended _ => none

def isRunning (m : Monitor) : Bool :=
  match m.stage with
  | .ended _ => false
  | .enumerating | .following => true

end Monitor

end Piconet
