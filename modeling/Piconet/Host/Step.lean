import Piconet.Host.Discovery
import Piconet.Host.Monitoring

/-!
# Steps of a host

A host does the first duty of its agenda, and when there is none it goes on with the monitor or
with the first run of discovery that can go on.
-/

namespace Piconet.Host

/-- The host with other duties. -/
def withAgenda (h : Host) (duties : List Duty) : Host := { h with agenda := duties }

/-- Does one duty. -/
def act (h : Host) : Duty → Host
  | .announce _ [] => h
  | .announce n (l :: ls) => (h.urge [.announce n ls]).hear n l
  | .react w n rule => h.react w n rule
  | .perform w cs => h.perform w cs
  | .record w a => h.record w a
  | .reassess id => h.reassess id
  | .adopt id uuid => h.adopt id uuid
  | .conclude id => h.conclude id
  | .pursue id => h.pursue id

/-- The first run that can go on. -/
def readyRun? (h : Host) : Option RunId := h.runs.keys.find? fun id => (h.run? id).any h.isReady

/-- Goes on with what does not wait, when there is no duty. -/
def resume (h : Host) : Option Host :=
  match h.monitor.bind fun m => m.branch?.map fun b => (m, b) with
  | some (m, b) => some (h.follow m b)
  | none => h.readyRun?.map h.pursue

/-- Goes on, unless everything waits. -/
def step (h : Host) : Option Host :=
  match h.agenda with
  | duty :: duties => some ((h.withAgenda duties).act duty)
  | [] => h.resume

end Piconet.Host
