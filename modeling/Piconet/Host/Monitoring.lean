import Piconet.Host.Command

/-!
# The monitor on a host

The host's monitor passes what it sees on to the manager. The manager has nobody keep the events of
the devices it takes up this way.
-/

namespace Piconet.Host

/-- Does what a monitor asks of the manager. -/
def heed (h : Host) : Monitor.Request → Host
  | .add path => h.deviceAdded path
  | .remove path => h.deviceRemoved path

/-- The paths of the objects that carry the device interface. -/
def devicePaths (g : Generation) (tree : List (String × Interfaces)) : List String :=
  (tree.filter (·.2.contains g.deviceInterface)).map (·.1)

/-- Starts a monitor, instead of the one there is. The peer of an older generation keeps no tree of
objects. -/
def startMonitor (h : Host) (p : Peer) : Host :=
  if h.generation.exportsObjectManager then
    let (p, response) := p.managedObjects
    let h := { h with transport := .peer p }
    match response with
    | .value tree =>
      { (devicePaths h.generation tree).foldl deviceAdded h with
        monitor := some { stage := .following } }
    | .failed e => { h with monitor := some { stage := .ended (.error (.bus e)) } }
    | .never => { h with monitor := some { stage := .enumerating } }
  else { h with monitor := some { stage := .ended (.error (.unsupportedVersion h.generation)) } }

/-- Changes the monitor, if there is one. -/
def onMonitor (h : Host) (f : Monitor → Monitor) : Host := { h with monitor := h.monitor.map f }

/-- Goes on with a branch of the monitor. -/
def follow (h : Host) (m : Monitor) (b : Monitor.Branch) : Host :=
  let (m, request) := m.take h.generation.deviceInterface b
  let h := { h with monitor := some m }
  request.elim h h.heed

end Piconet.Host
