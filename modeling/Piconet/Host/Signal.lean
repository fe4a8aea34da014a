import Piconet.Host.Monitoring
import Piconet.Transport.Adapter

/-!
# Signals from the bus

A signal reaches the runs that follow the object it comes from, and the monitor. Both generations
announce changed properties, the older one a property at a time. A signal whose content has another
type than its name promises is ignored.
-/

namespace Piconet

/-- A signal from the peer. -/
inductive Signal where
  /-- properties of an interface changed, or are to be read again -/
  | changed (path interface : String) (entries : List (String × Bus.Value))
      (invalidated : List String)
  /-- a property changed, as the older generation says it -/
  | property (path name : String) (value : Bus.Value)
  /-- an object got interfaces -/
  | added (object : ObjectSignal)
  /-- an object lost interfaces -/
  | removed (object : ObjectSignal)
  /-- a signal whose content has the wrong type -/
  | malformed

/-- What a signal says of a device, for those who follow one. -/
def Signal.batch? (g : Generation) : Signal → Option (String × PropertyBatch)
  | .changed path interface entries _ =>
    let batch := PropertyBatch.ofEntries entries
    if g.requiresAdapter && interface = g.deviceInterface && !batch.isEmpty then some (path, batch)
    else none
  | .property path name value =>
    let batch := PropertyBatch.ofEntries [(name, value)]
    if !g.requiresAdapter && !batch.isEmpty then some (path, batch) else none
  | .added _ | .removed _ | .malformed => none

namespace Host

/-- The peer, while there is one that can be reached. -/
def peer? (h : Host) : Option Peer :=
  match h.transport with
  | .peer p => if p.connected then some p else none
  | .stub _ | .unreachable => none

/-- Has a follower of an adapter read its power on its own. It hears nothing more if there is never
an answer. -/
def rereadPower (p : Peer) (f : Feed Bool) : Peer × Feed Bool :=
  match p.get f.source AdapterView.interface AdapterView.powerProperty with
  | (p, .value v) => (p, v.flag?.elim f f.push)
  | (p, .failed _) => (p, f)
  | (p, .never) => (p, f.silence)

/-- The feed through which a run follows an adapter, if it does. A run whose device is gone follows
nothing any longer. -/
def follows? (h : Host) (path : String) (r : Run) : Option (Feed Bool) :=
  if h.devices.contains r.device then r.power.filter (·.hears path) else none

/-- Has the followers of an adapter among runs read its power on their own, one after the other. -/
def rereadAll (p : Peer) (follows? : Run → Option (Feed Bool)) :
    List (RunId × Run) → Peer × List (RunId × Run)
  | [] => (p, [])
  | (id, r) :: rs =>
    match follows? r with
    | some f =>
      let (p, f) := rereadPower p f
      let (p, rs) := rereadAll p follows? rs
      (p, (id, { r with power := some f }) :: rs)
    | none =>
      let (p, rs) := rereadAll p follows? rs
      (p, (id, r) :: rs)

/-- Tells the followers of an adapter what a signal says of its power. -/
def announcePower (h : Host) (p : Peer) (path : String) (entries : List (String × Bus.Value))
    (invalidated : List String) : Host :=
  match entries.lookup AdapterView.powerProperty with
  | some v => v.flag?.elim h fun on => h.onPower path (·.push on)
  | none =>
    if invalidated.contains AdapterView.powerProperty then
      let (p, runs) := rereadAll p (h.follows? path) h.runs.entries
      { h with transport := .peer p, runs := ⟨runs⟩ }
    else h

/-- A signal comes in. -/
def receiveSignal (h : Host) (s : Signal) : Host :=
  match h.peer? with
  | none => h
  | some p =>
    let h := match s.batch? h.generation with
      | some (path, batch) => h.onChanges path (·.push batch)
      | none => h
    match s with
    | .changed path interface entries invalidated =>
      if interface = AdapterView.interface then h.announcePower p path entries invalidated else h
    | .added object => h.onMonitor fun m => { m with added := m.added ++ [object] }
    | .removed object => h.onMonitor fun m => { m with removed := m.removed ++ [object] }
    | .property .. | .malformed => h

/-- The connection to the bus is lost. The signals of objects end, those of adapters only stop. -/
def loseBus (h : Host) : Host :=
  match h.transport with
  | .peer p =>
    { h with
      transport := .peer { p with connected := false }
      runs := h.runs.mapValues fun r : Run =>
        { r with changes := r.changes.map (·.close), power := r.power.map (·.silence) }
      monitor := h.monitor.map fun m => { m with closed := true } }
  | .stub _ | .unreachable => h

end Host

end Piconet
