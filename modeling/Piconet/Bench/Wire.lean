import Piconet.Bench.Session

/-!
# Endpoints on the bench

Calls on the bus that are made without a device: reading an object that was bound, opening and
closing sessions and following changes.
-/

namespace Piconet.Bench

/-- What a call on an endpoint comes to. -/
inductive Reading (α : Type) where
  | done (result : Except ConnectionError α)
  /-- there is no answer -/
  | pending

/-- What the response of a peer means to the caller. -/
def Reading.ofResponse {α : Type} : Response α → Reading α
  | .value a => .done (.ok a)
  | .failed e => .done (.error (.bus e))
  | .never => .pending

def devicePath? (b : Bench) (name : String) : Option String :=
  match b.endpoints.get? name with
  | some (.device path) => some path
  | some (.adapter _) | none => none

def adapter? (b : Bench) (name : String) : Option AdapterView :=
  match b.endpoints.get? name with
  | some (.adapter a) => some a
  | some (.device _) | none => none

/-- Reads all properties of a device. -/
def fetch (b : Bench) (p : Peer) (path : String) : Bench × Reading PropertyBatch :=
  match p.fetch b.host.generation path with
  | (p, .value entries) => (b.setPeer p, .done (.ok (.ofEntries entries)))
  | (p, .failed e) => (b.setPeer p, .done (.error (.bus e)))
  | (p, .never) => (b.setPeer p, .pending)

/-- Makes a session call on an endpoint. -/
def callEndpoint (b : Bench) (p : Peer) (path : String) (call : EndpointCall) :
    Bench × Reading String :=
  match b.callPeer p path call with
  | (b, .answered r) => (b, .done r)
  | (b, .waits _) => (b, .pending)

/-- Follows the changes of a device. -/
def watch (b : Bench) (p : Peer) (name path : String) : Bench :=
  let feed : Feed PropertyBatch := { source := path }
  { b with watches := b.watches.set name (if p.connected then feed else feed.close) }

/-- Reads the power of an adapter. -/
def powered (b : Bench) (p : Peer) (name : String) (a : AdapterView) : Bench × Reading Bool :=
  match a.load p with
  | (p, .value a) =>
    let (p, response) := a.current p
    ({ b.setPeer p with endpoints := b.endpoints.set name (.adapter a) }, .ofResponse response)
  | (p, .failed e) => (b.setPeer p, .done (.error (.bus e)))
  | (p, .never) => (b.setPeer p, .pending)

/-- An endpoint takes in a signal. -/
def noteSignal (s : Signal) : Endpoint → Endpoint
  | .device path => .device path
  | .adapter a =>
    match s with
    | .changed path interface entries invalidated =>
      if path = a.path && interface = AdapterView.interface then
        .adapter (a.note entries invalidated)
      else .adapter a
    | .property .. | .added _ | .removed _ | .malformed => .adapter a

/-- A signal comes in. -/
def receiveSignal (b : Bench) (s : Signal) : Bench :=
  match b.host.peer? with
  | none => b
  | some _ =>
    { b.onHost (·.receiveSignal s) with
      endpoints := b.endpoints.mapValues (noteSignal s)
      watches := match s.batch? b.host.generation with
        | some (path, batch) => b.watches.mapValues fun f : Feed PropertyBatch =>
            if f.hears path then f.push batch else f
        | none => b.watches }

/-- The connection to the bus is lost. -/
def loseBus (b : Bench) : Bench :=
  { b.onHost (·.loseBus) with
    watches := b.watches.mapValues (·.close) }

end Piconet.Bench
