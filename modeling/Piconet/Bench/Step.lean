import Piconet.Bench.Wire

/-!
# Steps on the bench

A step is one thing that a user of the bench does. `Bench.take` carries it out and then lets
everything run until it waits. A step that names something that is not there is refused and changes
nothing.
-/

namespace Piconet

/-- The reply that a session operation is given along with its start. -/
inductive Provision where
  | usual
  | reply (r : SessionReply)
  /-- the reply is given later, under the name of the operation -/
  | hold

/-- One thing a user of the bench does. -/
inductive Step where
  | command (c : Command)
  /-- a new device behind a handle, whose events go to a receiver of the same name -/
  | newDevice (handle path : String) (generation : Option Generation) (timeouts : Timeouts)
  /-- starts discovery -/
  | run (device : String)
  /-- lets go of the runs that were started from a handle -/
  | stop (device : String)
  | listen (device receiver : String)
  | unlisten (receiver : String)
  /-- creates an operation and, unless it is lazy, starts it -/
  | operate (device : String) (operation : Operation) (name : String) (provision : Provision)
      (isLazy : Bool) (favors : Pending.Branch := .reply)
  | poll (name : String)
  | reply (name : String) (r : SessionReply)
  | expire (name : String)
  | cancel (name : String)
  | putObject (path : String) (interfaces : Option Interfaces)
  | prepare (member : String) (reply : Reply)
  | signal (s : Signal)
  | bindDevice (name path : String)
  | bindAdapter (name path : String)
  | fetch (name : String)
  | watch (name : String)
  | unwatch (name : String)
  | connect (name : String) (role : Role)
  | disconnect (name : String) (role : Role) (interface : Option String)
  | powered (name : String)
  | monitor
  | monitorStop
  | monitorResult
  | closeBus

namespace Step

/-- What a step answers. -/
inductive Result where
  | command (a : Answer)
  | nothing
  | flag (b : Bool)
  | refused
  | outcome (o : Outcome)
  | pending
  /-- an operation that was not started -/
  | created
  /-- whether a reply was still waited for, and what became of the operation, if there is one -/
  | delivered (b : Bool) (result : Option (Option Outcome))
  | bound (r : Except ConnectionError Unit)
  | properties (r : Except ConnectionError PropertyBatch)
  | interface (r : Except ConnectionError String)
  | closed (r : Except ConnectionError Unit)
  | power (r : Except ConnectionError Bool)
  | ending (r : Monitor.Ending)
  | monitoring

end Step

namespace Bench

open Step (Result)

/-- The result of an operation's progress. -/
def progress : Bench × Option Outcome → Bench × Result
  | (b, some o) => (b, .outcome o)
  | (b, none) => (b, .pending)

theorem fst_progress (x : Bench × Option Outcome) : (progress x).1 = x.1 := by
  obtain ⟨c, _ | o⟩ := x <;> rfl

/-- The result of a reading, which may never be answered. -/
def ofReading {α : Type} (wrap : Except ConnectionError α → Result) : Bench × Reading α → Bench × Result
  | (b, .done r) => (b, wrap r)
  | (b, .pending) => (b, .pending)

theorem fst_ofReading {α : Type} (wrap : Except ConnectionError α → Result) (x : Bench × Reading α) :
    (ofReading wrap x).1 = x.1 := by
  obtain ⟨c, _ | _⟩ := x <;> rfl

/-! ## Devices -/

/-- A new device behind a handle. The one that was there is let go of when the new one is in
place. -/
def newDevice (b : Bench) (handle path : String) (g : Generation) (t : Timeouts) : Bench :=
  b.onHost fun h =>
    let old := h.handles.get? handle
    let (h, id) := h.create (.fresh path g t)
    let h := { h.receive handle id with handles := h.handles.set handle id }
    old.elim h h.destroy

/-- Lets go of the runs that were started from a handle. -/
def stop (b : Bench) (device : String) : Bench :=
  b.onHost fun h => { h with runs := h.runs.filterValues fun r : Run => decide (r.label ≠ some device) }

def unlisten (b : Bench) (receiver : String) : Bench :=
  b.onHost fun h => { h with receivers := h.receivers.filter (·.name ≠ receiver) }

/-! ## Operations -/

/-- Sets the script for a device and creates the operation, instead of the one of its name. -/
def operate (b : Bench) (id : DeviceId) (path : String) (operation : Operation) (name : String)
    (provision : Provision) (isLazy : Bool) (favors : Pending.Branch := .reply) : Bench × Result :=
  let b := match provision with
    | .usual => b.setScript path none
    | .reply r => b.setScript path (some r)
    | .hold => b.holdScript path name
  let p : Pending := { operation, device := id, favors }
  let b := { b with operations := b.operations.set name p }
  if isLazy then (b, .created) else progress (b.poll name p)

/-- Goes on with the operation of a name, if there is one. -/
def pollIfThere (b : Bench) (name : String) : Bench × Option (Option Outcome) :=
  match b.operations.get? name with
  | some p => (b.poll name p).map id some
  | none => (b, none)

/-- Gives a held reply and goes on with the operation. -/
def reply (b : Bench) (name : String) (channel : ChannelId) (r : SessionReply) : Bench × Result :=
  let (after, result) := (b.give name channel r).pollIfThere name
  (after, .delivered (b.awaited channel) result)

/-! ## Endpoints -/

/-- Binds an object of the bus under a name. Whether there is such an object does not matter. -/
def bind (b : Bench) (name path : String) (endpoint : Endpoint) : Bench × Result :=
  match b.host.transport with
  | .stub _ => (b, .refused)
  | .unreachable => (b, .bound (.error (.bus .disconnected)))
  | .peer _ =>
    if Bus.isObjectPath path then
      ({ b with endpoints := b.endpoints.set name endpoint }, .bound (.ok ()))
    else (b, .bound (.error (.bus .malformedPath)))

/-! ## The monitor -/

/-- Asks the monitor to stop. It was still there if it had not ended. -/
def stopMonitor (b : Bench) (m : Monitor) : Bench × Result :=
  (b.onHost (·.onMonitor fun m => { m with stopped := true }), .flag m.isRunning)

/-- Takes the result of the monitor, which is gone then. -/
def monitorResult (b : Bench) (m : Monitor) : Bench × Result :=
  match m.stage with
  | .ended r => (b.onHost fun h => { h with monitor := none }, .ending r)
  | .enumerating | .following => (b, .monitoring)

/-! ## Steps -/

/-- Does something with what is there, or refuses. -/
def withSome {α : Type} (b : Bench) (found : Option α) (f : α → Bench × Result) : Bench × Result :=
  found.elim (b, .refused) f

def doStep (b : Bench) : Step → Bench × Result
  | .command c => (b.onHost (·.obey c), .command (b.host.answerTo c))
  | .newDevice handle path generation timeouts =>
    (b.newDevice handle path (generation.getD b.host.generation) timeouts, .nothing)
  | .run device =>
    b.withSome (b.host.find? device) fun id => (b.onHost (·.startRun id (some device)), .nothing)
  | .stop device => b.withSome (b.host.find? device) fun _ => (b.stop device, .nothing)
  | .listen device receiver =>
    b.withSome (b.host.find? device) fun id => (b.onHost (·.receive receiver id), .nothing)
  | .unlisten receiver => (b.unlisten receiver, .flag (b.host.receivers.any (·.name = receiver)))
  | .operate device operation name provision isLazy favors =>
    b.withSome (b.host.find? device) fun id =>
      b.withSome (b.host.device? id) fun d => b.operate id d.path operation name provision isLazy favors
  | .poll name => b.withSome (b.operations.get? name) fun p => progress (b.poll name p)
  | .reply name r => b.withSome (b.senders.get? name) fun channel => b.reply name channel r
  | .expire name => b.withSome (b.operations.get? name) fun p => progress (b.expire name p)
  | .cancel name =>
    ({ b with operations := b.operations.erase name }, .flag (b.operations.contains name))
  | .putObject path interfaces =>
    b.withSome b.peer? fun p =>
      (b.setPeer { p with objects := interfaces.elim (p.objects.erase path) (p.objects.set path) },
        .nothing)
  | .prepare member reply =>
    b.withSome b.peer? fun p => (b.setPeer { p with replies := p.replies ++ [(member, reply)] }, .nothing)
  | .signal s => b.withSome b.peer? fun _ => (b.receiveSignal s, .nothing)
  | .bindDevice name path => b.bind name path (.device path)
  | .bindAdapter name path => b.bind name path (.adapter { path })
  | .fetch name =>
    b.withSome b.peer? fun p =>
      b.withSome (b.devicePath? name) fun path => ofReading .properties (b.fetch p path)
  | .watch name =>
    b.withSome b.peer? fun p =>
      b.withSome (b.devicePath? name) fun path => (b.watch p name path, .closed (.ok ()))
  | .unwatch name => ({ b with watches := b.watches.erase name }, .flag (b.watches.contains name))
  | .connect name role =>
    b.withSome b.peer? fun p =>
      b.withSome (b.devicePath? name) fun path =>
        ofReading .interface (b.callEndpoint p path (.connect role))
  | .disconnect name role interface =>
    b.withSome b.peer? fun p =>
      b.withSome (b.devicePath? name) fun path =>
        ofReading (fun r => .closed (r.map fun _ => ()))
          (b.callEndpoint p path (.disconnect role interface))
  | .powered name =>
    b.withSome b.peer? fun p =>
      b.withSome (b.adapter? name) fun a => ofReading .power (b.powered p name a)
  | .monitor =>
    b.withSome b.peer? fun p =>
      b.withSome b.host.manager fun _ => (b.onHost (·.startMonitor p), .nothing)
  | .monitorStop => b.withSome b.host.monitor fun m => b.stopMonitor m
  | .monitorResult => b.withSome b.host.monitor fun m => b.monitorResult m
  | .closeBus => b.withSome b.peer? fun _ => (b.loseBus, .nothing)

/-- Takes a step and lets everything run until it waits. -/
def take (b : Bench) (s : Step) : Bench × Result :=
  let (b, r) := b.doStep s
  (b.onHost (·.settle), r)

end Bench

end Piconet
