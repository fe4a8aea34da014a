import Piconet.Bench.Basic

/-!
# Operations on the bench

An operation goes on only when it is started, polled, answered or waited for. Polling starts it if
it was not started, and ends it if its reply is there or its deadline is over. If both are ready it may end
with either.
-/

namespace Piconet

/-- What a session call comes to at once. -/
inductive Reception where
  | answered (r : SessionReply)
  /-- a reply may come through the channel -/
  | waits (channel : Option ChannelId)

/-- The reply to a call that no script has one for. -/
def EndpointCall.usualReply : EndpointCall → SessionReply
  | .connect .panu => .ok "bnep0"
  | .connect .dun => .ok "rfcomm0"
  | .disconnect .. => .ok ""

def EndpointCall.role : EndpointCall → Role
  | .connect r | .disconnect r _ => r

/-- The member of the bus interface. -/
def EndpointCall.member : EndpointCall → String
  | .connect _ => "Connect"
  | .disconnect .. => "Disconnect"

/-- The arguments of the bus call. -/
def EndpointCall.arguments : EndpointCall → List String
  | .connect r => [r.connectType]
  | .disconnect _ interface => interface.toList

namespace Peer

/-- Sends a session call to the peer. -/
def session (p : Peer) : EndpointCall → Peer × Response String
  | .connect _ => p.connect
  | .disconnect .. =>
    match p.disconnect with
    | (p, .value ()) => (p, .value "")
    | (p, .failed e) => (p, .failed e)
    | (p, .never) => (p, .never)

end Peer

namespace Bench

/-! ## Calls -/

/-- Takes the scripted reply for a path. -/
def takeScript (b : Bench) (path : String) (call : EndpointCall) : Bench × Reception :=
  match b.scripts.get? path with
  | none => (b, .answered call.usualReply)
  | some (.reply r) => ({ b with scripts := b.scripts.erase path }, .answered r)
  | some (.held channel) =>
    ({ b with scripts := b.scripts.erase path }, .waits (some channel))

/-- Makes a session call on the bus. Where there is no interface for the role no call is made. -/
def callPeer (b : Bench) (p : Peer) (path : String) (call : EndpointCall) : Bench × Reception :=
  match b.host.generation.sessionInterface? call.role with
  | none => (b, .answered (.error (.unsupportedBearer call.role)))
  | some interface =>
    let b := if p.connected then b.log (.bus call.member path interface call.arguments) else b
    match p.session call with
    | (p, .value r) => (b.setPeer p, .answered (.ok r))
    | (p, .failed e) => (b.setPeer p, .answered (.error (.bus e)))
    | (p, .never) => (b.setPeer p, .waits none)

/-- Makes a session call for a device. -/
def call (b : Bench) (path : String) (call : EndpointCall) : Bench × Reception :=
  match b.host.transport with
  | .stub _ => (b.log (.session path call)).takeScript path call
  | .peer p => b.callPeer p path call
  | .unreachable => (b, .waits none)

/-! ## Progress of an operation -/

/-- Puts back a device that an operation changed. -/
def putDevice (b : Bench) (id : DeviceId) : Option Device → Bench
  | some d => b.onHost (·.setDevice id d)
  | none => b

/-- Ends an operation with the result of its call. -/
def finish (b : Bench) (name : String) (p : Pending) (r : SessionReply) : Bench × Option Outcome :=
  let (d, outcome) := p.operation.finish r (b.host.device? p.device)
  ({ b.putDevice p.device d with operations := b.operations.erase name }, some outcome)

/-- Looks whether the reply is there, or the deadline over. -/
def look (b : Bench) (name : String) (p : Pending) : Bench × Option Outcome :=
  match p.phase with
  | .created => (b, none)
  | .calling deadline channel =>
    match channel.bind b.letters.get? with
    | some r => b.finish name p (p.against r (deadline ≤ b.clock))
    | none => if deadline ≤ b.clock then b.finish name p (.error .timeout) else (b, none)

/-- Starts an operation: its checks and its call. -/
def start (b : Bench) (name : String) (p : Pending) : Bench × Option Outcome :=
  match p.operation.start (b.host.device? p.device) with
  | .ended d outcome =>
    ({ b.putDevice p.device d with operations := b.operations.erase name }, some outcome)
  | .calling d call =>
    match (b.putDevice p.device (some d)).call d.path call with
    | (b, .answered r) => b.finish name p (p.against r (p.operation.limit d.timeouts = 0))
    | (b, .waits channel) =>
      let p := { p with phase := .calling (b.clock + p.operation.limit d.timeouts) channel }
      { b with operations := b.operations.set name p }.look name p

/-- Goes on with an operation. -/
def poll (b : Bench) (name : String) (p : Pending) : Bench × Option Outcome :=
  match p.phase with
  | .created => b.start name p
  | .calling .. => b.look name p

/-- Goes on with an operation and lets time pass until it ends. -/
def expire (b : Bench) (name : String) (p : Pending) : Bench × Option Outcome :=
  match b.poll name p with
  | (b, some outcome) => (b, some outcome)
  | (b, none) =>
    match b.operations.get? name with
    | some p =>
      match p.phase with
      | .calling deadline _ => { b with clock := max b.clock deadline }.look name p
      | .created => (b, none)
    | none => (b, none)

/-! ## Scripts -/

/-- Sets the scripted reply for a path; nothing stands for the usual reply. -/
def setScript (b : Bench) (path : String) (r : Option SessionReply) : Bench :=
  { b with scripts := match r with
    | some r => b.scripts.set path (.reply r)
    | none => b.scripts.erase path }

/-- Has the next session call on a path wait for a reply that is given under a name. -/
def holdScript (b : Bench) (path name : String) : Bench :=
  { b with
    scripts := b.scripts.set path (.held b.nextChannel)
    senders := b.senders.set name b.nextChannel
    nextChannel := b.nextChannel + 1 }

/-- Whether someone can still take a reply out of the channel. -/
def awaited (b : Bench) (channel : ChannelId) : Bool :=
  b.scripts.entries.any (fun e => match e.2 with
    | .held c => c = channel
    | .reply _ => false)
  || b.operations.entries.any fun e => match e.2.phase with
    | .calling _ c => c = some channel
    | .created => false

/-- Gives the reply that is held under a name. -/
def give (b : Bench) (name : String) (channel : ChannelId) (r : SessionReply) : Bench :=
  { b with
    senders := b.senders.erase name
    letters := if b.awaited channel then b.letters.set channel r else b.letters }

end Bench

end Piconet
