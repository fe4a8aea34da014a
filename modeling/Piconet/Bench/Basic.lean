import Piconet.Host.Settle
import Piconet.Host.Signal

/-!
# The bench

A `Bench` is a host together with everything that its users hold: session operations that have not
ended, endpoints of the bus, and the replies that a script has for session calls. Time passes on
the bench only when someone waits for a deadline.
-/

namespace Piconet

abbrev ChannelId := Nat

/-- What an endpoint replies to a session call. -/
abbrev SessionReply := Except ConnectionError String

/-- A reply that a script has for the next session call of a device. -/
inductive Script where
  | reply (r : SessionReply)
  /-- the reply comes later, through a channel -/
  | held (channel : ChannelId)

/-- How far an operation has come. -/
inductive Pending.Phase where
  | created
  /-- the call is on its way; its reply, if there will be one, comes through a channel -/
  | calling (deadline : Nat) (channel : Option ChannelId)
  deriving DecidableEq, Repr

/-- What the call of an operation waits for. -/
inductive Pending.Branch where
  | reply
  | deadline
  deriving DecidableEq, Repr

/-- An operation that has not ended. Where the reply is there and the deadline is over, `select!` may take
either branch; which one it takes is drawn when the operation is created. -/
structure Pending where
  operation : Operation
  device : DeviceId
  phase : Pending.Phase := .created
  favors : Pending.Branch := .reply
  deriving DecidableEq, Repr

/-- What a call comes to whose reply is there. -/
def Pending.against (p : Pending) (r : SessionReply) (isOver : Bool) : SessionReply :=
  match p.favors with
  | .reply => r
  | .deadline => if isOver then .error .timeout else r

/-- An object of the bus that someone talks to. -/
inductive Endpoint where
  | device (path : String)
  | adapter (view : AdapterView)

/-- A host and what its users hold. -/
structure Bench where
  host : Host
  /-- in milliseconds -/
  clock : Nat := 0
  /-- scripted replies by the path of the device -/
  scripts : Table String Script := {}
  /-- by operation, the channels through which a reply can be given -/
  senders : Table String ChannelId := {}
  /-- the replies given, by channel -/
  letters : Table ChannelId SessionReply := {}
  nextChannel : ChannelId := 0
  operations : Table String Pending := {}
  endpoints : Table String Endpoint := {}
  /-- the property changes that someone follows, by endpoint -/
  watches : Table String (Feed PropertyBatch) := {}

namespace Bench

/-- Changes the host. -/
def onHost (b : Bench) (f : Host → Host) : Bench := { b with host := f b.host }

def log (b : Bench) (c : Call) : Bench := b.onHost (·.log c)

/-- Hands the transport's peer to whoever makes a call. -/
def setPeer (b : Bench) (p : Peer) : Bench := b.onHost fun h => { h with transport := .peer p }

/-- The peer, connected or not. -/
def peer? (b : Bench) : Option Peer :=
  match b.host.transport with
  | .peer p => some p
  | .stub _ | .unreachable => none

end Bench

end Piconet
