import Piconet.Transport.Peer

/-!
# Adapters on the bus

A client of an adapter reads all of its properties the first time that it needs one and keeps them
current by the adapter's signals. A first reading that fails is not tried again. A property that is
not among those kept is read on its own each time.
-/

namespace Piconet

/-- An adapter, as one of its clients knows it. -/
structure AdapterView where
  path : String
  /-- the properties kept, or why they could not be read; nothing before the first reading -/
  kept : Option (Except BusFailure (List (String × Bus.Value))) := none

namespace AdapterView

/-- The interface of adapters. -/
def interface : String := "org.bluez.Adapter1"

/-- The only property that anybody asks for. -/
def powerProperty : String := "Powered"

/-- Reads the properties, the first time. -/
def load (a : AdapterView) (p : Peer) : Peer × Response AdapterView :=
  match a.kept with
  | some _ => (p, .value a)
  | none =>
    match p.getAll a.path interface with
    | (p, .value entries) => (p, .value { a with kept := some (.ok entries) })
    | (p, .failed e) => (p, .value { a with kept := some (.error e) })
    | (p, .never) => (p, .never)

/-- A truth value, or the failure that another value is. -/
def readFlag (v : Bus.Value) : Response Bool := v.flag?.elim (.failed .unexpectedReply) .value

/-- The power of an adapter whose properties were read. -/
def current (a : AdapterView) (p : Peer) : Peer × Response Bool :=
  match a.kept with
  | some (.error e) => (p, .failed e)
  | some (.ok entries) =>
    match entries.lookup powerProperty with
    | some v => (p, readFlag v)
    | none =>
      match p.get a.path interface powerProperty with
      | (p, .value v) => (p, readFlag v)
      | (p, .failed e) => (p, .failed e)
      | (p, .never) => (p, .never)
  | none => (p, .never)

/-- Whether the properties were read, so that signals reach the client. -/
def heard (a : AdapterView) : Bool :=
  match a.kept with
  | some (.ok _) => true
  | some (.error _) | none => false

/-- Takes in a signal: some properties changed, others are to be read again. -/
def note (a : AdapterView) (changed : List (String × Bus.Value)) (invalidated : List String) :
    AdapterView :=
  { a with kept := a.kept.map fun kept => kept.map fun entries =>
      changed ++ entries.filter fun e =>
        !(changed.any (·.1 = e.1)) && !(invalidated.contains e.1) }

end AdapterView

end Piconet
