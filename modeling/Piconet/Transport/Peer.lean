import Piconet.Bus.Value
import Piconet.Error
import Piconet.Table

/-!
# A peer on the bus

A peer serves a tree of objects: paths, the interfaces of each and their properties. For every
member of its interfaces it can be told replies to give instead, each of them once. A call to a
peer that is no longer connected fails without reaching it.
-/

namespace Piconet

/-- The properties of an object's interfaces. -/
abbrev Interfaces := Table String (List (String × Bus.Value))

/-- What a peer sends back. -/
inductive Reply where
  | error (name : String) (text : Option String)
  /-- a message without content -/
  | empty
  | text (s : String)
  | word (n : UInt32)
  | variant (v : Bus.Value)
  | dict (entries : List (String × Bus.Value))
  | objects (tree : List (String × Interfaces))
  /-- nothing, ever -/
  | never

/-- What a caller gets. -/
inductive Response (α : Type) where
  | value (a : α)
  | failed (failure : BusFailure)
  | never

/-- The objects a peer serves and the replies it was told to give. -/
structure Peer where
  objects : Table String Interfaces := {}
  replies : List (String × Reply) := []
  connected : Bool := true

namespace Peer

/-- What the object or interface asked for not being there comes to. -/
def noObject : Reply := .error "org.freedesktop.DBus.Error.UnknownObject" (some "no such thing")

def noProperty : Reply := .error "org.freedesktop.DBus.Error.UnknownProperty" (some "no such thing")

/-- The reply to a call of a member: the first one it was told to give, or else what it serves. -/
def reply (p : Peer) (member : String) (served : Reply) : Peer × Reply :=
  match p.replies.find? (·.1 = member) with
  | some (_, r) => ({ p with replies := p.replies.eraseP (·.1 = member) }, r)
  | none => (p, served)

/-- Calls a member and reads the reply; one that `read` makes nothing of is an error. -/
def call {α : Type} (p : Peer) (member : String) (served : Reply) (read : Reply → Option α) :
    Peer × Response α :=
  if p.connected then
    let (p, r) := p.reply member served
    match r with
    | .error name text => (p, .failed (.remote name text))
    | .never => (p, .never)
    | r => match read r with
      | some a => (p, .value a)
      | none => (p, .failed .unexpectedReply)
  else (p, .failed .disconnected)

def readDict : Reply → Option (List (String × Bus.Value))
  | .dict entries => some entries
  | _ => none

def readVariant : Reply → Option Bus.Value
  | .variant v => some v
  | _ => none

def readText : Reply → Option String
  | .text s => some s
  | _ => none

def readObjects : Reply → Option (List (String × Interfaces))
  | .objects tree => some tree
  | _ => none

/-- The properties of an interface, as the peer serves them. -/
def serveAll (p : Peer) (path interface : String) : Reply :=
  match (p.objects.get? path).bind (·.get? interface) with
  | some entries => .dict entries
  | none => noObject

def serveOne (p : Peer) (path interface name : String) : Reply :=
  match ((p.objects.get? path).bind (·.get? interface)).bind (·.lookup name) with
  | some v => .variant v
  | none => noProperty

/-- Reads all properties of an interface. -/
def getAll (p : Peer) (path interface : String) : Peer × Response (List (String × Bus.Value)) :=
  p.call "GetAll" (p.serveAll path interface) readDict

/-- Reads all properties the way of the older generation. -/
def getProperties (p : Peer) (path interface : String) :
    Peer × Response (List (String × Bus.Value)) :=
  p.call "GetProperties" (p.serveAll path interface) readDict

/-- Reads one property. -/
def get (p : Peer) (path interface name : String) : Peer × Response Bus.Value :=
  p.call "Get" (p.serveOne path interface name) readVariant

/-- Lists all objects. -/
def managedObjects (p : Peer) : Peer × Response (List (String × Interfaces)) :=
  p.call "GetManagedObjects" (.objects p.objects.entries) readObjects

/-- Opens a session; the reply names the local interface. -/
def connect (p : Peer) : Peer × Response String := p.call "Connect" (.text "bnep0") readText

/-- Closes a session, whatever the reply holds. -/
def disconnect (p : Peer) : Peer × Response Unit := p.call "Disconnect" .empty fun _ => some ()

end Peer

end Piconet
