import Piconet.Capability

/-!
# Events

What a device tells those who listen to it. `Changes` is the set of properties that one update
touched; the events of an update come in the order of its fields.
-/

namespace Piconet

/-- A notice to those who listen to a device. Each but the first carries the new value. -/
inductive Event where
  /-- discovery ended, with or without success -/
  | initialized (success : Bool)
  | address (text : String)
  | name (text : Option String)
  | rssi (level : Int16)
  | capabilities (caps : Capabilities)
  | connected (up : Bool)
  | usable (usable : Bool)
  deriving DecidableEq, Repr

/-- A property that events report. -/
inductive Property where
  | address
  | name
  | rssi
  | capabilities
  | connected
  | usable
  deriving DecidableEq, Repr

/-- All properties, in the order of their events. -/
def Property.all : List Property := [.address, .name, .rssi, .capabilities, .connected, .usable]

/-- A set of properties. -/
structure Changes where
  address : Bool := false
  name : Bool := false
  rssi : Bool := false
  capabilities : Bool := false
  connected : Bool := false
  usable : Bool := false
  deriving DecidableEq, Repr, Inhabited

namespace Changes

/-- Whether the property is in the set. -/
def has (c : Changes) : Property → Bool
  | .address => c.address
  | .name => c.name
  | .rssi => c.rssi
  | .capabilities => c.capabilities
  | .connected => c.connected
  | .usable => c.usable

def ofList (ps : List Property) : Changes where
  address := ps.contains .address
  name := ps.contains .name
  rssi := ps.contains .rssi
  capabilities := ps.contains .capabilities
  connected := ps.contains .connected
  usable := ps.contains .usable

/-- The members, in the order of their events. -/
def toList (c : Changes) : List Property := Property.all.filter c.has

theorem ofList_toList (c : Changes) : ofList c.toList = c := by
  rcases c with ⟨_ | _, _ | _, _ | _, _ | _, _ | _, _ | _⟩ <;> rfl

/-- A property that settles which profiles match has changed. -/
def identity (c : Changes) : Bool := c.address || c.capabilities

end Changes

end Piconet
