import Piconet.Address
import Piconet.Event
import Piconet.Gate
import Piconet.Properties
import Piconet.Registry
import Piconet.ServiceClass
import Piconet.Session
import Piconet.Timeouts

/-!
# Remote devices

A `Device` is what is known of one remote device: its announced properties, how far discovery has
come, the profiles that match it and its session. `Device.merge` takes in a batch of properties:
address and capabilities are kept once known, the other properties follow the latest value.
`Device.hear` is how the list of matching profiles follows the registry.
-/

namespace Piconet

/-- What is known of the adapter that owns a device. -/
inductive AdapterState where
  /-- the generation does not look at adapters -/
  | notRequired
  /-- not found yet -/
  | pending
  | resolved (powered : Bool)
  deriving DecidableEq, Repr

namespace AdapterState

/-- Nothing about the adapter stands in the way. -/
def ready : AdapterState → Bool
  | notRequired => true
  | pending => false
  | resolved powered => powered

/-- The state before discovery. -/
def initial (g : Generation) : AdapterState := if g.requiresAdapter then .pending else .notRequired

end AdapterState

/-- What is known of a remote device. -/
structure Device where
  path : String
  generation : Generation
  timeouts : Timeouts := {}
  address : Option KnownAddress := none
  name : Option String := none
  rssi : Int16 := 0
  capabilities : Capabilities := .empty
  /-- the link to the device is up -/
  connected : Bool := false
  /-- discovery was started -/
  started : Bool := false
  busPresent : Bool := false
  adapter : AdapterState := .initial generation
  /-- session calls can be made -/
  bound : Bool := false
  /-- discovery succeeded -/
  initialized : Bool := false
  /-- the end of discovery was announced -/
  reported : Bool := false
  usable : Bool := false
  /-- the UUIDs of matching profiles, the latest first -/
  candidates : List String := []
  /-- the profile this device submitted -/
  provisioned : Option String := none
  /-- this device made its one attempt to submit a profile -/
  attempted : Bool := false
  /-- a profile of this device is being submitted right now -/
  submitting : Bool := false
  session : Session := .idle
  deriving DecidableEq

namespace Device

/-- A device of which nothing is known but its path. -/
def fresh (path : String) (generation : Generation) (timeouts : Timeouts) : Device :=
  { path, generation, timeouts }

/-- The bytes of the address; zeros while there is none. -/
def binAddress (d : Device) : HwAddress :=
  match d.address with
  | some a => a.bytes
  | none => .zero

/-! ## Announced properties -/

/-- Takes an address, unless one is known. A text that is no address is ignored. -/
def offerAddress (d : Device) (text : Option String) : Device :=
  { d with address := d.address <|> text.bind KnownAddress.ofText? }

/-- Takes the capabilities of a list of services, unless some are known. -/
def offerServices (d : Device) (uuids : List String) : Device :=
  { d with capabilities :=
      if d.capabilities.isEmpty then d.generation.capabilitiesOf uuids else d.capabilities }

/-- Takes in what a batch says. The adapter it names is not for the device to keep. -/
def merge (d : Device) (b : PropertyBatch) : Device :=
  { d with
    address := (d.offerAddress b.address).address
    name := b.name <|> d.name
    rssi := b.rssi.getD d.rssi
    capabilities := (b.uuids.elim d d.offerServices).capabilities
    connected := b.connected.getD d.connected }

/-- The properties in which two states differ. -/
def changes (d e : Device) : Changes where
  address := d.address ≠ e.address
  name := d.name ≠ e.name
  rssi := d.rssi ≠ e.rssi
  capabilities := d.capabilities ≠ e.capabilities
  connected := d.connected ≠ e.connected
  usable := d.usable ≠ e.usable

/-- What a property's event carries now; there is none for an address not yet known. -/
def event? (d : Device) : Property → Option Event
  | .address => d.address.map fun a => .address a.text
  | .name => some (.name d.name)
  | .rssi => some (.rssi d.rssi)
  | .capabilities => some (.capabilities d.capabilities)
  | .connected => some (.connected d.connected)
  | .usable => some (.usable d.usable)

/-- The events that report the given properties. -/
def eventsFor (d : Device) (c : Changes) : List Event := c.toList.filterMap d.event?

/-! ## Matching profiles -/

/-- Whether a profile can bring up a connection with the device: a Bluetooth profile for its
address, in a role that it offers. -/
def accepts (d : Device) (p : Profile) : Bool :=
  p.connectionType = Profile.bluetoothType
    && d.address.isSome
    && p.bluetooth.any fun b =>
      b.bdaddr = d.binAddress.toList && (Role.ofSettingType? b.deviceType).any d.capabilities.serves

def tracks (d : Device) (uuid : String) : Bool := d.candidates.contains uuid

/-- Adds a profile as the latest match, unless it is one already. -/
def track (d : Device) (uuid : String) : Device :=
  if d.tracks uuid then d else { d with candidates := uuid :: d.candidates }

/-- Takes a profile off the matches. If it is the one this device submitted, it is so no longer. -/
def untrack (d : Device) (uuid : String) : Device :=
  if d.tracks uuid then
    { d with
      candidates := d.candidates.erase uuid
      provisioned := if d.provisioned = some uuid then none else d.provisioned }
  else d

/-- Adds a profile that is a new match. -/
def adopt? (d : Device) (p : Profile) : Option Device :=
  if d.accepts p && !d.tracks p.uuid then some (d.track p.uuid) else none

/-- Takes a profile off the matches, if it is one. -/
def forget? (d : Device) (p : Profile) : Option Device :=
  if d.tracks p.uuid then some (d.untrack p.uuid) else none

/-- Adds every match among the stored profiles. -/
def survey (d : Device) (stored : List Profile) : Device :=
  stored.foldl (fun d p => (d.adopt? p).getD d) d

/-- Follows a change of the registry, which now stores the given profiles. There is no answer if
the change does not concern the device. A device is deaf to additions while it submits a profile
of its own. -/
def hear (d : Device) (stored : List Profile) : Registry.Notice → Option Device
  | .added p => if d.submitting then none else d.adopt? p
  | .removed p => d.forget? p
  | .updated p => if d.accepts p then d.adopt? p else d.forget? p
  | .loaded => some (d.survey stored)

/-! ## Usability and provisioning -/

/-- What the gate sees of the device. -/
def gate (d : Device) : Gate where
  initialized := d.initialized
  capabilities := d.capabilities
  hasName := d.name.isSome
  busPresent := d.busPresent
  hasAddress := d.address.isSome
  adapterReady := d.adapter.ready
  candidates := d.candidates.length

/-- The name under which the device would submit a profile now, if it would: it offers an access
point, nothing matches it, it never tried before and the registry is complete. -/
def dueProfileName? (d : Device) (loaded : Bool) : Option String :=
  if d.attempted || d.provisioned.isSome || !d.candidates.isEmpty || !d.capabilities.nap || !loaded
  then none
  else d.name

end Device

end Piconet
