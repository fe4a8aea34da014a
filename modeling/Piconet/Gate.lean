import Piconet.Capability

/-!
# The usability gate

A device is usable once it is initialized, has capabilities, a name and an address, the bus and a
ready adapter are there, and some connection profile matches it. A device that lacks only the
profile and offers an access point may have one provisioned.
-/

namespace Piconet

/-- What the gate looks at. -/
structure Gate where
  initialized : Bool
  capabilities : Capabilities
  hasName : Bool
  busPresent : Bool
  hasAddress : Bool
  adapterReady : Bool
  /-- the number of matching profiles -/
  candidates : Nat
  deriving DecidableEq, Repr

namespace Gate

/-- The gate's answer. -/
inductive Decision where
  /-- the inputs settle it -/
  | decided (usable : Bool)
  /-- usable if a profile is, or can be, provisioned -/
  | provision
  deriving DecidableEq, Repr

/-- Everything but a profile is there. -/
def ready (g : Gate) : Bool :=
  g.initialized && !g.capabilities.isEmpty && g.hasName && g.busPresent && g.hasAddress
    && g.adapterReady

def decision (g : Gate) : Decision :=
  if !g.ready then .decided false
  else if 0 < g.candidates then .decided true
  else if g.capabilities.nap then .provision
  else .decided false

end Gate

end Piconet
