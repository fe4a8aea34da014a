import Piconet.Role

/-!
# The record of a network session

A device runs at most one session, and at most one call that opens or closes it is on its way.
-/

namespace Piconet

/-- A call that is on its way. -/
inductive SessionCall where
  | connect
  | disconnect
  deriving DecidableEq, Repr

/-- What a device remembers of its session. -/
structure Session where
  /-- the role of the session, from the moment the opening call is made -/
  role : Option Role := none
  inFlight : Option SessionCall := none
  /-- the local interface that the opening call returned -/
  interface : Option String := none
  deriving DecidableEq, Repr, Inhabited

/-- Nothing is open and nothing on its way. -/
def Session.idle : Session := {}

end Piconet
