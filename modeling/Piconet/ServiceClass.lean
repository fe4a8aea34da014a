import Piconet.Generation
import Piconet.Text.Hex

/-!
# Service classes

A device lists its services as UUIDs. The text before the first dash is the class of the service,
an unsigned 64-bit hexadecimal number; `capabilitiesOf` collects what the classes of a list add up
to.
-/

namespace Piconet

/-- Service classes are below this number. -/
def serviceClassLimit : Nat := 0x10000000000000000

/-- The digits of a numeral, behind one plus sign at most. -/
def unsigned : List Char → List Char
  | '+' :: digits => digits
  | digits => digits

/-- The class of a service: the number before the first dash. -/
def serviceClass? (uuid : String) : Option Nat :=
  (Text.hexValue? (unsigned (uuid.toList.takeWhile (· ≠ '-')))).filter (· < serviceClassLimit)

namespace Generation

/-- What one service adds to a device's capabilities. -/
def capabilitiesOfService (g : Generation) (uuid : String) : Capabilities :=
  match serviceClass? uuid with
  | some c => g.capabilitiesOfClass c
  | none => .empty

/-- What a list of services adds up to. -/
def capabilitiesOf (g : Generation) (uuids : List String) : Capabilities :=
  uuids.foldl (fun caps uuid => caps ∪ g.capabilitiesOfService uuid) .empty

end Generation

end Piconet
