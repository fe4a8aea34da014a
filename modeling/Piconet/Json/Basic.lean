/-!
# JSON documents

A document keeps the order and the repetitions of object members, and numbers as they are written.
A string literal with an escape that stands for no character is broken: a reader may skip it but not
use it. As a value it is `broken`, as a name it is none.
-/

namespace Piconet.Json

/-- A number as it is written. -/
structure Number where
  negative : Bool
  /-- the digits in front of the point -/
  digits : List Char
  /-- there is no fraction and no exponent -/
  integral : Bool
  deriving DecidableEq, Repr

/-- A JSON document. -/
inductive Document where
  | null
  | bool (b : Bool)
  | number (n : Number)
  | string (s : String)
  | broken
  | array (items : List Document)
  | object (members : List (Option String × Document))
  deriving Inhabited

/-- The number that digits stand for. -/
def decimal (digits : List Char) : Nat :=
  digits.foldl (fun n c => 10 * n + (c.toNat - '0'.toNat)) 0

end Piconet.Json
