/-!
# Deadlines of session calls
-/

namespace Piconet

/-- How long a session call may take, in milliseconds. -/
structure Timeouts where
  connect : Nat := 20000
  disconnect : Nat := 10000
  deriving DecidableEq, Repr, Inhabited

end Piconet
