/-!
# Networking capabilities

What a remote device offers: dial-up networking (`dun`) and a network access point (`nap`). On the
wire a set is a word with bit 0 for the first and bit 1 for the second; the bits above carry no
meaning here and are kept as they came.
-/

namespace Piconet

/-- A set of networking capabilities. -/
structure Capabilities where
  dun : Bool := false
  nap : Bool := false
  /-- the bits of the word above the two known ones -/
  reserved : Nat := 0
  deriving DecidableEq, Repr, Inhabited

namespace Capabilities

/-- No capability. -/
def empty : Capabilities := {}

/-- Dial-up networking (DUN): bit 0 of the word. -/
def dialUp : Capabilities := { dun := true }

/-- Network access point (NAP): bit 1 of the word. -/
def accessPoint : Capabilities := { nap := true }

/-- Bit 0 and bit 1 are the known capabilities; the bits above are kept as they are. -/
def ofBits (bits : Nat) : Capabilities :=
  { dun := bits % 2 = 1, nap := bits / 2 % 2 = 1, reserved := bits / 4 }

/-- The word of a set of capabilities. -/
def toBits (c : Capabilities) : Nat := c.dun.toNat + 2 * c.nap.toNat + 4 * c.reserved

instance : Union Capabilities where
  union a b := ⟨a.dun || b.dun, a.nap || b.nap, a.reserved ||| b.reserved⟩

/-- Not a single bit is set, known or not. -/
def isEmpty (c : Capabilities) : Bool := !c.dun && !c.nap && c.reserved == 0

/-- Only known bits are set. -/
def isKnown (c : Capabilities) : Bool := c.reserved == 0

/-- The known bits alone. -/
def truncate (c : Capabilities) : Capabilities := { c with reserved := 0 }

/-- The set in words, the access point first. -/
def describe (c : Capabilities) : String :=
  match c.nap, c.dun with
  | true, true => "NAP | DUN"
  | true, false => "NAP"
  | false, true => "DUN"
  | false, false => "none"

/-- A word is read back as it was written. -/
theorem ofBits_toBits (c : Capabilities) : ofBits c.toBits = c := by
  rcases c with ⟨_ | _, _ | _, r⟩ <;>
    simp only [ofBits, toBits, Bool.toNat_true, Bool.toNat_false, mk.injEq]
  all_goals
    refine ⟨?_, ?_, by omega⟩
    all_goals first
      | exact decide_eq_true (by omega)
      | exact decide_eq_false (by omega)

/-- No bit of a word is lost. -/
theorem toBits_ofBits (n : Nat) : (ofBits n).toBits = n := by
  have h1 : (decide (n % 2 = 1)).toNat = n % 2 := by
    rcases Nat.mod_two_eq_zero_or_one n with h | h <;> simp [h]
  have h2 : (decide (n / 2 % 2 = 1)).toNat = n / 2 % 2 := by
    rcases Nat.mod_two_eq_zero_or_one (n / 2) with h | h <;> simp [h]
  simp only [ofBits, toBits, h1, h2]
  omega

/-- A union offers DUN when one of both does. -/
theorem union_dun (a b : Capabilities) : (a ∪ b).dun = (a.dun || b.dun) := rfl

/-- It offers NAP when one of both does. -/
theorem union_nap (a b : Capabilities) : (a ∪ b).nap = (a.nap || b.nap) := rfl

/-- The unknown bits are united bit by bit. -/
theorem union_reserved (a b : Capabilities) : (a ∪ b).reserved = a.reserved ||| b.reserved := rfl

end Capabilities

end Piconet
