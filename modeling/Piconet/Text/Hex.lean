/-!
# Hexadecimal digits

Digits of either case, numerals of any length, and the two-digit lower-case form of a byte.
-/

namespace Piconet.Text

/-- The value of an ASCII hexadecimal digit of either case. -/
def hexDigit? (c : Char) : Option Nat :=
  if '0' ≤ c ∧ c ≤ '9' then some (c.toNat - '0'.toNat)
  else if 'a' ≤ c ∧ c ≤ 'f' then some (c.toNat - 'a'.toNat + 10)
  else if 'A' ≤ c ∧ c ≤ 'F' then some (c.toNat - 'A'.toNat + 10)
  else none

/-- The value of a numeral that continues one of value `acc`; every character must be a digit. -/
def hexFrom (acc : Nat) : List Char → Option Nat
  | [] => some acc
  | c :: cs => (hexDigit? c).bind fun d => hexFrom (16 * acc + d) cs

/-- The value of a numeral of one or more digits. -/
def hexValue? : List Char → Option Nat
  | [] => none
  | cs => hexFrom 0 cs

/-- The lower-case digit of a value below sixteen. -/
def hexDigit (n : Nat) : Char :=
  if n < 10 then Char.ofNat ('0'.toNat + n) else Char.ofNat ('a'.toNat + (n - 10))

/-- The two lower-case digits of a byte. -/
def hexByte (b : UInt8) : List Char := [hexDigit (b.toNat / 16), hexDigit (b.toNat % 16)]

theorem hexDigit?_lt {c : Char} {d : Nat} (h : hexDigit? c = some d) : d < 16 := by
  unfold hexDigit? at h
  split at h
  · next hc =>
    have : c.toNat ≤ '9'.toNat := hc.2
    simp only [Option.some.injEq] at h
    have h9 : '9'.toNat = 57 := rfl
    have h0 : '0'.toNat = 48 := rfl
    omega
  · split at h
    · next hc =>
      have : c.toNat ≤ 'f'.toNat := hc.2
      simp only [Option.some.injEq] at h
      have h9 : 'f'.toNat = 102 := rfl
      have h0 : 'a'.toNat = 97 := rfl
      omega
    · split at h
      · next hc =>
        have : c.toNat ≤ 'F'.toNat := hc.2
        simp only [Option.some.injEq] at h
        have h9 : 'F'.toNat = 70 := rfl
        have h0 : 'A'.toNat = 65 := rfl
        omega
      · simp at h

end Piconet.Text
