import Piconet.Address

/-!
# Where fresh identifiers come from

A device that submits a profile gives it a UUID that was never seen before. How such a UUID comes about
is no matter of the devices: a `Naming` has one for every submission, told apart by the address of the
device and the number of the submission for it, and any run of random UUIDs without repetition is one of
a naming. `Naming.byAddress` writes the address and the number.
-/

namespace Piconet

/-! ## Digits -/

namespace Text

/-- Digits of different values are different. -/
theorem hexDigit_injective : ∀ m < 16, ∀ n < 16, hexDigit m = hexDigit n → m = n := by
  decide

/-- Two digits spell one byte only. -/
theorem hexByte_injective {a b : UInt8} (same : hexByte a = hexByte b) : a = b := by
  obtain ⟨high, low⟩ : hexDigit (a.toNat / 16) = hexDigit (b.toNat / 16) ∧
      hexDigit (a.toNat % 16) = hexDigit (b.toNat % 16) := by
    simpa [hexByte] using same
  have bound (c : UInt8) : c.toNat / 16 < 16 := Nat.div_lt_of_lt_mul c.toNat_lt
  have high := hexDigit_injective _ (bound a) _ (bound b) high
  have low := hexDigit_injective _ (Nat.mod_lt _ (by decide)) _ (Nat.mod_lt _ (by decide)) low
  exact UInt8.toNat_inj.1 (by omega)

end Text

namespace HwAddress

/-- An address is spelled byte by byte. -/
theorem toList_compact (a : HwAddress) : a.compact.toList = a.toList.flatMap Text.hexByte :=
  String.toList_ofList

/-- There are twelve digits in it. -/
theorem length_compact (a : HwAddress) : a.compact.toList.length = 12 := by
  rw [toList_compact]
  rfl

/-- An address can be told from its twelve digits. -/
theorem compact_injective {a b : HwAddress} (same : a.compact = b.compact) : a = b := by
  have digits : a.toList.flatMap Text.hexByte = b.toList.flatMap Text.hexByte := by
    rw [← toList_compact, ← toList_compact, same]
  have six {x y : UInt8} {xs ys : List Char} (h : Text.hexByte x ++ xs = Text.hexByte y ++ ys) :
      x = y ∧ xs = ys := by
    obtain ⟨byte, rest⟩ := List.append_inj h rfl
    exact ⟨Text.hexByte_injective byte, rest⟩
  simp only [toList, List.flatMap_cons] at digits
  obtain ⟨h1, digits⟩ := six digits
  obtain ⟨h2, digits⟩ := six digits
  obtain ⟨h3, digits⟩ := six digits
  obtain ⟨h4, digits⟩ := six digits
  obtain ⟨h5, digits⟩ := six digits
  obtain ⟨h6, -⟩ := six digits
  exact toList_injective (by rw [toList, toList, h1, h2, h3, h4, h5, h6])

end HwAddress

/-! ## Namings -/

/-- A source of fresh UUIDs: what the n-th profile that is submitted for an address gets. -/
structure Naming where
  uuid : HwAddress → Nat → String
  /-- profiles that are submitted at different times, or for different addresses, are told apart -/
  injective : ∀ {a b m n}, uuid a m = uuid b n → a = b ∧ m = n

/-- The naming that writes the address and the number of the submission. -/
def Naming.byAddress : Naming where
  uuid a n := "prov:" ++ a.compact ++ ":" ++ toString n
  injective {a b m n} same := by
    have texts := congrArg String.toList same
    simp only [String.toList_append, List.append_assoc, List.append_cancel_left_eq] at texts
    obtain ⟨address, rest⟩ := List.append_inj texts (by rw [HwAddress.length_compact, HwAddress.length_compact])
    have number (k : Nat) : Nat.ofDigitChars 10 (toString k).toList 0 = k := by
      rw [show (toString k).toList = Nat.toDigits 10 k from String.toList_ofList]
      exact Nat.ofDigitChars_ten_toDigits
    refine ⟨HwAddress.compact_injective (String.toList_inj.1 address), ?_⟩
    rw [← number m, ← number n, List.append_cancel_left rest]

/-- What it writes starts with its mark. -/
theorem Naming.head?_byAddress (a : HwAddress) (n : Nat) : (byAddress.uuid a n).toList.head? = some 'p' := by
  simp [byAddress]

end Piconet
