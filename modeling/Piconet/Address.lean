import Piconet.Text.Fields
import Piconet.Text.Hex

/-!
# Hardware addresses

A Bluetooth device is identified by six bytes, written as six groups of one or two hexadecimal
digits with single colons between them (`0:1a:7D:da:71:13`). `KnownAddress` keeps such a text
together with its bytes.
-/

namespace Piconet

/-- The six bytes of a hardware address. -/
structure HwAddress where
  b1 : UInt8
  b2 : UInt8
  b3 : UInt8
  b4 : UInt8
  b5 : UInt8
  b6 : UInt8
  deriving DecidableEq, Repr, Inhabited

namespace HwAddress

/-- The address whose bytes are all zero. -/
def zero : HwAddress := ⟨0, 0, 0, 0, 0, 0⟩

def toList (a : HwAddress) : List UInt8 := [a.b1, a.b2, a.b3, a.b4, a.b5, a.b6]

/-- The byte a group of one or two hexadecimal digits stands for. -/
def octet? : List Char → Option UInt8
  | [c] => (Text.hexDigit? c).map UInt8.ofNat
  | [c, d] => (Text.hexDigit? c).bind fun h => (Text.hexDigit? d).map fun l => UInt8.ofNat (16 * h + l)
  | _ => none

/-- Reads exactly six groups joined by single colons. -/
def parse? (text : String) : Option HwAddress :=
  match Text.fields ':' text.toList with
  | [g1, g2, g3, g4, g5, g6] => do
    return ⟨← octet? g1, ← octet? g2, ← octet? g3, ← octet? g4, ← octet? g5, ← octet? g6⟩
  | _ => none

/-- The twelve lower-case digits of the address, without separators. -/
def compact (a : HwAddress) : String := String.ofList (a.toList.flatMap Text.hexByte)

theorem toList_length (a : HwAddress) : a.toList.length = 6 := rfl

theorem toList_injective {a b : HwAddress} (h : a.toList = b.toList) : a = b := by
  cases a; cases b; simpa [toList] using h

end HwAddress

/-- An address as it was announced, with the bytes it stands for. -/
structure KnownAddress where
  text : String
  bytes : HwAddress
  /-- the bytes are those of the text -/
  parsed : HwAddress.parse? text = some bytes
  deriving DecidableEq

namespace KnownAddress

/-- The address a text stands for, if it is one. -/
def ofText? (text : String) : Option KnownAddress :=
  match h : HwAddress.parse? text with
  | some bytes => some ⟨text, bytes, h⟩
  | none => none

theorem text_of_ofText? {text : String} {a : KnownAddress} (h : ofText? text = some a) :
    a.text = text := by
  unfold ofText? at h
  split at h
  · cases h; rfl
  · cases h

theorem ofText?_isSome (text : String) :
    (ofText? text).isSome = (HwAddress.parse? text).isSome := by
  unfold ofText?
  split <;> simp_all

end KnownAddress

end Piconet
