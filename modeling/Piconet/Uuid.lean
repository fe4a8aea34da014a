import Piconet.Text.Hex

/-!
# Random identifiers

A version 4 UUID carries 122 random bits, written as 32 lower-case digits in groups of 8, 4, 4, 4
and 12.
-/

namespace Piconet.Uuid

/-- The sixteen bytes of two words, high byte first. -/
def bytesOf (high low : UInt64) : List UInt8 :=
  let bytes (w : UInt64) := (List.range 8).map fun i => (w >>> (56 - 8 * UInt64.ofNat i)).toUInt8
  bytes high ++ bytes low

/-- The identifier made of the given random words, with the bits of version and variant set. -/
def random (high low : UInt64) : String :=
  let digits := (bytesOf ((high &&& 0xFFFFFFFFFFFF0FFF) ||| 0x4000)
    ((low &&& 0x3FFFFFFFFFFFFFFF) ||| 0x8000000000000000)).flatMap Text.hexByte
  let group (start len : Nat) := (digits.drop start).take len
  String.ofList (group 0 8 ++ '-' :: group 8 4 ++ '-' :: group 12 4 ++ '-' :: group 16 4
    ++ '-' :: group 20 12)

/-- Whether a text is a lower-case version 4 UUID. -/
def isRandom (text : String) : Bool :=
  let digit (c : Char) := ('0' ≤ c && c ≤ '9') || ('a' ≤ c && c ≤ 'f')
  let cs := text.toList
  cs.length == 36 && (cs.zipIdx.all fun (c, i) =>
    if i = 8 || i = 13 || i = 18 || i = 23 then c == '-'
    else if i = 14 then c == '4'
    else if i = 19 then c == '8' || c == '9' || c == 'a' || c == 'b'
    else digit c)

end Piconet.Uuid
