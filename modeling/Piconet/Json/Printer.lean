import Piconet.Json.Basic
import Piconet.Text.Hex

/-!
# Writing JSON

Documents are written without blanks. In a string the quote, the backslash and the control
characters below a blank are escaped, all other characters stand for themselves.
-/

namespace Piconet.Json

/-- How a character is written inside a string literal. -/
def writeChar (c : Char) : List Char :=
  if c = '"' then ['\\', '"']
  else if c = '\\' then ['\\', '\\']
  else if c = '\x08' then ['\\', 'b']
  else if c = '\x0c' then ['\\', 'f']
  else if c = '\n' then ['\\', 'n']
  else if c = '\r' then ['\\', 'r']
  else if c = '\t' then ['\\', 't']
  else if c.toNat < 0x20 then ['\\', 'u', '0', '0'] ++ Text.hexByte (UInt8.ofNat c.toNat)
  else [c]

/-- A string between quotation marks, with what has to be escaped in it. -/
def writeString (s : String) : List Char := '"' :: s.toList.flatMap writeChar ++ ['"']

def writeBool (b : Bool) : List Char := if b then "true".toList else "false".toList

/-- A number in decimal digits. -/
def writeNat (n : Nat) : List Char := Nat.toDigits 10 n

/-- Items with commas between them. -/
def separate : List (List Char) → List Char
  | [] => []
  | [item] => item
  | item :: next :: items => item ++ ',' :: separate (next :: items)

/-- The items between brackets, with commas. -/
def writeArray (items : List (List Char)) : List Char := '[' :: separate items ++ [']']

/-- An object from names and written values. -/
def writeObject (members : List (String × List Char)) : List Char :=
  '{' :: separate (members.map fun (name, value) => writeString name ++ ':' :: value) ++ ['}']

end Piconet.Json
