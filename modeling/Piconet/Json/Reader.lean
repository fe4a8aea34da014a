import Piconet.Json.Basic
import Piconet.Text.Hex

/-!
# Reading JSON

`Document.read?` accepts a text that is one document with blanks around it. Every reader takes the
characters in front of it and returns the rest; all recursion is on a fuel that the length of the
text provides.
-/

namespace Piconet.Json

/-- What a reader took and the characters behind. -/
abbrev Taken (α : Type) := α × List Char

/-- Blank, tab, line feed and carriage return may stand between the parts of a document. -/
def isBlank (c : Char) : Bool := c == ' ' || c == '\t' || c == '\n' || c == '\r'

def skipBlanks (cs : List Char) : List Char := cs.dropWhile isBlank

/-! ## Numbers -/

def isDigit (c : Char) : Bool := '0' ≤ c && c ≤ '9'

/-- One or more digits. -/
def readDigits (cs : List Char) : Option (Taken (List Char)) :=
  match cs.takeWhile isDigit with
  | [] => none
  | ds => some (ds, cs.dropWhile isDigit)

/-- A point with digits behind it, if there is a point; says whether there was one. -/
def readFraction : List Char → Option (Taken Bool)
  | '.' :: cs => (readDigits cs).map fun (_, rest) => (true, rest)
  | cs => some (false, cs)

/-- An exponent, if there is one; says whether there was. -/
def readExponent : List Char → Option (Taken Bool)
  | c :: cs =>
    if c = 'e' ∨ c = 'E' then
      let digits := match cs with
        | '+' :: r => r
        | '-' :: r => r
        | r => r
      (readDigits digits).map fun (_, rest) => (true, rest)
    else some (false, c :: cs)
  | [] => some (false, [])

/-- A number without its sign. A zero in front of further digits is refused. -/
def readMagnitude (negative : Bool) (cs : List Char) : Option (Taken Number) := do
  let (digits, cs) ← readDigits cs
  if digits.head? = some '0' ∧ digits.length ≠ 1 then none
  else
    let (point, cs) ← readFraction cs
    let (scaled, cs) ← readExponent cs
    return (⟨negative, digits, !point && !scaled⟩, cs)

def readNumber : List Char → Option (Taken Number)
  | '-' :: cs => readMagnitude true cs
  | cs => readMagnitude false cs

/-! ## Strings -/

/-- A character of a string literal: one that is meant, or half of a pair that lacks the other. -/
inductive Piece where
  | char (c : Char)
  | broken

/-- The unit that four hexadecimal digits stand for. -/
def readUnit : List Char → Option (Taken Nat)
  | a :: b :: c :: d :: cs => (Text.hexFrom 0 [a, b, c, d]).map fun u => (u, cs)
  | _ => none

def isHighSurrogate (u : Nat) : Bool := 0xD800 ≤ u && u < 0xDC00

def isLowSurrogate (u : Nat) : Bool := 0xDC00 ≤ u && u < 0xE000

/-- The character behind a backslash. A pair of surrogates is one character. -/
def readEscape : List Char → Option (Taken Piece)
  | '"' :: cs => some (.char '"', cs)
  | '\\' :: cs => some (.char '\\', cs)
  | '/' :: cs => some (.char '/', cs)
  | 'b' :: cs => some (.char '\x08', cs)
  | 'f' :: cs => some (.char '\x0c', cs)
  | 'n' :: cs => some (.char '\n', cs)
  | 'r' :: cs => some (.char '\r', cs)
  | 't' :: cs => some (.char '\t', cs)
  | 'u' :: cs => do
    let (u, cs) ← readUnit cs
    if isHighSurrogate u then
      match cs with
      | '\\' :: 'u' :: more =>
        let (l, rest) ← readUnit more
        if isLowSurrogate l then
          return (.char (Char.ofNat (0x10000 + (u - 0xD800) * 0x400 + (l - 0xDC00))), rest)
        else return (.broken, cs)
      | _ => return (.broken, cs)
    else if isLowSurrogate u then return (.broken, cs)
    else return (.char (Char.ofNat u), cs)
  | _ => none

/-- The rest of a string literal behind its opening quote, read backwards into `acc`. There is no
text if a piece is broken. -/
def readLiteral : Nat → Option (List Char) → List Char → Option (Taken (Option (List Char)))
  | 0, _, _ => none
  | fuel + 1, acc, cs =>
    match cs with
    | [] => none
    | '"' :: rest => some (acc, rest)
    | '\\' :: rest => do
      match ← readEscape rest with
      | (.char c, rest) => readLiteral fuel (acc.map (c :: ·)) rest
      | (.broken, rest) => readLiteral fuel none rest
    | c :: rest =>
      if c.toNat < 0x20 then none else readLiteral fuel (acc.map (c :: ·)) rest

/-- A string literal behind its opening quote. -/
def readString (cs : List Char) : Option (Taken (Option String)) :=
  (readLiteral (cs.length + 1) (some []) cs).map fun (text, rest) =>
    (text.map fun t => String.ofList t.reverse, rest)

/-! ## Documents -/

/-- The rest of a word whose characters are given. -/
def readWord (value : Document) : List Char → List Char → Option (Taken Document)
  | [], cs => some (value, cs)
  | w :: ws, c :: cs => if w = c then readWord value ws cs else none
  | _ :: _, [] => none

mutual

/-- One document, blanks in front of it allowed. -/
def readJson : Nat → List Char → Option (Taken Document)
  | 0, _ => none
  | fuel + 1, cs =>
    match skipBlanks cs with
    | [] => none
    | 'n' :: cs => readWord .null "ull".toList cs
    | 't' :: cs => readWord (.bool true) "rue".toList cs
    | 'f' :: cs => readWord (.bool false) "alse".toList cs
    | '"' :: cs => (readString cs).map fun (text, rest) => (text.elim .broken .string, rest)
    | '[' :: cs =>
      match skipBlanks cs with
      | ']' :: rest => some (.array [], rest)
      | cs => (readItems fuel cs).map fun (items, rest) => (.array items, rest)
    | '{' :: cs =>
      match skipBlanks cs with
      | '}' :: rest => some (.object [], rest)
      | cs => (readMembers fuel cs).map fun (members, rest) => (.object members, rest)
    | cs => (readNumber cs).map fun (n, rest) => (.number n, rest)

/-- The items of an array up to its closing bracket, one at least. -/
def readItems : Nat → List Char → Option (Taken (List Document))
  | 0, _ => none
  | fuel + 1, cs => do
    let (item, cs) ← readJson fuel cs
    match skipBlanks cs with
    | ',' :: cs =>
      let (items, rest) ← readItems fuel cs
      return (item :: items, rest)
    | ']' :: rest => return ([item], rest)
    | _ => none

/-- The members of an object up to its closing brace, one at least. -/
def readMembers : Nat → List Char → Option (Taken (List (Option String × Document)))
  | 0, _ => none
  | fuel + 1, cs => do
    match skipBlanks cs with
    | '"' :: cs =>
      let (name, cs) ← readString cs
      match skipBlanks cs with
      | ':' :: cs =>
        let (value, cs) ← readJson fuel cs
        match skipBlanks cs with
        | ',' :: cs =>
          let (members, rest) ← readMembers fuel cs
          return ((name, value) :: members, rest)
        | '}' :: rest => return ([(name, value)], rest)
        | _ => none
      | _ => none
    | _ => none

end

/-- Reads a text that is one document with blanks around it. -/
def Document.read? (text : String) : Option Document :=
  let cs := text.toList
  match readJson (2 * cs.length + 2) cs with
  | some (value, rest) => if (skipBlanks rest).isEmpty then some value else none
  | none => none

end Piconet.Json
