/-!
# Values on the bus

Most values on the bus are numbers, texts and variants, and arrays and dictionaries of these. They have
a type (`Value.ty?`): arrays state the type of their elements, a `variant` wraps any value, and a
dictionary maps names to variants. The others are no property's: open files, structures, maps of other
kinds, and arrays of all these. `Value.unwrap` takes a value out of all the variants around it.
-/

namespace Piconet.Bus

/-- The type of a value that is no file, structure or map and has none in an array. -/
inductive Ty where
  | byte
  | bool
  | int16
  | uint16
  | int32
  | uint32
  | int64
  | uint64
  | double
  | string
  | objectPath
  | signature
  | variant
  | array (element : Ty)
  /-- names to variants -/
  | dict
  deriving DecidableEq, Repr, Inhabited

/-- A value. -/
inductive Value where
  | byte (n : UInt8)
  | bool (b : Bool)
  | int16 (n : Int16)
  | uint16 (n : UInt16)
  | int32 (n : Int32)
  | uint32 (n : UInt32)
  | int64 (n : Int64)
  | uint64 (n : UInt64)
  | double (x : Float)
  | string (s : String)
  | objectPath (s : String)
  | signature (s : String)
  | variant (v : Value)
  | array (element : Ty) (items : List Value)
  | dict (entries : List (String × Value))
  /-- an open file, by its place among those that come along -/
  | file (index : UInt32)
  | struct (fields : List Value)
  /-- a dictionary from other keys than names, or to other values than variants -/
  | map (entries : List (Value × Value))
  /-- an array of files, structures or maps, or of arrays of these -/
  | rows (items : List Value)
  deriving Inhabited

namespace Value

/-- The type a value announces, if it has one of these. -/
def ty? : Value → Option Ty
  | byte _ => some .byte
  | bool _ => some .bool
  | int16 _ => some .int16
  | uint16 _ => some .uint16
  | int32 _ => some .int32
  | uint32 _ => some .uint32
  | int64 _ => some .int64
  | uint64 _ => some .uint64
  | double _ => some .double
  | string _ => some .string
  | objectPath _ => some .objectPath
  | signature _ => some .signature
  | variant _ => some .variant
  | array element _ => some (.array element)
  | dict _ => some .dict
  | file _ | struct _ | map _ | rows _ => none

/-- The value inside all the variants around it. -/
def unwrap : Value → Value
  | variant v => v.unwrap
  | v => v

/-- The text of a string value. -/
def text? : Value → Option String
  | string s => some s
  | _ => none

/-- The truth value of a boolean. -/
def flag? : Value → Option Bool
  | bool b => some b
  | _ => none

/-- The elements of an array, whatever it is an array of. -/
def items? : Value → Option (List Value)
  | array _ items | rows items => some items
  | _ => none

/-- An array of bytes. -/
def bytes (bs : List UInt8) : Value := array .byte (bs.map byte)

theorem unwrap_variant (v : Value) : (variant v).unwrap = v.unwrap := by rw [unwrap]

/-- What is left is no variant. -/
theorem ty?_unwrap_ne_variant (v : Value) : v.unwrap.ty? ≠ some .variant := by
  fun_induction unwrap v with
  | case1 v ih => exact ih
  | case2 v h => cases v <;> simp_all [ty?]

theorem unwrap_unwrap (v : Value) : v.unwrap.unwrap = v.unwrap := by
  fun_induction unwrap v with
  | case1 v ih => exact ih
  | case2 v h =>
    unfold unwrap
    split
    · next w => exact absurd rfl (h w)
    · rfl

end Value

end Piconet.Bus
