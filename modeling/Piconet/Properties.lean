import Piconet.Bus.Value

/-!
# Property batches

A remote device announces its properties in batches: all of them when it is first read, later the
ones that changed. `PropertyBatch.ofEntries` reads a batch from named bus values; an unknown name,
or a value of the wrong type, adds nothing.
-/

namespace Piconet

/-- The properties that one announcement carries. -/
structure PropertyBatch where
  address : Option String := none
  name : Option String := none
  rssi : Option Int16 := none
  uuids : Option (List String) := none
  connected : Option Bool := none
  /-- the path of the adapter that owns the device -/
  adapter : Option String := none
  deriving DecidableEq, Repr, Inhabited

namespace PropertyBatch

/-- The batch that carries nothing. -/
def empty : PropertyBatch := {}

/-- Nothing has changed. -/
def isEmpty (b : PropertyBatch) : Bool :=
  b.address.isNone && b.name.isNone && b.rssi.isNone && b.uuids.isNone && b.connected.isNone
    && b.adapter.isNone

/-- What a batch says, and what an earlier one says of the rest. -/
def atop (b a : PropertyBatch) : PropertyBatch where
  address := b.address.or a.address
  name := b.name.or a.name
  rssi := b.rssi.or a.rssi
  uuids := b.uuids.or a.uuids
  connected := b.connected.or a.connected
  adapter := b.adapter.or a.adapter

/-- Adds one property, given by its name on the bus and a value outside of any variant. -/
def record (b : PropertyBatch) (name : String) : Bus.Value → PropertyBatch
  | .string s =>
    if name = "Address" then { b with address := some s }
    else if name = "Name" then { b with name := some s }
    else b
  | .int16 n => if name = "RSSI" then { b with rssi := some n } else b
  | .array _ items | .rows items =>
    if name = "UUIDs" then { b with uuids := some (items.filterMap Bus.Value.text?) } else b
  | .bool c => if name = "Connected" then { b with connected := some c } else b
  | .objectPath p => if name = "Adapter" then { b with adapter := some p } else b
  | _ => b

/-- Adds one property, given by its name on the bus and its value in any number of variants. -/
def add (b : PropertyBatch) (name : String) (value : Bus.Value) : PropertyBatch :=
  b.record name value.unwrap

/-- The batch that named values make up, a later value of a name before an earlier one. -/
def ofEntries (entries : List (String × Bus.Value)) : PropertyBatch :=
  entries.foldl (fun b e => b.add e.1 e.2) empty

/-- Batches are put together in any grouping. -/
theorem atop_assoc (c b a : PropertyBatch) : (c.atop b).atop a = c.atop (b.atop a) := by
  simp [atop, Option.or_assoc]

/-- An empty batch is no news. -/
theorem empty_atop (b : PropertyBatch) : empty.atop b = b := by simp [atop, empty]

/-- Nothing is lost beneath it either. -/
theorem atop_empty (b : PropertyBatch) : b.atop empty = b := by simp [atop, empty]

/-- No entries make an empty batch. -/
theorem ofEntries_nil : ofEntries [] = empty := rfl

/-- The last entry is read last, and stands over those before it. -/
theorem ofEntries_append_singleton (entries : List (String × Bus.Value)) (name : String)
    (value : Bus.Value) : ofEntries (entries ++ [(name, value)]) = (ofEntries entries).add name value := by
  simp [ofEntries]

/-- A value may be wrapped in a variant. -/
theorem add_variant (b : PropertyBatch) (name : String) (value : Bus.Value) :
    b.add name (.variant value) = b.add name value := by
  rw [add, add, Bus.Value.unwrap_variant]

theorem isEmpty_iff (b : PropertyBatch) : b.isEmpty = true ↔ b = empty := by
  rcases b with ⟨_ | _, _ | _, _ | _, _ | _, _ | _, _ | _⟩ <;> simp [isEmpty, empty]

end PropertyBatch

end Piconet
