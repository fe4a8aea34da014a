import Piconet.Generation
import Piconet.Json.Printer
import Piconet.Json.Reader
import Piconet.Profile

/-!
# Profiles as JSON

Records are written as objects with their fields in declaration order. They are read from objects
in any order, where an unknown member is skipped and a repeated one refused, or from arrays of all
fields in order. Only the `bluetooth` field of a profile may be absent or null. An enumeration is
written as its name, and read from its name or from an object that maps the name to null.
-/

namespace Piconet.Json

/-- Reads a value from a document. -/
abbrev Decoder (α : Type) := Document → Option α

/-- A JSON string. -/
def decodeString : Decoder String
  | .string s => some s
  | _ => none

/-- A JSON truth value. -/
def decodeBool : Decoder Bool
  | .bool b => some b
  | _ => none

/-- A byte is written as a plain integer. -/
def decodeByte : Decoder UInt8
  | .number n =>
    if n.integral && !n.negative && decimal n.digits < 256 then
      some (UInt8.ofNat (decimal n.digits))
    else none
  | _ => none

/-- A JSON array, all of whose items can be read. -/
def decodeList {α : Type} (item : Decoder α) : Decoder (List α)
  | .array items => items.mapM item
  | _ => none

/-- Null stands for nothing. -/
def decodeOption {α : Type} (value : Decoder α) : Decoder (Option α)
  | .null => some none
  | j => (value j).map some

/-- The documents of the named fields: those of a record's members, which must all have names, or
the items of an array. -/
def recordFields (names : List String) : Document → Option (List (Option Document))
  | .object members =>
    if members.all (·.1.isSome) then
      names.mapM fun name =>
        match members.filter (·.1 = some name) with
        | [] => some none
        | [m] => some (some m.2)
        | _ => none
    else none
  | .array items => if items.length = names.length then some (items.map some) else none
  | _ => none

/-- A field that must be there. -/
def required {α : Type} (decode : Decoder α) (field : Option Document) : Option α := field.bind decode

/-- A field that may be absent. -/
def optional {α : Type} (decode : Decoder α) : Option Document → Option (Option α)
  | none => some none
  | some j => decodeOption decode j

/-- One of the named values. -/
def decodeName {α : Type} (names : List (String × α)) : Decoder α
  | .string s => names.lookup s
  | .object [(some s, .null)] => names.lookup s
  | _ => none

end Piconet.Json

namespace Piconet

open Json

/-- The value that a text stands for, as some decoder sees it. -/
def Json.readWith? {α : Type} (decode : Decoder α) (text : String) : Option α :=
  (Document.read? text).bind decode

namespace IpSettings

def ofJson : Decoder IpSettings := fun j => do
  match ← recordFields ["method", "may_fail"] j with
  | [method, mayFail] => return ⟨← required decodeString method, ← required decodeBool mayFail⟩
  | _ => none

def writeJson (ip : IpSettings) : List Char :=
  writeObject [("method", writeString ip.method), ("may_fail", writeBool ip.mayFail)]

end IpSettings

namespace BluetoothSettings

def ofJson : Decoder BluetoothSettings := fun j => do
  match ← recordFields ["bdaddr", "bt_device_type"] j with
  | [bdaddr, deviceType] =>
    return ⟨← required (decodeList decodeByte) bdaddr, ← required decodeString deviceType⟩
  | _ => none

def writeJson (b : BluetoothSettings) : List Char :=
  writeObject [("bdaddr", writeArray (b.bdaddr.map fun n => writeNat n.toNat)),
    ("bt_device_type", writeString b.deviceType)]

end BluetoothSettings

namespace Profile

def ofJson : Decoder Profile := fun j => do
  match ← recordFields
    ["uuid", "id", "connection_type", "autoconnect", "bluetooth", "ipv4", "ipv6"] j with
  | [uuid, id, connectionType, autoconnect, bluetooth, ipv4, ipv6] =>
    return {
      uuid := ← required decodeString uuid
      id := ← required decodeString id
      connectionType := ← required decodeString connectionType
      autoconnect := ← required decodeBool autoconnect
      bluetooth := ← optional BluetoothSettings.ofJson bluetooth
      ipv4 := ← required IpSettings.ofJson ipv4
      ipv6 := ← required IpSettings.ofJson ipv6 }
  | _ => none

def writeJson (p : Profile) : List Char :=
  writeObject [("uuid", writeString p.uuid), ("id", writeString p.id),
    ("connection_type", writeString p.connectionType), ("autoconnect", writeBool p.autoconnect),
    ("bluetooth", p.bluetooth.elim "null".toList BluetoothSettings.writeJson),
    ("ipv4", p.ipv4.writeJson), ("ipv6", p.ipv6.writeJson)]

end Profile

namespace Role

/-- The name of a role in documents. -/
def name : Role → String
  | panu => "PanU"
  | dun => "Dun"

def ofJson : Decoder Role := decodeName [(name .panu, .panu), (name .dun, .dun)]

def writeJson (r : Role) : List Char := writeString r.name

end Role

namespace Generation

/-- The name of a generation in documents. -/
def name : Generation → String
  | bluez4 => "Bluez4"
  | bluez5 => "Bluez5"

def ofJson : Decoder Generation := decodeName [(name .bluez4, .bluez4), (name .bluez5, .bluez5)]

def writeJson (g : Generation) : List Char := writeString g.name

end Generation

end Piconet
