import BookRelay.Json.Reader
import BookRelay.Json.Mismatch

/-!
# Typed reads from a JSON value

Reading a typed record out of a parsed value. An integer field takes a JSON integer in its
range; a string field a JSON string. A record is read from an object: its members are visited
in key order and the first member whose value has the wrong shape is reported; then the first
required field that is absent, in the record's own field order. A record may also be read from
an array, one item per field in field order.
-/

namespace BookRelay.Json

/-- What a value looks like to a decoder that did not expect it. -/
def Value.found : Value → Found
  | .null => .null
  | .bool b => .bool b
  | .number (.nat n) => .unsigned n
  | .number (.negative i) => .signed i
  | .number (.float x) => .float x .json
  | .string s => .str s
  | .array _ => .seq
  | .object _ => .map

/-- A failure while decoding a value: its text, without a position. -/
def Mismatch.toError (m : Mismatch) : Error := ⟨.data, m.message⟩

namespace Decode

/-- An unsigned 64-bit integer. -/
def u64 : Value → Except Mismatch Nat
  | .number (.nat n) => .ok n
  | .number (.negative i) => .error (.invalidValue (.signed i) "u64")
  | v => .error (.invalidType v.found "u64")

/-- A signed 64-bit integer. -/
def i64 : Value → Except Mismatch Int
  | .number (.nat n) =>
    if n < Nat.pow 2 63 then .ok n else .error (.invalidValue (.unsigned n) "i64")
  | .number (.negative i) => .ok i
  | v => .error (.invalidType v.found "i64")

def string : Value → Except Mismatch String
  | .string s => .ok s
  | v => .error (.invalidType v.found "a string")

/-- A field of a record: its name, whether it may be absent, and the check of its value. -/
structure Field where
  name : String
  optional : Bool
  check : Value → Option Mismatch

/-- A field read by a decoder; absent fields may be optional. -/
def field {α : Type} (name : String) (optional : Bool) (decode : Value → Except Mismatch α) :
    Field :=
  ⟨name, optional, fun v => match decode v with | .ok _ => none | .error m => some m⟩

/-- The first failure of a record read from object members. -/
def checkMembers (fields : List Field) (members : List (String × Value)) : Option Mismatch :=
  match members.findSome? fun (k, v) => (fields.find? (·.name == k)).bind (·.check v) with
  | some m => some m
  | none =>
    (fields.find? fun f => !f.optional && (members.lookup f.name).isNone).map
      fun f => .missingField f.name

/-- The first failure of a record read from array items, one per field. -/
def checkItems (record : String) (fields : List Field) (items : List Value) : Option Mismatch :=
  let required := fields.length
  let rec go : Nat → List Field → List Value → Option Mismatch
    | _, [], [] => none
    | _, [], _ => some (.invalidLength items.length "fewer elements in array")
    | i, f :: fs, [] =>
      if f.optional then go (i + 1) fs []
      else some (.invalidLength i (record ++ " with " ++ toString required ++
        (if required == 1 then " element" else " elements")))
    | i, f :: fs, v :: vs =>
      match f.check v with
      | some m => some m
      | none => go (i + 1) fs vs
  go 0 fields items

/-- The first failure of reading a record named `record` from a value. -/
def checkRecord (record : String) (fields : List Field) : Value → Option Mismatch
  | .object members => checkMembers fields members
  | .array items => checkItems record fields items
  | v => some (.invalidType v.found record)

/-- The value of a field of a record that passed its check: by name from an object, by place
from an array. -/
def member (fields : List Field) (name : String) : Value → Option Value
  | .object members => members.lookup name
  | .array items =>
    match fields.findIdx? (·.name == name) with
    | some i => items[i]?
    | none => none
  | _ => none

end Decode

end BookRelay.Json
