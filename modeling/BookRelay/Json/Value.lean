/-!
# JSON values

A JSON value as the feed handles it: integers keep their exact value while they fit 64 bits
(non-negative up to `2^64 - 1`, negative down to `-2^63`), every other number is a double, and
an object is a map whose members stay sorted by key, a later member replacing an earlier one
with the same key.
-/

namespace BookRelay.Json

/-- A JSON number: an unsigned integer, a negative integer, or a double. -/
inductive Number where
  | nat (n : Nat)
  | negative (i : Int)
  | float (x : Float)
  deriving Repr, BEq, Inhabited

/-- A JSON value. Object members are kept in key order without repeated keys. -/
inductive Value where
  | null
  | bool (b : Bool)
  | number (n : Number)
  | string (s : String)
  | array (items : List Value)
  | object (fields : List (String × Value))
  deriving Repr, BEq, Inhabited

namespace Value

/-- Put a member into a sorted member list, replacing the member with the same key. -/
def insertField (key : String) (v : Value) : List (String × Value) → List (String × Value)
  | [] => [(key, v)]
  | (k, w) :: rest =>
    if key < k then (key, v) :: (k, w) :: rest
    else if key == k then (key, v) :: rest
    else (k, w) :: insertField key v rest

/-- The map built from members in reading order: sorted, the last of equal keys kept. -/
def ofMembers (members : List (String × Value)) : Value :=
  .object (members.foldl (fun acc kv => insertField kv.1 kv.2 acc) [])

/-- The member of an object under `key`; `none` for a missing key or a value that is no object. -/
def get? (v : Value) (key : String) : Option Value :=
  match v with
  | .object fields => fields.lookup key
  | _ => none

def asString? : Value → Option String
  | .string s => some s
  | _ => none

def asArray? : Value → Option (List Value)
  | .array items => some items
  | _ => none

/-- A non-negative integer that fits 64 bits. -/
def ofNat (n : Nat) : Value := .number (.nat n)

def str (s : String) : Value := .string s

/-- An optional value, `null` when absent. -/
def ofOption {α : Type} (f : α → Value) : Option α → Value
  | some a => f a
  | none => .null

theorem get?_object (fields : List (String × Value)) (key : String) :
    (Value.object fields).get? key = fields.lookup key := rfl

end Value

end BookRelay.Json
