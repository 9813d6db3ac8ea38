import BookRelay.Json.Printer

/-!
# Order-book events

An event is a snapshot of the book, stamped with the last update it contains, or an
incremental update covering a range of update ids; either carries its JSON body untouched.
On the wire to the sink an event is the object `connector`, `type`, `data`, in that order,
where `type` is `1` for a snapshot and `2` for an incremental update.

`Sequence.position?` places a snapshot against an update: the update is already in the
snapshot (`after`), bridges it (`within`: its range reaches the id after the snapshot's), or
leaves a gap (`before`).
-/

namespace BookRelay.Feed

open BookRelay.Json

inductive Kind where
  | snapshot
  | incremental
  deriving Repr, BEq, DecidableEq

def Kind.wireCode : Kind → Nat
  | .snapshot => 1
  | .incremental => 2

def Kind.name : Kind → String
  | .snapshot => "snapshot"
  | .incremental => "incremental"

inductive Sequence where
  | snapshot (lastUpdateId : Nat)
  | incremental (firstUpdateId finalUpdateId : Nat)
  deriving Repr, BEq, DecidableEq

/-- Where a snapshot stands against an update. -/
inductive Position where
  | before
  | within
  | after
  deriving Repr, BEq, DecidableEq

def Position.name : Position → String
  | .before => "Before"
  | .within => "Within"
  | .after => "After"

/-- The largest update id, `2^64 - 1`; ids do not pass it. -/
def maxUpdateId : Nat := Nat.pow 2 64 - 1

namespace Sequence

def kind : Sequence → Kind
  | .snapshot _ => .snapshot
  | .incremental _ _ => .incremental

def latest : Sequence → Nat
  | .snapshot l => l
  | .incremental _ u => u

/-- Where a snapshot with last id `last` stands against this update; `none` for a snapshot. -/
def position? (s : Sequence) (last : Nat) : Option Position :=
  match s with
  | .snapshot _ => none
  | .incremental first final =>
    if final ≤ last then some .after
    else if first ≤ min (last + 1) maxUpdateId then some .within
    else some .before

theorem position?_after (first final last : Nat) (h : final ≤ last) :
    (Sequence.incremental first final).position? last = some .after := by
  simp [position?, h]

end Sequence

/-- An event: ordering fields and the body as received. -/
structure Event where
  sequence : Sequence
  payload : Value
  deriving Repr, BEq

namespace Event

def kind (e : Event) : Kind := e.sequence.kind

/-- The wire text of the event for the sink, naming the connector. -/
def frame (e : Event) (connector : String) : String :=
  "\x7b\"connector\":" ++ quote connector ++ ",\"type\":" ++ toString e.kind.wireCode ++
    ",\"data\":" ++ e.payload.render ++ "\x7d"

/-- A JSON description of the event: kind, tag, ids and the body as text. -/
def describe (e : Event) : Value :=
  let ids : List (String × Value) := match e.sequence with
    | .snapshot l => [("last_update_id", .ofNat l)]
    | .incremental u f => [("final_update_id", .ofNat f), ("first_update_id", .ofNat u)]
  .object ([("kind", .str e.kind.name), ("latest_update_id", .ofNat e.sequence.latest)] ++ ids ++
    [("payload", .str e.payload.render), ("wire_code", .ofNat e.kind.wireCode)])

end Event

end BookRelay.Feed
