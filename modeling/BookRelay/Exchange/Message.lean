import BookRelay.Json.Decode
import BookRelay.Json.Printer

/-!
# Stream frames

A text frame from the market stream is one of three things. It is a *reply* to a request when
it has an `id` and a `result` or an `error`. Otherwise the event is the `data` member when the
frame is a combined-stream envelope (a string `stream` and a `data`), else the frame itself; it
is a *depth update* when the event's `e` is the string `depthUpdate`, and anything else is
*other*. A depth update carries its symbol, its update range and event time (zero when absent),
and the whole frame as its body.
-/

namespace BookRelay.Exchange

open BookRelay.Json

/-- An error object sent by the exchange. -/
structure ApiErrorBody where
  code : Int
  msg : String
  deriving Repr, BEq

/-- A reply to a request on the stream. -/
structure Reply where
  id : Nat
  result : Option Value
  error : Option ApiErrorBody
  deriving Repr

/-- A reply without an error acknowledges its request. -/
def Reply.isAck (r : Reply) : Bool := r.error.isNone

/-- A depth update with its ordering fields read out. -/
structure DepthFrame where
  stream : Option String
  symbol : String
  firstUpdateId : Nat
  finalUpdateId : Nat
  eventTime : Int
  body : Value
  deriving Repr

inductive StreamMessage where
  | depth (frame : DepthFrame)
  | reply (reply : Reply)
  | other (body : Value)
  deriving Repr

/-- The fields of an exchange error object. -/
def errorBodyFields : List Decode.Field :=
  [Decode.field "code" false Decode.i64, Decode.field "msg" false Decode.string]

/-- An exchange error object. -/
def decodeErrorBody (v : Value) : Except Mismatch ApiErrorBody :=
  match Decode.checkRecord "struct ApiErrorBody" errorBodyFields v with
  | some m => .error m
  | none =>
    let get := fun name => (Decode.member errorBodyFields name v).getD .null
    match Decode.i64 (get "code"), Decode.string (get "msg") with
    | .ok code, .ok msg => .ok ⟨code, msg⟩
    | .error m, _ => .error m
    | _, .error m => .error m

/-- An optional member: `null` counts as absent. -/
def optionally {α : Type} (decode : Value → Except Mismatch α) : Value → Except Mismatch (Option α)
  | .null => .ok none
  | v => (decode v).map some

def replyFields : List Decode.Field :=
  [Decode.field "id" false Decode.u64,
   Decode.field "result" true (fun v => (.ok v : Except Mismatch Value)),
   Decode.field "error" true (optionally decodeErrorBody)]

def decodeReply (v : Value) : Except Mismatch Reply :=
  match Decode.checkRecord "struct StreamReply" replyFields v with
  | some m => .error m
  | none =>
    let get := fun name => (Decode.member replyFields name v).getD .null
    match Decode.u64 (get "id"), optionally decodeErrorBody (get "error") with
    | .ok id, .ok error =>
      .ok ⟨id, match get "result" with | .null => none | r => some r, error⟩
    | .error m, _ => .error m
    | _, .error m => .error m

def headerFields : List Decode.Field :=
  [Decode.field "e" false Decode.string, Decode.field "E" true Decode.i64,
   Decode.field "s" false Decode.string, Decode.field "U" false Decode.u64,
   Decode.field "u" false Decode.u64]

def depthUpdateTag : String := "depthUpdate"

/-- The header of a depth update: symbol, first and final update id, event time. -/
def decodeHeader (v : Value) : Except Mismatch (String × Nat × Nat × Int) :=
  match Decode.checkRecord "struct DepthUpdateHeader" headerFields v with
  | some m => .error m
  | none =>
    let get := fun name => Decode.member headerFields name v
    match Decode.string ((get "s").getD .null), Decode.u64 ((get "U").getD .null),
        Decode.u64 ((get "u").getD .null), (get "E").elim (.ok 0) Decode.i64 with
    | .ok s, .ok first, .ok final, .ok time => .ok (s, first, final, time)
    | .error m, _, _, _ => .error m
    | _, .error m, _, _ => .error m
    | _, _, .error m, _ => .error m
    | _, _, _, .error m => .error m

def classify (body : Value) : Except Mismatch StreamMessage :=
  if (body.get? "id").isSome && ((body.get? "result").isSome || (body.get? "error").isSome) then
    (decodeReply body).map .reply
  else
    let stream := (body.get? "stream").bind Value.asString?
    let event := match stream, body.get? "data" with
      | some _, some data => data
      | _, _ => body
    if ((event.get? "e").bind Value.asString?) != some depthUpdateTag then .ok (.other body)
    else
      (decodeHeader event).map fun (symbol, first, final, time) =>
        .depth ⟨stream, symbol, first, final, time, body⟩

def parseStreamText (text : String) : Except Json.Error StreamMessage :=
  match Json.parse text with
  | .error e => .error e
  | .ok body => (classify body).mapError Mismatch.toError

/-- The length of the array under `side`, zero when there is none. -/
def levelCount (body : Value) (side : String) : Nat :=
  match body.get? side with
  | some (.array items) => items.length
  | _ => 0

end BookRelay.Exchange
