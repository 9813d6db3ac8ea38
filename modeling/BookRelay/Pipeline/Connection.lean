import BookRelay.Exchange.Error
import BookRelay.Time.Duration

/-!
# Stream connection: states, failures, backoff

The stream client's connection is `Disconnected`, `Connecting`, `Open` or `Closing`. A session
ends with a `ConnectionError`; the exchange client's own failures map onto it (a refused
subscription, a handshake time-out and a closed connection keep their meaning, the rest are
transport errors). Between attempts the client waits `initial · 2^(n-1)` for the `n`-th retry,
capped at `max`, the exponent stopping at 31 and the product saturating.
-/

namespace BookRelay.Pipeline

open BookRelay.Time BookRelay.Exchange

inductive ConnectionState where
  | disconnected
  | connecting
  | open
  | closing
  deriving Repr, BEq, DecidableEq, Inhabited

def ConnectionState.name : ConnectionState → String
  | .disconnected => "Disconnected"
  | .connecting => "Connecting"
  | .open => "Open"
  | .closing => "Closing"

def ConnectionState.ofName? : String → Option ConnectionState
  | "Disconnected" => some .disconnected
  | "Connecting" => some .connecting
  | "Open" => some .open
  | "Closing" => some .closing
  | _ => none

inductive ConnectionError where
  | transport (error : ClientError)
  | handshakeTimeout (after : Duration)
  | rejected (code : Int) (message : String)
  | closed (reason : String)
  | pongTimeout (after : Duration)
  | idle (after : Duration)
  | retriesExhausted (attempts : Nat) (last : ConnectionError)
  deriving Repr

namespace ConnectionError

/-- The text of a failure. -/
def message : ConnectionError → String
  | .transport e => "stream transport error: " ++ e.message
  | .handshakeTimeout d => "handshake timed out after " ++ d.text
  | .rejected code m => "subscription rejected (code " ++ toString code ++ "): " ++ m
  | .closed r => "connection closed: " ++ r
  | .pongTimeout d => "pong not sent within " ++ d.text
  | .idle d => "no frames received for " ++ d.text
  | .retriesExhausted n last =>
    "gave up after " ++ toString n ++ " consecutive failed connection attempts: " ++ last.message

def label : ConnectionError → String
  | .transport _ => "Transport"
  | .handshakeTimeout _ => "HandshakeTimeout"
  | .rejected _ _ => "Rejected"
  | .closed _ => "Closed"
  | .pongTimeout _ => "PongTimeout"
  | .idle _ => "Idle"
  | .retriesExhausted _ _ => "RetriesExhausted"

/-- The causes under this one, outermost first, each as its own text. -/
def chain : ConnectionError → List String
  | .transport e => e.message :: e.sources
  | .retriesExhausted _ last => last.message :: last.chain
  | _ => []

/-- A client failure seen by the stream client. -/
def ofClient : ClientError → ConnectionError
  | .subscriptionRejected code m => .rejected code m
  | .timeout ms => .handshakeTimeout (Duration.ofMillis ms)
  | .closed r => .closed r
  | e => .transport e

end ConnectionError

/-- The wait before the `retry`-th reconnect. -/
def backoffDelay (retry : Nat) (initial max : Duration) : Duration :=
  Duration.min (initial.mulSat (Nat.pow 2 (min (retry - 1) 31))) max

theorem backoffDelay_one (initial max : Duration) :
    backoffDelay 1 initial max = Duration.min (initial.mulSat 1) max := rfl

end BookRelay.Pipeline
