import BookRelay.Json.Reader
import BookRelay.Url.Error

/-!
# Exchange client failures

Everything that can go wrong when talking to the exchange, over HTTP or the stream. Transport
failures, rate limits, time-outs, a dropped stream and a closed connection may succeed on a
later attempt (`retryable`); the rest will not.
-/

namespace BookRelay.Exchange

/-- A failure of the exchange client. -/
inductive ClientError where
  | http (text : String)
  | api (code : Int) (message : String)
  | serialization (error : Json.Error)
  | urlParse (error : Url.ParseError)
  | webSocket (text : String)
  | subscriptionRejected (code : Int) (message : String)
  | closed (reason : String)
  | invalidResponse (text : String)
  | config (text : String)
  | rateLimit (retryAfter : Nat)
  | timeout (ms : Nat)
  deriving Repr

namespace ClientError

/-- The text of a failure. -/
def message : ClientError → String
  | .http t => "HTTP request failed: " ++ t
  | .api code m => "API error (code " ++ toString code ++ "): " ++ m
  | .serialization e => "Serialization error: " ++ e.message
  | .urlParse e => "Invalid URL: " ++ e.message
  | .webSocket t => "WebSocket error: " ++ t
  | .subscriptionRejected code m => "Subscription rejected (code " ++ toString code ++ "): " ++ m
  | .closed r => "Connection closed: " ++ r
  | .invalidResponse t => "Invalid response: " ++ t
  | .config t => "Configuration error: " ++ t
  | .rateLimit n => "Rate limit exceeded, retry after " ++ toString n ++ "s"
  | .timeout ms => "Timeout after " ++ toString ms ++ "ms"

def label : ClientError → String
  | .http _ => "Http"
  | .api _ _ => "Api"
  | .serialization _ => "Serialization"
  | .urlParse _ => "UrlParse"
  | .webSocket _ => "WebSocket"
  | .subscriptionRejected _ _ => "SubscriptionRejected"
  | .closed _ => "Closed"
  | .invalidResponse _ => "InvalidResponse"
  | .config _ => "Config"
  | .rateLimit _ => "RateLimit"
  | .timeout _ => "Timeout"

def retryable : ClientError → Bool
  | .http _ | .rateLimit _ | .timeout _ | .webSocket _ | .closed _ => true
  | _ => false

/-- The texts of the failures under this one, outermost first: a malformed URL or JSON text
and a failed HTTP request keep their cause. -/
def sources : ClientError → List String
  | .http t => [t]
  | .serialization e => [e.message]
  | .urlParse e => [e.message]
  | _ => []

/-- An API error from an HTTP status: a status is three digits, `100` to `999`. -/
def ofStatus? (status : Nat) (message : String) : Option ClientError :=
  if 100 ≤ status ∧ status ≤ 999 then some (.api status message) else none

/-- A time-out of a span given in nanoseconds, in whole milliseconds at most `2^64 - 1`. -/
def timeoutOfNanos (nanos : Nat) : ClientError := .timeout (min (nanos / 1000000) (Nat.pow 2 64 - 1))

end ClientError

end BookRelay.Exchange
