import BookRelay.Exchange.Error
import BookRelay.Time.Duration

/-!
# Snapshot fetch failures

A depth snapshot request fails because the request could not be made, the exchange refused
it with a status, the answer was not a snapshot, or it took too long. A refusal with status
429 or 500 and above, a time-out, and a request failure that may pass on a retry are
*transient*.
-/

namespace BookRelay.Pipeline

open BookRelay.Time BookRelay.Exchange

inductive SnapshotError where
  | request (error : ClientError)
  | status (code : Int) (message : String)
  | malformed (text : String)
  | timeout (after : Duration)
  deriving Repr

namespace SnapshotError

/-- The text of a failure. -/
def message : SnapshotError → String
  | .request e => "snapshot request failed: " ++ e.message
  | .status code m => "snapshot rejected (code " ++ toString code ++ "): " ++ m
  | .malformed t => "malformed snapshot: " ++ t
  | .timeout d => "snapshot request timed out after " ++ d.text

def label : SnapshotError → String
  | .request _ => "Request"
  | .status _ _ => "Status"
  | .malformed _ => "Malformed"
  | .timeout _ => "Timeout"

def transient : SnapshotError → Bool
  | .request e => e.retryable
  | .status code _ => code == 429 || code ≥ 500
  | .malformed _ => false
  | .timeout _ => true

/-- A client failure seen by the snapshot fetcher. -/
def ofClient : ClientError → SnapshotError
  | .api code m => .status code m
  | .rateLimit n => .status 429 ("rate limited, retry after " ++ toString n ++ "s")
  | .invalidResponse t => .malformed t
  | .serialization e => .malformed e.message
  | e => .request e

end SnapshotError

end BookRelay.Pipeline
