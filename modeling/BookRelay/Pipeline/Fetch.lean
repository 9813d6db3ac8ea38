import BookRelay.Exchange.Rest
import BookRelay.Pipeline.Snapshot
import BookRelay.Feed.Event

/-!
# Fetching a snapshot

The snapshot fetcher asks the REST client for a depth snapshot and turns it into a snapshot
event, within a time limit. The exchange is given as what it does with a request: answers
after some time, or cannot be reached at all. A request that could not be built is never
sent; an answer that comes at or after the limit is a time-out.
-/

namespace BookRelay.Pipeline

open BookRelay.Exchange BookRelay.Feed BookRelay.Time

/-- What the exchange does with a request. -/
inductive Served where
  | answer (response : Http.Response) (delay : Duration)
  | unreachable

/-- The snapshot fetcher: the REST client and the time a request may take. -/
structure SnapshotFetcher where
  client : RestClient
  timeout : Duration

/-- The outcome of one fetch, with the request the exchange received, if one was sent. -/
structure FetchResult where
  request : Option Http.Request
  outcome : Except SnapshotError Event

/-- Fetch the snapshot of a symbol with a number of levels. -/
def SnapshotFetcher.fetch (f : SnapshotFetcher) (serve : Http.Request → Served)
    (symbol : String) (limit : Nat) : FetchResult :=
  match f.client.depthRequest symbol limit with
  | .error e => ⟨none, .error (SnapshotError.ofClient e)⟩
  | .ok req =>
    match serve req with
    | .unreachable =>
      ⟨none, .error (.request (.http ("error sending request for url (" ++ req.url.text ++ ")")))⟩
    | .answer resp delay =>
      if f.timeout.le delay then ⟨some req, .error (.timeout f.timeout)⟩
      else ⟨some req, match readDepth resp with
        | .ok snap => .ok ⟨.snapshot snap.lastUpdateId, snap.body⟩
        | .error e => .error (SnapshotError.ofClient e)⟩

theorem fetch_unreachable (f : SnapshotFetcher) (symbol : String) (limit : Nat) :
    (f.fetch (fun _ => .unreachable) symbol limit).request = none := by
  unfold SnapshotFetcher.fetch
  cases f.client.depthRequest symbol limit <;> rfl

end BookRelay.Pipeline
