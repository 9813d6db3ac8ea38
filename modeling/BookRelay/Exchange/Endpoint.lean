import BookRelay.Exchange.Depth
import BookRelay.Url.Parse

/-!
# Exchange endpoints

Where the exchange is reached: the combined stream under a WebSocket base URL, and the REST
client with its base URL, optional API key and the depth limits it accepts.

The stream URL is the base without trailing slashes, with `/stream` added unless it already
ends so; it must use `ws` or `wss`. A REST endpoint is joined to the base URL, so an absolute
endpoint path replaces the base's path.
-/

namespace BookRelay.Exchange

open BookRelay.Url

/-- The text of the combined-stream URL under a base URL: trailing slashes dropped and
`/stream` added unless already there. -/
def streamText (base : String) : String :=
  let trimmed := String.ofList (base.toList.reverse.dropWhile (· == '/')).reverse
  if trimmed.endsWith "/stream" then trimmed else trimmed ++ "/stream"

/-- Refuse a stream URL whose scheme is not `ws` or `wss`. -/
def requireStreamScheme (url : Url.Url) : Except ClientError Url.Url :=
  if url.scheme == "ws" || url.scheme == "wss" then .ok url
  else .error (.config ("stream URL must use ws or wss, got " ++ url.scheme))

def streamUrl (base : String) : Except ClientError Url.Url :=
  ((Url.parse (streamText base)).mapError ClientError.urlParse).bind requireStreamScheme

/-- The REST client: its base URL and the API key sent with keyed requests. -/
structure RestClient where
  baseUrl : Url.Url
  apiKey : Option String := none

def RestClient.ofBase (base : String) : Except ClientError RestClient := do
  return { baseUrl := ← (Url.parse base).mapError ClientError.urlParse }

/-- How the credentials of a client are shown: the key itself is never written. -/
def RestClient.credentialsText (c : RestClient) : Option String :=
  c.apiKey.map fun _ => "Credentials \x7b api_key: \"<redacted>\" \x7d"

def RestClient.endpoint (c : RestClient) (path : String) : Except ClientError Url.Url :=
  (c.baseUrl.join path).mapError ClientError.urlParse

theorem requireStreamScheme_scheme (u v : Url.Url) (h : requireStreamScheme u = .ok v) :
    v.scheme = "ws" ∨ v.scheme = "wss" := by
  unfold requireStreamScheme at h
  split at h
  · next hs => cases h; simpa using hs
  · cases h

end BookRelay.Exchange
