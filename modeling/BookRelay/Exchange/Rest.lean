import BookRelay.Exchange.Endpoint
import BookRelay.Exchange.Message
import BookRelay.Json.Record
import BookRelay.Http.Message
import BookRelay.Url.Form
import BookRelay.Text.Blank

/-!
# REST requests and answers

A request of the REST client goes to an endpoint joined to the base URL and carries the API
key header when the client has a key. The answer is read as JSON: a status other than 2xx is
a refusal (429 a rate limit whose wait comes from `Retry-After`, else an API error whose text
is the exchange's `msg (code)` or the body itself), a 2xx answer must say `application/json`
in its first `Content-Type`, and its body must be a JSON document.

The depth snapshot is the request `GET /api/v3/depth` with the symbol in upper case and the
number of levels, which must be within `1..=5000`.
-/

namespace BookRelay.Exchange

open BookRelay.Json

def apiKeyHeader : String := "X-MBX-APIKEY"

def includes (text part : String) : Bool := (text.splitOn part).length > 1

/-- An unsigned 64-bit number as text: digits after an optional `+`. -/
def parseU64? (s : String) : Option Nat :=
  let cs := match s.toList with
    | '+' :: rest => rest
    | cs => cs
  if cs.isEmpty || !cs.all Char.isDigit then none
  else
    let v := cs.foldl (fun a c => a * 10 + (c.toNat - 48)) 0
    if v < Nat.pow 2 64 then some v else none

/-- A request of a client for an endpoint. A key that cannot be sent as a header value
fails the request before it is sent. -/
def RestClient.request (c : RestClient) (method path : String) : Except ClientError Http.Request := do
  let url ← c.endpoint path
  match c.apiKey with
  | none => pure { method, url }
  | some key =>
    if key.toList.all Http.isHeaderValueChar then pure { method, url, headers := [(apiKeyHeader, key)] }
    else throw (.http "builder error")

/-- The text of a refusal: the exchange's error object read straight from the body as
`msg (code)`, else the body read as UTF-8 with replacement characters. -/
def refusalText (body : List UInt8) : String :=
  match (Decode.readRecord errorBodyFields body).bind fun v => (decodeErrorBody v).toOption with
  | some e => e.msg ++ " (" ++ toString e.code ++ ")"
  | none => Text.Utf8.decodeLossy body

def saysJson (r : Http.Response) : Bool :=
  ((r.header? "content-type").map (includes · "application/json")).getD false

/-- The JSON body of an answer, or why there is none. -/
def readJsonBody (r : Http.Response) : Except ClientError Value :=
  if !Http.isSuccess r.status then
    if r.status == 429 then
      .error (.rateLimit (((r.header? "retry-after").bind fun v => parseU64? (Text.trim v)).getD 1))
    else .error (.api r.status (refusalText r.content))
  else if !saysJson r then
    .error (.invalidResponse ("expected application/json body, status " ++ Http.statusText r.status))
  else (Json.parseBytes r.content).mapError .serialization

/-- The depth snapshot request for a symbol and a number of levels. -/
def RestClient.depthRequest (c : RestClient) (symbol : String) (limit : Nat) :
    Except ClientError Http.Request := do
  checkDepthLimit limit
  let r ← c.request "GET" "/api/v3/depth"
  pure { r with url := r.url.appendPairs [("symbol", Text.asciiUpper symbol), ("limit", toString limit)] }

def readDepth (r : Http.Response) : Except ClientError DepthSnapshot :=
  (readJsonBody r).bind DepthSnapshot.ofBody

theorem readJsonBody_rateLimit (hs : List (String × String)) (b : List UInt8)
    (h : ({ status := 429, headers := hs, body := b } : Http.Response).header? "retry-after" = none) :
    readJsonBody { status := 429, headers := hs, body := b } = .error (.rateLimit 1) := by
  simp [readJsonBody, Http.isSuccess, h]

end BookRelay.Exchange
