import BookRelay.Http.Status
import BookRelay.Url.Basic

/-!
# HTTP requests and responses

A request is a method, a URL and headers; the server sees its target, the path and query of
the URL. A response is a status, headers in the order sent, and a body. Header names are
compared without regard to case, and the first header of a name is the one read. A header
value can be read as text only when it holds visible ASCII, spaces and tabs.
-/

namespace BookRelay.Http

/-- A request as the client sends it. -/
structure Request where
  method : String
  url : Url.Url
  headers : List (String × String) := []
  deriving Repr

/-- The target of a request: the path and query of its URL. -/
def Request.target (r : Request) : String :=
  r.url.path.text ++ (r.url.query.map ("?" ++ ·)).getD ""

/-- The values of the headers of a request with a name, in order. -/
def Request.headerValues (r : Request) (name : String) : List String :=
  (r.headers.filter fun (k, _) => k.toLower == name.toLower).map (·.2)

/-- A response as the client receives it. -/
structure Response where
  status : Nat
  headers : List (String × String) := []
  body : List UInt8 := []
  deriving Repr

/-- Whether a character may stand in a header value read as text. -/
def isHeaderTextChar (c : Char) : Bool := c == '\t' || (32 ≤ c.toNat && c.toNat < 127)

/-- Whether a character may stand in a header value that is sent. -/
def isHeaderValueChar (c : Char) : Bool := c == '\t' || (32 ≤ c.toNat && c.toNat != 127)

/-- The first header of a name, as text when it can be read so. -/
def Response.header? (r : Response) (name : String) : Option String :=
  match r.headers.find? fun (k, _) => k.toLower == name.toLower with
  | some (_, v) => if v.toList.all isHeaderTextChar then some v else none
  | none => none

/-- The body the client reads: none for statuses that carry none. -/
def Response.content (r : Response) : List UInt8 :=
  if hasNoBody r.status then [] else r.body

theorem content_noContent (hs : List (String × String)) (b : List UInt8) :
    ({ status := 204, headers := hs, body := b } : Response).content = [] := rfl

end BookRelay.Http
