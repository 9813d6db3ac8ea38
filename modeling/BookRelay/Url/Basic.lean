import BookRelay.Text.Utf8

/-!
# URLs

A URL as the WHATWG URL Standard describes it: a scheme, credentials, an optional host and
port, a path that is either a list of segments or one piece of text, and an optional query
and fragment. Every part is held already escaped, so writing a URL out is concatenation.

Which characters a part escapes is an `EncodeSet`; every non-ASCII character is escaped
byte by byte in UTF-8, with upper-case hex digits.
-/

namespace BookRelay.Url

/-- A host: a domain or other name (possibly empty), an IPv4 address as a 32-bit number, or
an IPv6 address as its eight 16-bit pieces. -/
inductive Host where
  | name (text : String)
  | ipv4 (address : Nat)
  | ipv6 (pieces : List Nat)
  deriving Repr, BEq, DecidableEq, Inhabited

/-- The path of a URL: segments written each after a slash, or one text written as is (the
path of a URL that cannot be a base). -/
inductive UrlPath where
  | segments (parts : List String)
  | verbatim (text : String)
  deriving Repr, BEq, DecidableEq, Inhabited

/-- A parsed URL. The scheme is in lower case; the other parts are already escaped. -/
structure Url where
  scheme : String
  username : String := ""
  password : String := ""
  host : Option Host := none
  port : Option Nat := none
  path : UrlPath := .segments []
  query : Option String := none
  fragment : Option String := none
  deriving Repr, BEq, DecidableEq, Inhabited

/-- How a scheme is handled: the special schemes with a host and an always non-empty path,
the file scheme, and every other scheme. -/
inductive SchemeKind where
  | special
  | file
  | other
  deriving Repr, BEq, DecidableEq

def SchemeKind.ofScheme (scheme : String) : SchemeKind :=
  if scheme == "file" then .file
  else if ["http", "https", "ws", "wss", "ftp"].contains scheme then .special
  else .other

/-- Whether a scheme kind is special; the file scheme is. -/
def SchemeKind.isSpecial : SchemeKind → Bool
  | .other => false
  | _ => true

/-- The port a scheme uses when none is written. -/
def defaultPort (scheme : String) : Option Nat :=
  match scheme with
  | "http" | "ws" => some 80
  | "https" | "wss" => some 443
  | "ftp" => some 21
  | _ => none

/-- The sets of ASCII characters that a part of a URL escapes. Each set holds the ones
before it in this list, apart from the special query set, which only adds to the query set. -/
inductive EncodeSet where
  | controls
  | fragment
  | query
  | specialQuery
  | path
  | userinfo
  deriving Repr, BEq, DecidableEq

/-- The controls: the C0 controls and delete. -/
def isControl (c : Char) : Bool := c.toNat < 0x20 || c.toNat == 0x7F

def inFragmentSet (c : Char) : Bool := isControl c || " \"<>\x60".contains c

def inQuerySet (c : Char) : Bool := isControl c || " \"#<>".contains c

def inPathSet (c : Char) : Bool := inFragmentSet c || "#?\x7b\x7d".contains c

def EncodeSet.has : EncodeSet → Char → Bool
  | .controls, c => isControl c
  | .fragment, c => inFragmentSet c
  | .query, c => inQuerySet c
  | .specialQuery, c => inQuerySet c || c == '\x27'
  | .path, c => inPathSet c
  | .userinfo, c => inPathSet c || "/:;=@[\\]^|".contains c

def hexDigit (n : Nat) : Char :=
  if n < 10 then Char.ofNat (48 + n) else Char.ofNat (55 + n)

def escapeByte (b : UInt8) : String :=
  String.ofList ['%', hexDigit (b.toNat / 16), hexDigit (b.toNat % 16)]

/-- A character as it is written in a part with the given set. -/
def EncodeSet.encodeChar (set : EncodeSet) (c : Char) : String :=
  if c.toNat < 0x80 && !set.has c then c.toString
  else String.join ((Text.Utf8.encode c.toString).map escapeByte)

/-- A text as it is written in a part with the given set. -/
def EncodeSet.encode (set : EncodeSet) (cs : List Char) : String :=
  String.join (cs.map set.encodeChar)

/-- An IPv4 address in dotted decimal. -/
def ipv4Text (a : Nat) : String :=
  toString (a / Nat.pow 2 24 % 256) ++ "." ++ toString (a / Nat.pow 2 16 % 256) ++ "." ++
    toString (a / Nat.pow 2 8 % 256) ++ "." ++ toString (a % 256)

/-- The longest run of zero pieces, as its start and length, the first of the longest. -/
def longestZeros (pieces : List Nat) : Nat × Nat :=
  let step := fun (acc : (Nat × Nat) × Nat × Nat) (p : Nat × Nat) =>
    let ((bestAt, bestLen), (runAt, runLen)) := acc
    if p.2 == 0 then
      let run := if runLen == 0 then (p.1, 1) else (runAt, runLen + 1)
      (if run.2 > bestLen then run else (bestAt, bestLen), run)
    else ((bestAt, bestLen), (0, 0))
  (pieces.zipIdx.map (fun (p, i) => (i, p)) |>.foldl step ((0, 0), (0, 0))).1

def hexLower (n : Nat) : String := String.ofList (Nat.toDigits 16 n)

/-- An IPv6 address in its shortest form: pieces in lower-case hex, the first longest run
of two or more zero pieces written as `::`. -/
def ipv6Text (pieces : List Nat) : String :=
  let (start, len) := longestZeros pieces
  let join := fun (ps : List Nat) => ":".intercalate (ps.map hexLower)
  if len < 2 then join pieces
  else join (pieces.take start) ++ "::" ++ join (pieces.drop (start + len))

example : ipv6Text [0, 0, 0, 0, 0, 0, 0, 1] = "::1" := by decide

/-- A host as written in a URL; an IPv6 address stands in brackets. -/
def Host.text : Host → String
  | .name t => t
  | .ipv4 a => ipv4Text a
  | .ipv6 ps => "[" ++ ipv6Text ps ++ "]"

def UrlPath.text : UrlPath → String
  | .segments parts => String.join (parts.map ("/" ++ ·))
  | .verbatim t => t

/-- The credentials as written before a host: `user:password@`, without the colon when the
password is empty, and nothing when both are. -/
def Url.userinfoText (u : Url) : String :=
  if u.username.isEmpty && u.password.isEmpty then ""
  else u.username ++ (if u.password.isEmpty then "" else ":" ++ u.password) ++ "@"

/-- The text of a URL. A URL without a host whose path begins with an empty segment gets
`/.` before its path, so that the path is not read back as a host. -/
def Url.text (u : Url) : String :=
  let authority := match u.host with
    | some h => "//" ++ u.userinfoText ++ h.text ++ (u.port.map (":" ++ toString ·)).getD ""
    | none =>
      match u.path with
      | .segments ("" :: _ :: _) => "/."
      | _ => ""
  u.scheme ++ ":" ++ authority ++ u.path.text ++ (u.query.map ("?" ++ ·)).getD "" ++
    (u.fragment.map ("#" ++ ·)).getD ""

end BookRelay.Url
