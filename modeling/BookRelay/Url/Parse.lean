import BookRelay.Url.Address
import BookRelay.Url.Domain

/-!
# Reading URLs

A URL text is read as the WHATWG URL Standard says. Controls and spaces at both ends are
dropped, and tabs and line breaks anywhere. Then comes the scheme and its colon; a text
without one is relative and needs a base URL.

The special schemes skip any run of slashes and backslashes before the host, must have a
host, read backslashes as slashes, and always have a path. A host of a special scheme is
percent-decoded and brought to ASCII as a domain, and read as an IPv4 address when it ends
in a number; other schemes keep the host as written. A default port is dropped. Segments
`.` and `..` of a path are resolved as they are read.

`Url.parse` reads a text on its own; `Url.join` reads it against a base.
-/

namespace BookRelay.Url

/-- Whether a character is dropped from the ends of a URL text: a C0 control or a space. -/
def isEdgeJunk (c : Char) : Bool := c.toNat ≤ 0x20

/-- The characters of a URL text that take part in reading it. -/
def cleanInput (text : String) : List Char :=
  let cs := ((text.toList.dropWhile isEdgeJunk).reverse.dropWhile isEdgeJunk).reverse
  cs.filter fun c => c != '\t' && c != '\n' && c != '\r'

/-- The scheme at the start of a text, in lower case, and what follows its colon. -/
def schemeOf? : List Char → Option (String × List Char)
  | c :: rest =>
    if c.isAlpha then
      let body := rest.takeWhile fun d => d.isAlphanum || d == '+' || d == '-' || d == '.'
      match rest.drop body.length with
      | ':' :: after => some (String.ofList ((c :: body).map Char.toLower), after)
      | _ => none
    else none
  | [] => none

/-- Percent escapes decoded into bytes; a `%` without two hex digits stays. -/
def percentDecode : List UInt8 → List UInt8
  | 37 :: h :: l :: rest =>
    match hexValue? (Char.ofNat h.toNat), hexValue? (Char.ofNat l.toNat) with
    | some a, some b => UInt8.ofNat (a * 16 + b) :: percentDecode rest
    | _, _ => 37 :: percentDecode (h :: l :: rest)
  | b :: rest => b :: percentDecode rest
  | [] => []

/-- The host of a special URL: a domain in ASCII or an IPv4 address. -/
def domainHost (raw : List Char) : Except ParseError Host := do
  let text := Text.Utf8.decodeLossy (percentDecode (Text.Utf8.encode (String.ofList raw)))
  match domainToAscii text.toList with
  | none => throw .invalidDomain
  | some d =>
    if d.isEmpty then throw .emptyHost
    else if endsInNumber d.toList then return .ipv4 (← parseIpv4 d.toList)
    else return .name d

/-- Whether a character may not stand in the host of a URL that is not special. -/
def forbiddenInHost (c : Char) : Bool := "\x00\t\n\r #/:<>?@[\\]^|".contains c

/-- A host as written: an IPv6 address in brackets, else a domain for a special scheme and a
name with controls escaped for the others. -/
def parseHost (kind : SchemeKind) (raw : List Char) : Except ParseError Host :=
  match raw with
  | '[' :: inner =>
    if inner.getLast? == some ']' then return .ipv6 (← parseIpv6 inner.dropLast)
    else throw .invalidIpv6
  | _ =>
    if kind.isSpecial then domainHost raw
    else if raw.any forbiddenInHost then throw .invalidDomainCharacter
    else return .name (EncodeSet.controls.encode raw)

def endsAuthority (kind : SchemeKind) (c : Char) : Bool :=
  c == '/' || c == '?' || c == '#' || (kind.isSpecial && c == '\\')

/-- The position of the last `@` of a text. -/
def lastAt (cs : List Char) : Option Nat :=
  (cs.reverse.findIdx? (· == '@')).map (cs.length - 1 - ·)

/-- The credentials before the last `@` of the authority, if there is one, and the rest. An
`@` right at the start leaves no credentials, and may not be followed by the end of the
authority. -/
def splitCredentials (kind : SchemeKind) (cs : List Char) :
    Except ParseError (Option (List Char) × List Char) :=
  match lastAt (cs.takeWhile (!endsAuthority kind ·)) with
  | none => .ok (none, cs)
  | some 0 =>
    match cs.drop 1 with
    | c :: rest => if endsAuthority kind c then .error .emptyHost else .ok (none, c :: rest)
    | [] => .ok (none, [])
  | some k => .ok (some (cs.take k), cs.drop (k + 1))

/-- The host text: up to a colon outside brackets, or the end of the authority. -/
def hostSpan (kind : SchemeKind) : List Char → Bool → List Char × List Char
  | [], _ => ([], [])
  | c :: rest, inBrackets =>
    if (c == ':' && !inBrackets) || endsAuthority kind c then ([], c :: rest)
    else
      let (h, r) := hostSpan kind rest (if c == '[' then true else if c == ']' then false else inBrackets)
      (c :: h, r)

/-- The port after a colon: decimal digits below 65536, ended by the end of the authority;
none when there are no digits or they give the scheme's default port. -/
def parsePort (scheme : String) (cs : List Char) : Except ParseError (Option Nat × List Char) :=
  let digits := cs.takeWhile Char.isDigit
  let value := digits.foldl (fun acc c => acc * 10 + (c.toNat - 48)) 0
  let rest := cs.drop digits.length
  if value > 65535 then .error .invalidPort
  else match rest with
    | c :: _ =>
      if c == '/' || c == '\\' || c == '?' || c == '#' then .ok (portValue digits value, rest)
      else .error .invalidPort
    | [] => .ok (portValue digits value, rest)
where
  portValue (digits : List Char) (value : Nat) : Option Nat :=
    if digits.isEmpty || defaultPort scheme == some value then none else some value

/-- Whether a segment is `.`, possibly escaped. -/
def isSingleDot (seg : String) : Bool := seg == "." || seg.toLower == "%2e"

/-- Whether a segment is `..`, possibly escaped. -/
def isDoubleDot (seg : String) : Bool := ["..", ".%2e", "%2e.", "%2e%2e"].contains seg.toLower

/-- Add a finished segment to a path: `..` removes the last segment, `.` adds nothing, and
either adds an empty segment when it ends the path. -/
def closeSegment (segs : List String) (seg : String) (slash : Bool) : List String :=
  if isDoubleDot seg then if slash then segs.dropLast else segs.dropLast ++ [""]
  else if isSingleDot seg then if slash then segs else segs ++ [""]
  else segs ++ [seg]

/-- Read path segments after `segs`, the current one so far being `seg`, up to a query, a
fragment or the end; a backslash separates segments in a special URL. -/
def pathSegments (special : Bool) (segs : List String) (seg : String) :
    List Char → List String × List Char
  | [] => (closeSegment segs seg false, [])
  | c :: rest =>
    if c == '/' || (special && c == '\\') then pathSegments special (closeSegment segs seg true) "" rest
    else if c == '?' || c == '#' then (closeSegment segs seg false, c :: rest)
    else pathSegments special segs (seg ++ EncodeSet.path.encodeChar c) rest

/-- The fragment after a `#`. -/
def fragmentOf : List Char → Option String
  | '#' :: rest => some (EncodeSet.fragment.encode rest)
  | _ => none

/-- The query after a `?`, up to a fragment, and the fragment. -/
def queryAndFragment (kind : SchemeKind) : List Char → Option String × Option String
  | '?' :: rest =>
    let q := rest.takeWhile (· != '#')
    let set := if kind.isSpecial then EncodeSet.specialQuery else .query
    (some (set.encode q), fragmentOf (rest.drop q.length))
  | cs => (none, fragmentOf cs)

/-- The path of a special URL after its authority: one slash or backslash is skipped. -/
def specialPath (cs : List Char) : List String × List Char :=
  match cs with
  | c :: rest => if c == '/' || c == '\\' then pathSegments true [] "" rest else pathSegments true [] "" cs
  | [] => pathSegments true [] "" []

/-- The path of a URL of another scheme after its authority, empty when none is written. -/
def otherPath (cs : List Char) : List String × List Char :=
  match cs with
  | '/' :: rest => pathSegments false [] "" rest
  | c :: rest => if c == '?' || c == '#' then ([], cs) else pathSegments false [] "" (c :: rest)
  | [] => ([], [])

def parseAuthority (scheme : String) (kind : SchemeKind) (cs : List Char) : Except ParseError Url := do
  let (credentials, cs) ← splitCredentials kind cs
  let user := (credentials.getD []).takeWhile (· != ':')
  let pass := ((credentials.getD []).drop user.length).drop 1
  let username := EncodeSet.userinfo.encode user
  let password := EncodeSet.userinfo.encode pass
  let (raw, cs) := hostSpan kind cs false
  if kind == .special && raw.isEmpty then throw .emptyHost
  let host ← parseHost kind raw
  if host == .name "" && cs.head? == some ':' then throw .emptyHost
  let (port, cs) ← match cs with
    | ':' :: rest => parsePort scheme rest
    | _ => pure (none, cs)
  if host == .name "" && !(username.isEmpty && password.isEmpty) then throw .emptyHost
  let (path, cs) := if kind.isSpecial then specialPath cs else otherPath cs
  let (query, fragment) := queryAndFragment kind cs
  return { scheme, username, password, host := some host, port, path := .segments path, query,
           fragment }

/-- Whether two characters are a drive letter: an ASCII letter and a colon or bar. -/
def isDriveLetter : List Char → Bool
  | [a, b] => a.isAlpha && (b == ':' || b == '|')
  | _ => false

/-- A path of the file scheme, with a bar after a leading drive letter read as a colon. -/
def fileSegments (segs : List String) : List String :=
  match segs with
  | first :: rest =>
    if isDriveLetter first.toList then String.ofList [first.toList.headD 'c', ':'] :: rest
    else segs
  | [] => []

/-- Read a URL of the file scheme after its colon. Its host may be empty and `localhost`
stands for the empty host; a drive letter after the slashes starts the path. -/
def parseFile (cs : List Char) : Except ParseError Url := do
  let isSlash := fun (c : Char) => c == '/' || c == '\\'
  let (host, cs) ← match cs with
    | a :: b :: rest =>
      if isSlash a && isSlash b then
        let raw := rest.takeWhile fun c => !(isSlash c || c == '?' || c == '#')
        if isDriveLetter raw || raw.isEmpty then pure (Host.name "", if raw.isEmpty then rest else '/' :: rest)
        else
          let h ← parseHost .file raw
          pure (if h == .name "localhost" then .name "" else h, rest.drop raw.length)
      else pure (.name "", cs)
    | _ => pure (.name "", cs)
  let (path, cs) := specialPath cs
  let (query, fragment) := queryAndFragment .file cs
  return { scheme := "file", host := some host, path := .segments (fileSegments path), query, fragment }

/-- Read a relative reference against a base URL whose path is a list of segments. -/
def resolve (b : Url) (cs : List Char) : Except ParseError Url :=
  let kind := SchemeKind.ofScheme b.scheme
  let segs := match b.path with
    | .segments s => s
    | .verbatim _ => []
  let isSlash := fun (c : Char) => c == '/' || (kind.isSpecial && c == '\\')
  match cs with
  | [] => .ok { b with fragment := none }
  | '?' :: _ =>
    let (query, fragment) := queryAndFragment kind cs
    .ok { b with query, fragment }
  | '#' :: rest => .ok { b with fragment := some (EncodeSet.fragment.encode rest) }
  | c :: rest =>
    if isSlash c then
      match rest with
      | d :: more =>
        if isSlash d then parseAuthority b.scheme kind more
        else
          let (path, r) := pathSegments kind.isSpecial [] "" rest
          let (query, fragment) := queryAndFragment kind r
          .ok { b with path := .segments path, query, fragment }
      | [] => .ok { b with path := .segments [""], query := none, fragment := none }
    else
      let (path, r) := pathSegments kind.isSpecial segs.dropLast "" cs
      let (query, fragment) := queryAndFragment kind r
      .ok { b with path := .segments path, query, fragment }

/-- Read a URL text, against a base URL when one is given. -/
def parseWith (base : Option Url) (text : String) : Except ParseError Url :=
  let cs := cleanInput text
  match schemeOf? cs with
  | some (scheme, rest) =>
    match SchemeKind.ofScheme scheme with
    | .special =>
      let slashes := (rest.takeWhile fun c => c == '/' || c == '\\').length
      match base with
      | some b =>
        if slashes < 2 && b.scheme == scheme then resolve b rest
        else parseAuthority scheme .special (rest.drop slashes)
      | none => parseAuthority scheme .special (rest.drop slashes)
    | .file => parseFile rest
    | .other =>
      match rest with
      | '/' :: '/' :: after => parseAuthority scheme .other after
      | '/' :: after =>
        let (path, r) := pathSegments false [] "" after
        let (query, fragment) := queryAndFragment .other r
        .ok { scheme, path := .segments path, query, fragment }
      | _ =>
        let body := rest.takeWhile fun c => c != '?' && c != '#'
        let (query, fragment) := queryAndFragment .other (rest.drop body.length)
        .ok { scheme, path := .verbatim (EncodeSet.controls.encode body), query, fragment }
  | none =>
    match base with
    | none => .error .relativeWithoutBase
    | some b =>
      match b.path, cs with
      | .verbatim _, '#' :: rest => .ok { b with fragment := some (EncodeSet.fragment.encode rest) }
      | .verbatim _, _ => .error .relativeWithoutBase
      | .segments _, _ => resolve b cs

def Url.parse (text : String) : Except ParseError Url := parseWith none text

def Url.join (base : Url) (text : String) : Except ParseError Url := parseWith (some base) text

theorem parse_relative (text : String) (h : schemeOf? (cleanInput text) = none) :
    Url.parse text = .error .relativeWithoutBase := by
  simp [Url.parse, parseWith, h]

end BookRelay.Url
