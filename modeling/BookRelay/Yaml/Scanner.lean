import BookRelay.Yaml.Token
import BookRelay.Text.Utf8

/-!
# Cutting YAML text into tokens

The scanner walks the text once and queues tokens. Block structure comes from indentation:
a deeper line opens a block collection and a shallower one closes it. A scalar, flow
collection, anchor or tag may turn out to be a key only when a `:` follows it on the same
line; until then it is a *possible simple key*, and tokens are handed out only up to the
first such one. When the `:` comes, a key token (and, if the key opens a new indentation
level, a block-mapping start) is put in front of it.

Every loop here reads at least one character per round, so each is bounded by the length of
the text.
-/

namespace BookRelay.Yaml

/-- A place where a simple key may start, the number of the token there, and whether the
indentation makes a key obligatory there. -/
structure SimpleKey where
  possible : Bool
  required : Bool
  tokenNumber : Nat
  mark : Mark
  deriving Repr, Inhabited

def SimpleKey.none : SimpleKey := ⟨false, false, 0, {}⟩

/-- The scanner's state: the text, the place reached, the queued tokens and how many were
handed out, the indentation levels, the possible simple keys (innermost flow level first),
and the flow depth. -/
structure Scanner where
  text : Array Char
  /-- Bytes of a byte-order mark dropped before the text, counted in reader offsets. -/
  skipped : Nat := 0
  mark : Mark := {}
  queue : List Token := []
  taken : Nat := 0
  available : Bool := false
  indent : Int := -1
  indents : List Int := []
  keyAllowed : Bool := false
  keys : List SimpleKey := []
  flowLevel : Nat := 0
  started : Bool := false
  ended : Bool := false
  deriving Inhabited

namespace Scanner

/-- A scanner at the start of a text; a leading byte-order mark is dropped. -/
def ofString (s : String) : Scanner :=
  match s.toList with
  | '\uFEFF' :: rest => { text := rest.toArray, skipped := 3 }
  | cs => { text := cs.toArray }

/-- The character `k` places ahead; past the end it reads as NUL. -/
def ch (s : Scanner) (k : Nat) : Char := s.text.getD (s.mark.index + k) '\x00'

def cur (s : Scanner) : Char := s.ch 0

def remaining (s : Scanner) : Nat := s.text.size - s.mark.index

def produced (s : Scanner) : Nat := s.taken + s.queue.length

def skip (s : Scanner) : Scanner :=
  { s with mark := { s.mark with index := s.mark.index + 1, column := s.mark.column + 1 } }

/-- Step over `n` characters of a line. -/
def skipN (s : Scanner) (n : Nat) : Scanner :=
  { s with mark := { s.mark with index := s.mark.index + n, column := s.mark.column + n } }

/-- Step over a line end; CR LF counts as one. -/
def skipLine (s : Scanner) : Scanner :=
  if s.cur == '\r' && s.ch 1 == '\n' then
    { s with mark := ⟨s.mark.index + 2, s.mark.line + 1, 0⟩ }
  else if isBreak s.cur then { s with mark := ⟨s.mark.index + 1, s.mark.line + 1, 0⟩ }
  else s

/-- Read a line end: CR LF, CR, LF and NEL give a line feed, LS and PS stay as they are. -/
def readLine (s : Scanner) : String × Scanner :=
  if s.cur == '\r' && s.ch 1 == '\n' then ("\n", s.skipLine)
  else if s.cur == '\r' || s.cur == '\n' || s.cur == '\u0085' then ("\n", s.skipLine)
  else if s.cur == '\u2028' || s.cur == '\u2029' then (s.cur.toString, s.skipLine)
  else ("", s)

/-- A failure at the current place. -/
def fail (s : Scanner) (context : Option (String × Mark)) (problem : String) : Problem :=
  { problem, mark := s.mark, context }

/-- Whether the next three characters are `c` and a blank or line end follows them, at the
start of a line: a document marker. -/
def atMarker (s : Scanner) (c : Char) : Bool :=
  s.mark.column == 0 && s.cur == c && s.ch 1 == c && s.ch 2 == c && isBlankOrEnd (s.ch 3)

def atDocumentMarker (s : Scanner) : Bool := s.atMarker '-' || s.atMarker '.'

def enqueue (s : Scanner) (t : Token) : Scanner := { s with queue := s.queue ++ [t] }

/-- Put a token in front of the one numbered `number`. -/
def insertAt (s : Scanner) (number : Nat) (t : Token) : Scanner :=
  let i := number - s.taken
  { s with queue := s.queue.take i ++ t :: s.queue.drop i }

/-- Skip characters while `p` holds. -/
def skipWhile (p : Char → Bool) : Nat → Scanner → Scanner
  | 0, s => s
  | fuel + 1, s => if p s.cur then skipWhile p fuel s.skip else s

/-- Read characters while `p` holds. -/
def readWhile (p : Char → Bool) : Nat → String → Scanner → String × Scanner
  | 0, acc, s => (acc, s)
  | fuel + 1, acc, s => if p s.cur then readWhile p fuel (acc.push s.cur) s.skip else (acc, s)

/-! ## Simple keys and indentation -/

def setTopKey (s : Scanner) (k : SimpleKey) : Scanner :=
  { s with keys := match s.keys with | [] => [k] | _ :: rest => k :: rest }

/-- Drop the innermost possible key; an obligatory one that never got its `:` is an error. -/
def removeSimpleKey (s : Scanner) : Except Problem Scanner :=
  match s.keys with
  | k :: rest =>
    if k.possible && k.required then
      .error (s.fail (some ("while scanning a simple key", k.mark)) "could not find expected ':'")
    else .ok { s with keys := { k with possible := false } :: rest }
  | [] => .ok s

/-- Remember the current place as a possible simple key, if a key may start here. -/
def saveSimpleKey (s : Scanner) : Except Problem Scanner :=
  if s.keyAllowed then do
    let required := s.flowLevel == 0 && s.indent == (s.mark.column : Int)
    let s ← s.removeSimpleKey
    .ok (s.setTopKey ⟨true, required, s.produced, s.mark⟩)
  else .ok s

/-- A key that is no longer on the current line, or more than 1024 characters back, can no
longer be a simple key. -/
def isStale (s : Scanner) (k : SimpleKey) : Bool :=
  k.possible && (k.mark.line < s.mark.line || k.mark.index + 1024 < s.mark.index)

/-- Drop stale possible keys; an obligatory one is an error. -/
def staleSimpleKeys (s : Scanner) : Except Problem Scanner :=
  match s.keys.reverse.find? (fun k => s.isStale k && k.required) with
  | some k =>
    .error (s.fail (some ("while scanning a simple key", k.mark)) "could not find expected ':'")
  | none =>
    .ok { s with keys := s.keys.map fun k => if s.isStale k then { k with possible := false } else k }

def increaseFlowLevel (s : Scanner) : Scanner :=
  { s with keys := SimpleKey.none :: s.keys, flowLevel := s.flowLevel + 1 }

def decreaseFlowLevel (s : Scanner) : Scanner :=
  if s.flowLevel > 0 then { s with flowLevel := s.flowLevel - 1, keys := s.keys.drop 1 } else s

/-- Open a block collection at `column` if it is deeper than the current level; the start
token goes at the back or in front of token `number`. -/
def rollIndent (s : Scanner) (column : Int) (number : Option Nat) (kind : TokenKind)
    (m : Mark) : Scanner :=
  if s.flowLevel == 0 && s.indent < column then
    let s := { s with indents := s.indent :: s.indents, indent := column }
    match number with
    | none => s.enqueue ⟨kind, m, m⟩
    | some n => s.insertAt n ⟨kind, m, m⟩
  else s

/-- Close block collections deeper than `column`, one block end each. -/
def closeBlocks (column : Int) (m : Mark) : Int → List Int → List Token → Int × List Int × List Token
  | indent, [], acc => (indent, [], acc)
  | indent, i :: rest, acc =>
    if indent > column then closeBlocks column m i rest (acc ++ [⟨.blockEnd, m, m⟩])
    else (indent, i :: rest, acc)

/-- Close the block collections deeper than `column`. -/
def unrollIndent (s : Scanner) (column : Int) : Scanner :=
  if s.flowLevel > 0 then s
  else
    let (indent, indents, ends) := closeBlocks column s.mark s.indent s.indents []
    { s with indent, indents, queue := s.queue ++ ends }

/-! ## Blanks, comments and line ends between tokens -/

/-- Skip blanks, comments and line ends up to the next token. Tabs are skipped inside flow
collections and where no simple key may start; a line end in block context lets a key
start again. -/
def toNextToken : Nat → Scanner → Scanner
  | 0, s => s
  | fuel + 1, s =>
    let s := if s.mark.column == 0 && s.cur == '\uFEFF' then s.skip else s
    let s := skipWhile (fun c => c == ' ' || ((s.flowLevel > 0 || !s.keyAllowed) && c == '\t'))
      s.remaining s
    let s := if s.cur == '#' then skipWhile (fun c => !isBreakOrEnd c) s.remaining s else s
    if isBreak s.cur then
      let s := s.skipLine
      toNextToken fuel (if s.flowLevel == 0 then { s with keyAllowed := true } else s)
    else s

/-! ## Anchors, aliases and tags -/

def scanAnchor (s : Scanner) (isAlias : Bool) : Except Problem Scanner :=
  let start := s.mark
  let (name, s) := readWhile isWordChar s.remaining "" s.skip
  let c := s.cur
  if name.isEmpty || !(isBlankOrEnd c || c == '?' || c == ':' || c == ',' || c == ']' ||
      c == '}' || c == '%' || c == '@' || c == '\x60') then
    .error (s.fail (some (if isAlias then "while scanning an alias" else "while scanning an anchor",
      start)) "did not find expected alphabetic or numeric character")
  else
    .ok (s.enqueue ⟨if isAlias then .alias name else .anchor name, start, s.mark⟩)

/-- A character allowed in a tag URI; inside `!<...>` also `,`, `[` and `]`. -/
def isUriChar (verbatim : Bool) (c : Char) : Bool :=
  isWordChar c || ";/?:@&=+$.%!~*\x27()".contains c || (verbatim && ",[]".contains c)

/-- The length of the UTF-8 sequence a leading octet opens, or zero. -/
def octetWidth (o : Nat) : Nat :=
  if o % 0x80 == o then 1
  else if o / 0x20 == 6 then 2
  else if o / 0x10 == 14 then 3
  else if o / 0x08 == 30 then 4
  else 0

/-- Read the `%XX` escapes of one UTF-8 sequence in a tag URI. -/
def uriEscapes (context : String) (start : Mark) : Nat → Nat → List UInt8 → Scanner →
    Except Problem (List UInt8 × Scanner)
  | 0, _, acc, s => .ok (acc, s)
  | fuel + 1, width, acc, s =>
    if !(s.cur == '%' && isHexDigit (s.ch 1) && isHexDigit (s.ch 2)) then
      .error (s.fail (some (context, start)) "did not find URI escaped octet")
    else
      let o := hexValue (s.ch 1) * 16 + hexValue (s.ch 2)
      let w := if width == 0 then octetWidth o else width
      if width == 0 && w == 0 then
        .error (s.fail (some (context, start)) "found an incorrect leading UTF-8 octet")
      else if width != 0 && o / 0x40 != 2 then
        .error (s.fail (some (context, start)) "found an incorrect trailing UTF-8 octet")
      else
        let acc := acc ++ [o.toUInt8]
        let s := s.skipN 3
        if w ≤ 1 then .ok (acc, s) else uriEscapes context start fuel (w - 1) acc s

/-- Read the URI part of a tag, after `head` (whose leading `!` is dropped). -/
def scanTagUri (verbatim directive : Bool) (head : String) (start : Mark) :
    Nat → String → Nat → Scanner → Except Problem (String × Scanner)
  | 0, acc, _, s => .ok (acc, s)
  | fuel + 1, acc, length, s =>
    let context := if directive then "while parsing a %TAG directive" else "while parsing a tag"
    if isUriChar verbatim s.cur then
      if s.cur == '%' then
        match uriEscapes context start 4 0 [] s with
        | .error e => .error e
        | .ok (bytes, s) =>
          scanTagUri verbatim directive head start fuel (acc ++ Text.Utf8.decodeLossy bytes)
            (length + 1) s
      else scanTagUri verbatim directive head start fuel (acc.push s.cur) (length + 1) s.skip
    else if length == 0 then
      .error (s.fail (some (context, start)) "did not find expected tag URI")
    else .ok (acc, s)

/-- Read a tag URI after `head`. -/
def tagUri (verbatim directive : Bool) (head : String) (start : Mark) (s : Scanner) :
    Except Problem (String × Scanner) :=
  scanTagUri verbatim directive head start (s.remaining + 1)
    (if head.length > 1 then head.drop 1 |>.toString else "") head.length s

/-- Read a tag handle: `!`, then word characters, then an optional closing `!`. -/
def tagHandle (directive : Bool) (start : Mark) (s : Scanner) :
    Except Problem (String × Scanner) :=
  if s.cur != '!' then
    .error (s.fail (some (if directive then "while scanning a tag directive"
      else "while scanning a tag", start)) "did not find expected '!'")
  else
    let (name, s) := readWhile isWordChar s.remaining "!" s.skip
    if s.cur == '!' then .ok (name.push '!', s.skip)
    else if directive && name != "!" then
      .error (s.fail (some ("while parsing a tag directive", start)) "did not find expected '!'")
    else .ok (name, s)

/-- Read a tag: `!<uri>`, `!handle!suffix`, `!suffix` or a lone `!`. -/
def scanTag (s : Scanner) : Except Problem Scanner := do
  let start := s.mark
  let (handle, suffix, s) ← if s.ch 1 == '<' then do
      let (suffix, s) ← tagUri true false "" start (s.skipN 2)
      if s.cur != '>' then
        throw (s.fail (some ("while scanning a tag", start)) "did not find the expected '>'")
      pure ("", suffix, s.skip)
    else do
      let (handle, s) ← tagHandle false start s
      if handle.length > 1 && handle.endsWith "!" then
        let (suffix, s) ← tagUri false false "" start s
        pure (handle, suffix, s)
      else
        let (suffix, s) ← tagUri false false handle start s
        if suffix.isEmpty then pure ("", "!", s) else pure ("!", suffix, s)
  if !isBlankOrEnd s.cur && !(s.flowLevel > 0 && s.cur == ',') then
    throw (s.fail (some ("while scanning a tag", start))
      "did not find expected whitespace or line break")
  pure (s.enqueue ⟨.tag handle suffix, start, s.mark⟩)

/-! ## Directives -/

/-- Read a version number of at most nine digits. -/
def versionNumber (start : Mark) (s : Scanner) : Except Problem (Nat × Scanner) :=
  let (digits, s') := readWhile Char.isDigit s.remaining "" s
  if digits.length > 9 then
    .error ((s.skipN 9).fail (some ("while scanning a %YAML directive", start))
      "found extremely long version number")
  else if digits.isEmpty then
    .error (s.fail (some ("while scanning a %YAML directive", start))
      "did not find expected version number")
  else .ok (digits.toNat!, s')

/-- Read a directive line: `%YAML major.minor` or `%TAG handle prefix`. -/
def scanDirective (s : Scanner) : Except Problem Scanner := do
  let start := s.mark
  let (name, s) := readWhile isWordChar s.remaining "" s.skip
  if name.isEmpty then
    throw (s.fail (some ("while scanning a directive", start))
      "could not find expected directive name")
  if !isBlankOrEnd s.cur then
    throw (s.fail (some ("while scanning a directive", start))
      "found unexpected non-alphabetical character")
  let (kind, s) ← if name == "YAML" then do
      let s := skipWhile isBlank s.remaining s
      let (major, s) ← versionNumber start s
      if s.cur != '.' then
        throw (s.fail (some ("while scanning a %YAML directive", start))
          "did not find expected digit or '.' character")
      let (minor, s) ← versionNumber start s.skip
      pure (TokenKind.versionDirective major minor, s)
    else if name == "TAG" then do
      let s := skipWhile isBlank s.remaining s
      let (handle, s) ← tagHandle true start s
      if !isBlank s.cur then
        throw (s.fail (some ("while scanning a %TAG directive", start))
          "did not find expected whitespace")
      let s := skipWhile isBlank s.remaining s
      let (expansion, s) ← tagUri true true "" start s
      if !isBlankOrEnd s.cur then
        throw (s.fail (some ("while scanning a %TAG directive", start))
          "did not find expected whitespace or line break")
      pure (TokenKind.tagDirective handle expansion, s)
    else throw (s.fail (some ("while scanning a directive", start)) "found unknown directive name")
  let stop := s.mark
  let s := skipWhile isBlank s.remaining s
  let s := if s.cur == '#' then skipWhile (fun c => !isBreakOrEnd c) s.remaining s else s
  if !isBreakOrEnd s.cur then
    throw (s.fail (some ("while scanning a directive", start))
      "did not find expected comment or line break")
  let s := if isBreak s.cur then s.skipLine else s
  pure (s.enqueue ⟨kind, start, stop⟩)

end Scanner

end BookRelay.Yaml
