import BookRelay.Yaml.Scalar

/-!
# The token stream

Which token comes next is decided by the first character after blanks and comments, after
closing the block collections the current column leaves. Tokens are handed to the reader of
the structure one at a time; a token that may still become a simple key is held back until
the scanner knows.
-/

namespace BookRelay.Yaml.Scanner

/-- The byte offset of the `i`-th character of the text. -/
def byteOffset (s : Scanner) (i : Nat) : Nat :=
  s.skipped + ((s.text.toList.take i).map Char.utf8Size).foldl (· + ·) 0

/-- Start the stream. A character the reader refuses anywhere in the text fails here, before
any token, at its byte offset. -/
def fetchStreamStart (s : Scanner) : Except Problem Scanner :=
  match s.text.toList.findIdx? (fun c => !isAllowedChar c) with
  | some i => .error ⟨"control characters are not allowed", default, s.byteOffset i, none⟩
  | none =>
    .ok ({ s with indent := -1, keys := [SimpleKey.none], keyAllowed := true, started := true }.enqueue
      ⟨.streamStart, s.mark, s.mark⟩)

/-- End the stream: a line is ended if one is open, and every block is closed. -/
def fetchStreamEnd (s : Scanner) : Except Problem Scanner := do
  let s := if s.mark.column != 0 then
      { s with mark := { s.mark with column := 0, line := s.mark.line + 1 } } else s
  let s := s.unrollIndent (-1)
  let s ← s.removeSimpleKey
  let s := { s with keyAllowed := false }
  pure (s.enqueue ⟨.streamEnd, s.mark, s.mark⟩)

/-- A directive line; it closes every block. -/
def fetchDirective (s : Scanner) : Except Problem Scanner := do
  let s := s.unrollIndent (-1)
  let s ← s.removeSimpleKey
  scanDirective { s with keyAllowed := false }

/-- A document start or end marker; it closes every block. -/
def fetchDocumentIndicator (s : Scanner) (kind : TokenKind) : Except Problem Scanner := do
  let s := s.unrollIndent (-1)
  let s ← s.removeSimpleKey
  let start := s.mark
  let s := { s with keyAllowed := false }.skipN 3
  pure (s.enqueue ⟨kind, start, s.mark⟩)

/-- `[` or `{`: it may be a simple key, and a key may follow it. -/
def fetchFlowCollectionStart (s : Scanner) (kind : TokenKind) : Except Problem Scanner := do
  let s ← s.saveSimpleKey
  let s := { s.increaseFlowLevel with keyAllowed := true }
  let start := s.mark
  let s := s.skip
  pure (s.enqueue ⟨kind, start, s.mark⟩)

/-- `]` or `}`. -/
def fetchFlowCollectionEnd (s : Scanner) (kind : TokenKind) : Except Problem Scanner := do
  let s ← s.removeSimpleKey
  let s := { s.decreaseFlowLevel with keyAllowed := false }
  let start := s.mark
  let s := s.skip
  pure (s.enqueue ⟨kind, start, s.mark⟩)

/-- `,` between flow entries. -/
def fetchFlowEntry (s : Scanner) : Except Problem Scanner := do
  let s ← s.removeSimpleKey
  let start := s.mark
  let s := { s with keyAllowed := true }.skip
  pure (s.enqueue ⟨.flowEntry, start, s.mark⟩)

/-- `-` before a block sequence entry; outside flow collections it may open a sequence. -/
def fetchBlockEntry (s : Scanner) : Except Problem Scanner := do
  let s ← if s.flowLevel == 0 then
      if !s.keyAllowed then
        throw (s.fail none "block sequence entries are not allowed in this context")
      else pure (s.rollIndent s.mark.column none .blockSequenceStart s.mark)
    else pure s
  let s ← s.removeSimpleKey
  let start := s.mark
  let s := { s with keyAllowed := true }.skip
  pure (s.enqueue ⟨.blockEntry, start, s.mark⟩)

/-- `?` before an explicit key; outside flow collections it may open a mapping. -/
def fetchKey (s : Scanner) : Except Problem Scanner := do
  let s ← if s.flowLevel == 0 then
      if !s.keyAllowed then throw (s.fail none "mapping keys are not allowed in this context")
      else pure (s.rollIndent s.mark.column none .blockMappingStart s.mark)
    else pure s
  let s ← s.removeSimpleKey
  let start := s.mark
  let s := { s with keyAllowed := s.flowLevel == 0 }.skip
  pure (s.enqueue ⟨.key, start, s.mark⟩)

/-- `:` before a value. After a possible simple key, a key token goes in front of that key,
and a mapping start too if the key opens a deeper level. -/
def fetchValue (s : Scanner) : Except Problem Scanner := do
  let s ← match s.keys with
    | k :: _ =>
      if k.possible then
        let s := s.insertAt k.tokenNumber ⟨.key, k.mark, k.mark⟩
        let s := s.rollIndent k.mark.column (some k.tokenNumber) .blockMappingStart k.mark
        pure { s.setTopKey { k with possible := false } with keyAllowed := false }
      else if s.flowLevel == 0 && !s.keyAllowed then
        throw (s.fail none "mapping values are not allowed in this context")
      else
        let s := s.rollIndent s.mark.column none .blockMappingStart s.mark
        pure { s with keyAllowed := s.flowLevel == 0 }
    | [] => pure s
  let start := s.mark
  let s := s.skip
  pure (s.enqueue ⟨.value, start, s.mark⟩)

/-- Whether a plain scalar may start here: not at a blank or an indicator, except `-`
before a non-blank, and `?` or `:` before a non-blank outside flow collections. -/
def startsPlain (s : Scanner) : Bool :=
  let c := s.cur
  !(isBlankOrEnd c || "-?:,[]\x7b\x7d#&*!|>\x27\"%@\x60".contains c) ||
    (c == '-' && !isBlank (s.ch 1)) ||
    (s.flowLevel == 0 && (c == '?' || c == ':') && !isBlankOrEnd (s.ch 1))

/-- Queue the next token (or tokens: block ends and keys come before it). -/
def fetchNextToken (s : Scanner) : Except Problem Scanner := do
  if !s.started then
    return (← s.fetchStreamStart)
  let s := toNextToken (s.remaining + 1) s
  let s ← s.staleSimpleKeys
  let s := s.unrollIndent s.mark.column
  let c := s.cur
  if c == '\x00' then s.fetchStreamEnd
  else if s.mark.column == 0 && c == '%' then s.fetchDirective
  else if s.atMarker '-' then s.fetchDocumentIndicator .documentStart
  else if s.atMarker '.' then s.fetchDocumentIndicator .documentEnd
  else if c == '[' then s.fetchFlowCollectionStart .flowSequenceStart
  else if c == '\x7b' then s.fetchFlowCollectionStart .flowMappingStart
  else if c == ']' then s.fetchFlowCollectionEnd .flowSequenceEnd
  else if c == '\x7d' then s.fetchFlowCollectionEnd .flowMappingEnd
  else if c == ',' then s.fetchFlowEntry
  else if c == '-' && isBlankOrEnd (s.ch 1) then s.fetchBlockEntry
  else if c == '?' && (s.flowLevel > 0 || isBlankOrEnd (s.ch 1)) then s.fetchKey
  else if c == ':' && (s.flowLevel > 0 || isBlankOrEnd (s.ch 1)) then s.fetchValue
  else if c == '*' || c == '&' then do
    let s ← s.saveSimpleKey
    scanAnchor { s with keyAllowed := false } (c == '*')
  else if c == '!' then do
    let s ← s.saveSimpleKey
    scanTag { s with keyAllowed := false }
  else if (c == '|' || c == '>') && s.flowLevel == 0 then do
    let s ← s.removeSimpleKey
    scanBlockScalar (c == '|') { s with keyAllowed := true }
  else if c == '\x27' || c == '"' then do
    let s ← s.saveSimpleKey
    scanQuotedScalar (c == '\x27') { s with keyAllowed := false }
  else if s.startsPlain then do
    let s ← s.saveSimpleKey
    scanPlainScalar { s with keyAllowed := false }
  else
    throw (s.fail (some ("while scanning for the next token", s.mark))
      "found character that cannot start any token")

/-- Whether the next token must wait: none is queued, or the first queued one may still
become a simple key. Stale keys are dropped first. -/
def needsMore (s : Scanner) : Except Problem (Bool × Scanner) :=
  if s.queue.isEmpty then .ok (true, s)
  else do
    let s ← s.staleSimpleKeys
    pure (s.keys.any (fun k => k.possible && k.tokenNumber == s.taken), s)

/-- Fetch tokens until the first queued one can be handed out. -/
def fetchMoreTokens : Nat → Scanner → Except Problem Scanner
  | 0, s => .ok s
  | fuel + 1, s => do
    let (need, s) ← s.needsMore
    if need then fetchMoreTokens fuel (← s.fetchNextToken) else pure s

def peek (s : Scanner) : Except Problem (Token × Scanner) := do
  let s ← if s.available then pure s else fetchMoreTokens (2 * s.remaining + 8) s
  match s.queue with
  | t :: _ => pure (t, { s with available := true })
  | [] => throw (s.fail none "no more tokens")

def skipToken (s : Scanner) : Scanner :=
  { s with queue := s.queue.drop 1, taken := s.taken + 1, available := false }

end BookRelay.Yaml.Scanner
