import BookRelay.Yaml.TokenStream

/-!
# From tokens to events

The structure of a YAML stream as a sequence of events: documents, and inside them scalars,
aliases, and the starts and ends of sequences and mappings, each with the place where it
starts. The reader is a state machine with a stack of states to return to; it asks the
scanner for one token at a time, so a scanner failure surfaces only when the reader reaches
it.

A key or value with nothing after it reads as an empty plain scalar. A tag handle is
expanded by the `%TAG` directives of its document, with `!` and `!!` always known.
-/

namespace BookRelay.Yaml

inductive Event where
  | streamStart
  | streamEnd
  | documentStart
  | documentEnd
  | alias (name : String)
  | scalar (anchor tag : Option String) (text : String) (style : ScalarStyle)
  | sequenceStart (anchor tag : Option String)
  | sequenceEnd
  | mappingStart (anchor tag : Option String)
  | mappingEnd
  deriving Repr, Inhabited

/-- Where the reader of the structure stands. -/
inductive ParseState where
  | streamStart
  | implicitDocumentStart
  | documentStart
  | documentContent
  | documentEnd
  | blockNode
  | blockSequenceFirstEntry
  | blockSequenceEntry
  | indentlessSequenceEntry
  | blockMappingFirstKey
  | blockMappingKey
  | blockMappingValue
  | flowSequenceFirstEntry
  | flowSequenceEntry
  | flowSequenceEntryMappingKey
  | flowSequenceEntryMappingValue
  | flowSequenceEntryMappingEnd
  | flowMappingFirstKey
  | flowMappingKey
  | flowMappingValue
  | flowMappingEmptyValue
  | finished
  deriving Repr, BEq, Inhabited

/-- The reader of the structure: the scanner, the current state, the states to return to,
the starts of the open collections, and the tag handles of the current document. -/
structure Parser where
  scanner : Scanner
  state : ParseState := .streamStart
  states : List ParseState := []
  marks : List Mark := []
  handles : List (String × String) := []
  deriving Inhabited

/-- One event, with the place where it starts, and the reader after it. -/
abbrev Step := Except Problem (Event × Mark × Parser)

/-- The tag handles every document knows. -/
def defaultHandles : List (String × String) := [("!", "!"), ("!!", "tag:yaml.org,2002:")]

namespace Parser

def ofString (s : String) : Parser := { scanner := Scanner.ofString s }

def peek (p : Parser) : Except Problem (Token × Parser) := do
  let (t, s) ← p.scanner.peek
  pure (t, { p with scanner := s })

def skip (p : Parser) : Parser := { p with scanner := p.scanner.skipToken }

def pop (p : Parser) : Parser :=
  match p.states with
  | st :: rest => { p with state := st, states := rest }
  | [] => { p with state := .finished }

def push (p : Parser) (st : ParseState) : Parser := { p with states := st :: p.states }

def popMark (p : Parser) : Mark × Parser :=
  match p.marks with
  | m :: rest => (m, { p with marks := rest })
  | [] => (default, p)

/-- An empty plain scalar at `m`. -/
def empty (p : Parser) (m : Mark) : Step := .ok (.scalar none none "" .plain, m, p)

/-- A failure of the reader, with what it was reading. -/
def fail (context : String) (contextMark : Mark) (problem : String) (m : Mark) : Problem :=
  { problem, mark := m, context := some (context, contextMark) }

/-- Read a node: an alias, or an optional anchor and tag (in either order) before a scalar,
a collection, or nothing, which reads as an empty scalar. `block` allows block collections;
`indentless` allows a sequence of `-` entries at the indentation of its mapping key. -/
def node (p : Parser) (block indentless : Bool) : Step := do
  let (t, p) ← p.peek
  match t.kind with
  | .alias name => pure (.alias name, t.start, p.pop.skip)
  | _ =>
    let start := t.start
    let (anchor, tag, tagMark, t, p) ← match t.kind with
      | .anchor a => do
        let (t2, p) ← p.skip.peek
        match t2.kind with
        | .tag h sfx =>
          let (t3, p) ← p.skip.peek
          pure (some a, some (h, sfx), t2.start, t3, p)
        | _ => pure (some a, none, start, t2, p)
      | .tag h sfx => do
        let (t2, p) ← p.skip.peek
        match t2.kind with
        | .anchor a =>
          let (t3, p) ← p.skip.peek
          pure (some a, some (h, sfx), start, t3, p)
        | _ => pure (none, some (h, sfx), start, t2, p)
      | _ => pure (none, none, start, t, p)
    let tag ← match tag with
      | none => pure none
      | some (h, sfx) =>
        if h.isEmpty then pure (some sfx)
        else match p.handles.lookup h with
          | some e => pure (some (e ++ sfx))
          | none => throw (fail "while parsing a node" start "found undefined tag handle" tagMark)
    match t.kind with
    | .blockEntry =>
      if indentless then pure (.sequenceStart anchor tag, start, { p with state := .indentlessSequenceEntry })
      else if anchor.isSome || tag.isSome then pure (.scalar anchor tag "" .plain, start, p.pop)
      else throw (fail (if block then "while parsing a block node" else "while parsing a flow node")
        start "did not find expected node content" t.start)
    | .scalar text style => pure (.scalar anchor tag text style, start, p.pop.skip)
    | .flowSequenceStart =>
      pure (.sequenceStart anchor tag, start, { p with state := .flowSequenceFirstEntry })
    | .flowMappingStart =>
      pure (.mappingStart anchor tag, start, { p with state := .flowMappingFirstKey })
    | .blockSequenceStart =>
      if block then pure (.sequenceStart anchor tag, start, { p with state := .blockSequenceFirstEntry })
      else if anchor.isSome || tag.isSome then pure (.scalar anchor tag "" .plain, start, p.pop)
      else throw (fail "while parsing a flow node" start "did not find expected node content" t.start)
    | .blockMappingStart =>
      if block then pure (.mappingStart anchor tag, start, { p with state := .blockMappingFirstKey })
      else if anchor.isSome || tag.isSome then pure (.scalar anchor tag "" .plain, start, p.pop)
      else throw (fail "while parsing a flow node" start "did not find expected node content" t.start)
    | _ =>
      if anchor.isSome || tag.isSome then pure (.scalar anchor tag "" .plain, start, p.pop)
      else throw (fail (if block then "while parsing a block node" else "while parsing a flow node")
        start "did not find expected node content" t.start)

/-- Read the directives before a document, then add the default tag handles. -/
def directives : Nat → Bool → Parser → Except Problem Parser
  | 0, _, p => .ok p
  | fuel + 1, seenVersion, p => do
    let (t, p) ← p.peek
    match t.kind with
    | .versionDirective major minor =>
      if seenVersion then throw { problem := "found duplicate %YAML directive", mark := t.start }
      if major != 1 || (minor != 1 && minor != 2) then
        throw { problem := "found incompatible YAML document", mark := t.start }
      directives fuel true p.skip
    | .tagDirective h e =>
      if (p.handles.lookup h).isSome then
        throw { problem := "found duplicate %TAG directive", mark := t.start }
      directives fuel seenVersion { p.skip with handles := p.handles ++ [(h, e)] }
    | _ =>
      pure { p with handles := p.handles ++ defaultHandles.filter fun (h, _) => (p.handles.lookup h).isNone }

/-- Whether a token can only come before or after a document's content. -/
def outsideContent : TokenKind → Bool
  | .versionDirective _ _ | .tagDirective _ _ | .documentStart | .streamEnd => true
  | _ => false

/-- Skip `...` markers between documents. -/
def skipDocumentEnds : Nat → Parser → Except Problem (Token × Parser)
  | 0, p => p.peek
  | fuel + 1, p => do
    let (t, p) ← p.peek
    match t.kind with
    | .documentEnd => skipDocumentEnds fuel p.skip
    | _ => pure (t, p)

/-- The start of a document: implicit (content right away), explicit (`---` after optional
directives), or the end of the stream. -/
def documentStart (p : Parser) (implicit : Bool) : Step := do
  let (t, p) ← if implicit then p.peek else skipDocumentEnds (p.scanner.remaining + 2) p
  if implicit && !outsideContent t.kind then
    let p ← directives 1 false p
    pure (.documentStart, t.start, { (p.push .documentEnd) with state := .blockNode })
  else match t.kind with
    | .streamEnd => pure (.streamEnd, t.start, { p.skip with state := .finished })
    | _ => do
      let p ← directives (p.scanner.remaining + 2) false p
      let (t2, p) ← p.peek
      match t2.kind with
      | .documentStart =>
        pure (.documentStart, t.start, { (p.push .documentEnd) with state := .documentContent }.skip)
      | _ => throw { problem := "did not find expected <document start>", mark := t2.start }

def documentContent (p : Parser) : Step := do
  let (t, p) ← p.peek
  match t.kind with
  | .versionDirective _ _ | .tagDirective _ _ | .documentStart | .documentEnd | .streamEnd =>
    p.pop.empty t.start
  | _ => p.node true false

/-- The end of a document, with or without `...`. -/
def documentEnd (p : Parser) : Step := do
  let (t, p) ← p.peek
  let p := match t.kind with
    | .documentEnd => p.skip
    | _ => p
  pure (.documentEnd, t.start, { p with handles := [], state := .documentStart })

/-- Open a collection: remember where it starts and step past its start token. -/
def openCollection (p : Parser) (first : Bool) : Except Problem Parser := do
  if first then
    let (t, p) ← p.peek
    pure { p with marks := t.start :: p.marks }.skip
  else pure p

def blockSequenceEntry (p : Parser) (first : Bool) : Step := do
  let p ← p.openCollection first
  let (t, p) ← p.peek
  match t.kind with
  | .blockEntry =>
    let m := t.stop
    let (t2, p) ← p.skip.peek
    match t2.kind with
    | .blockEntry | .blockEnd => ({ p with state := .blockSequenceEntry }).empty m
    | _ => (p.push .blockSequenceEntry).node true false
  | .blockEnd =>
    let (_, p) := p.popMark
    pure (.sequenceEnd, t.start, p.pop.skip)
  | _ =>
    let (m, _) := p.popMark
    throw (fail "while parsing a block collection" m "did not find expected '-' indicator" t.start)

/-- An entry of a sequence written at the indentation of its mapping key, or its end. -/
def indentlessSequenceEntry (p : Parser) : Step := do
  let (t, p) ← p.peek
  match t.kind with
  | .blockEntry =>
    let m := t.stop
    let (t2, p) ← p.skip.peek
    match t2.kind with
    | .blockEntry | .key | .value | .blockEnd => ({ p with state := .indentlessSequenceEntry }).empty m
    | _ => (p.push .indentlessSequenceEntry).node true false
  | _ => pure (.sequenceEnd, t.start, p.pop)

def blockMappingKey (p : Parser) (first : Bool) : Step := do
  let p ← p.openCollection first
  let (t, p) ← p.peek
  match t.kind with
  | .key =>
    let m := t.stop
    let (t2, p) ← p.skip.peek
    match t2.kind with
    | .key | .value | .blockEnd => ({ p with state := .blockMappingValue }).empty m
    | _ => (p.push .blockMappingValue).node true true
  | .blockEnd =>
    let (_, p) := p.popMark
    pure (.mappingEnd, t.start, p.pop.skip)
  | _ =>
    let (m, _) := p.popMark
    throw (fail "while parsing a block mapping" m "did not find expected key" t.start)

/-- A value of a block mapping; a missing one is empty. -/
def blockMappingValue (p : Parser) : Step := do
  let (t, p) ← p.peek
  match t.kind with
  | .value =>
    let m := t.stop
    let (t2, p) ← p.skip.peek
    match t2.kind with
    | .key | .value | .blockEnd => ({ p with state := .blockMappingKey }).empty m
    | _ => (p.push .blockMappingKey).node true true
  | _ => ({ p with state := .blockMappingKey }).empty t.start

/-- An entry of a flow sequence, or its end. A `?` entry is a one-pair mapping. -/
def flowSequenceEntry (p : Parser) (first : Bool) : Step := do
  let p ← p.openCollection first
  let (t, p) ← p.peek
  let endSequence := fun (t : Token) (p : Parser) =>
    let (_, p) := p.popMark
    (Except.ok (.sequenceEnd, t.start, p.pop.skip) : Step)
  match t.kind with
  | .flowSequenceEnd => endSequence t p
  | _ =>
    let (t, p) ← if first then pure (t, p)
      else match t.kind with
        | .flowEntry => p.skip.peek
        | _ =>
          let (m, _) := p.popMark
          throw (fail "while parsing a flow sequence" m "did not find expected ',' or ']'" t.start)
    match t.kind with
    | .key => pure (.mappingStart none none, t.start, { p with state := .flowSequenceEntryMappingKey }.skip)
    | .flowSequenceEnd => endSequence t p
    | _ => (p.push .flowSequenceEntry).node false false

def flowSequenceEntryMappingKey (p : Parser) : Step := do
  let (t, p) ← p.peek
  match t.kind with
  | .value | .flowEntry | .flowSequenceEnd =>
    ({ p.skip with state := .flowSequenceEntryMappingValue }).empty t.stop
  | _ => (p.push .flowSequenceEntryMappingValue).node false false

def flowSequenceEntryMappingValue (p : Parser) : Step := do
  let (t, p) ← p.peek
  match t.kind with
  | .value =>
    let (t2, p) ← p.skip.peek
    match t2.kind with
    | .flowEntry | .flowSequenceEnd => ({ p with state := .flowSequenceEntryMappingEnd }).empty t2.start
    | _ => (p.push .flowSequenceEntryMappingEnd).node false false
  | _ => ({ p with state := .flowSequenceEntryMappingEnd }).empty t.start

def flowSequenceEntryMappingEnd (p : Parser) : Step := do
  let (t, p) ← p.peek
  pure (.mappingEnd, t.start, { p with state := .flowSequenceEntry })

def flowMappingKey (p : Parser) (first : Bool) : Step := do
  let p ← p.openCollection first
  let (t, p) ← p.peek
  let endMapping := fun (t : Token) (p : Parser) =>
    let (_, p) := p.popMark
    (Except.ok (.mappingEnd, t.start, p.pop.skip) : Step)
  match t.kind with
  | .flowMappingEnd => endMapping t p
  | _ =>
    let (t, p) ← if first then pure (t, p)
      else match t.kind with
        | .flowEntry => p.skip.peek
        | _ =>
          let (m, _) := p.popMark
          throw (fail "while parsing a flow mapping" m "did not find expected ',' or '\x7d'" t.start)
    match t.kind with
    | .key =>
      let (t2, p) ← p.skip.peek
      match t2.kind with
      | .value | .flowEntry | .flowMappingEnd => ({ p with state := .flowMappingValue }).empty t2.start
      | _ => (p.push .flowMappingValue).node false false
    | .flowMappingEnd => endMapping t p
    | _ => (p.push .flowMappingEmptyValue).node false false

/-- A value of a flow mapping; after a key without `:` it is empty. -/
def flowMappingValue (p : Parser) (isEmpty : Bool) : Step := do
  let (t, p) ← p.peek
  if isEmpty then ({ p with state := .flowMappingKey }).empty t.start
  else match t.kind with
    | .value =>
      let (t2, p) ← p.skip.peek
      match t2.kind with
      | .flowEntry | .flowMappingEnd => ({ p with state := .flowMappingKey }).empty t2.start
      | _ => (p.push .flowMappingKey).node false false
    | _ => ({ p with state := .flowMappingKey }).empty t.start

/-- The first token of the stream. -/
def streamStart (p : Parser) : Step := do
  let (t, p) ← p.peek
  match t.kind with
  | .streamStart => pure (.streamStart, t.start, { p.skip with state := .implicitDocumentStart })
  | _ => throw { problem := "did not find expected <stream-start>", mark := t.start }

/-- The next event and the reader after it. After the end of the stream it stays there. -/
def next (p : Parser) : Step :=
  match p.state with
  | .streamStart => p.streamStart
  | .implicitDocumentStart => p.documentStart true
  | .documentStart => p.documentStart false
  | .documentContent => p.documentContent
  | .documentEnd => p.documentEnd
  | .blockNode => p.node true false
  | .blockSequenceFirstEntry => p.blockSequenceEntry true
  | .blockSequenceEntry => p.blockSequenceEntry false
  | .indentlessSequenceEntry => p.indentlessSequenceEntry
  | .blockMappingFirstKey => p.blockMappingKey true
  | .blockMappingKey => p.blockMappingKey false
  | .blockMappingValue => p.blockMappingValue
  | .flowSequenceFirstEntry => p.flowSequenceEntry true
  | .flowSequenceEntry => p.flowSequenceEntry false
  | .flowSequenceEntryMappingKey => p.flowSequenceEntryMappingKey
  | .flowSequenceEntryMappingValue => p.flowSequenceEntryMappingValue
  | .flowSequenceEntryMappingEnd => p.flowSequenceEntryMappingEnd
  | .flowMappingFirstKey => p.flowMappingKey true
  | .flowMappingKey => p.flowMappingKey false
  | .flowMappingValue => p.flowMappingValue false
  | .flowMappingEmptyValue => p.flowMappingValue true
  | .finished => .ok (.streamEnd, p.scanner.mark, p)

end Parser

end BookRelay.Yaml
