import BookRelay.Yaml.Scanner

/-!
# Scalars

The three ways of writing a scalar. A *plain* scalar runs to `: `, ` #`, a flow indicator
inside a flow collection, or a line less indented than its block; a *quoted* one to its
closing quote, with `''` or backslash escapes; a *block* one (`|` keeps line ends, `>` folds
them) takes every line indented at least as far as its first line, and its last line ends
are clipped, stripped or kept.

Inside plain and quoted scalars a single line end between two pieces of text folds into a
space; each further empty line gives one line feed.
-/

namespace BookRelay.Yaml.Scanner

/-- Text of a scalar being read, with the blanks and line ends met since the last non-blank
character: the first line end, the line ends after it, and blanks before any line end. -/
structure Folding where
  text : String := ""
  leadingBreak : String := ""
  trailingBreaks : String := ""
  whitespaces : String := ""
  leadingBlanks : Bool := false
  deriving Inhabited

/-- Join pending line ends to the text: a lone line feed folds into a space, line feeds after
it stay; a first LS or PS stays together with what follows it. -/
def Folding.foldBreaks (f : Folding) : Folding :=
  let text :=
    if f.leadingBreak == "\n" then
      if f.trailingBreaks.isEmpty then f.text.push ' ' else f.text ++ f.trailingBreaks
    else f.text ++ f.leadingBreak ++ f.trailingBreaks
  { f with text, leadingBreak := "", trailingBreaks := "" }

/-- Join what is pending before the next non-blank character of a plain scalar. -/
def Folding.flush (f : Folding) : Folding :=
  if f.leadingBlanks then { f.foldBreaks with leadingBlanks := false }
  else { f with text := f.text ++ f.whitespaces, whitespaces := "" }

/-- Read blanks and line ends after a run of text. Blanks before the first line end are kept
aside; after it they are indentation. For a plain scalar (`plain` gives its block's
indentation and start) a tab inside that indentation is refused. -/
def scalarBlanks (plain : Option (Int × Mark)) : Nat → Folding → Scanner →
    Except Problem (Folding × Scanner)
  | 0, f, s => .ok (f, s)
  | fuel + 1, f, s =>
    if isBlank s.cur then
      match plain with
      | some (indent, start) =>
        if f.leadingBlanks && (s.mark.column : Int) < indent && s.cur == '\t' then
          .error (s.fail (some ("while scanning a plain scalar", start))
            "found a tab character that violates indentation")
        else if f.leadingBlanks then scalarBlanks plain fuel f s.skip
        else scalarBlanks plain fuel { f with whitespaces := f.whitespaces.push s.cur } s.skip
      | none =>
        if f.leadingBlanks then scalarBlanks plain fuel f s.skip
        else scalarBlanks plain fuel { f with whitespaces := f.whitespaces.push s.cur } s.skip
    else if isBreak s.cur then
      let (b, s) := s.readLine
      if f.leadingBlanks then scalarBlanks plain fuel { f with trailingBreaks := f.trailingBreaks ++ b } s
      else scalarBlanks plain fuel { f with whitespaces := "", leadingBreak := b, leadingBlanks := true } s
    else .ok (f, s)

/-! ## Plain scalars -/

/-- Read the non-blank characters of a plain scalar up to an indicator that ends it. Inside a
flow collection `:` directly before `,`, `?`, or a bracket is refused. -/
def plainChars (start : Mark) : Nat → Folding → Mark → Scanner →
    Except Problem (Folding × Mark × Scanner)
  | 0, f, e, s => .ok (f, e, s)
  | fuel + 1, f, e, s =>
    let c := s.cur
    if isBlankOrEnd c then .ok (f, e, s)
    else if s.flowLevel > 0 && c == ':' && ",?[]\x7b\x7d".contains (s.ch 1) then
      .error (s.fail (some ("while scanning a plain scalar", start)) "found unexpected ':'")
    else if (c == ':' && isBlankOrEnd (s.ch 1)) || (s.flowLevel > 0 && ",[]\x7b\x7d".contains c) then
      .ok (f, e, s)
    else
      let f := f.flush
      let s := s.skip
      plainChars start fuel { f with text := f.text.push c } s.mark s

/-- Read the lines of a plain scalar; it ends at a document marker, a comment, an indicator,
or a line less indented than `indent` outside flow collections. -/
def plainLines (start : Mark) (indent : Int) : Nat → Folding → Mark → Scanner →
    Except Problem (Folding × Mark × Scanner)
  | 0, f, e, s => .ok (f, e, s)
  | fuel + 1, f, e, s =>
    if s.atDocumentMarker || s.cur == '#' then .ok (f, e, s)
    else
      match plainChars start (s.remaining + 1) f e s with
      | .error p => .error p
      | .ok (f, e, s) =>
        if !(isBlank s.cur || isBreak s.cur) then .ok (f, e, s)
        else
          match scalarBlanks (some (indent, start)) (s.remaining + 1) f s with
          | .error p => .error p
          | .ok (f, s) =>
            if s.flowLevel == 0 && (s.mark.column : Int) < indent then .ok (f, e, s)
            else plainLines start indent fuel f e s

/-- Read a plain scalar and queue it. A simple key may follow one that ended at a line end. -/
def scanPlainScalar (s : Scanner) : Except Problem Scanner := do
  let start := s.mark
  let (f, e, s) ← plainLines start (s.indent + 1) (s.remaining + 1) {} start s
  let s := s.enqueue ⟨.scalar f.text .plain, start, e⟩
  pure (if f.leadingBlanks then { s with keyAllowed := true } else s)

/-! ## Quoted scalars -/

/-- The meaning of the character after a backslash: a character, or the number of hex digits
of a code point that follows. -/
def escapeOf : Char → Option (Char ⊕ Nat)
  | '0' => some (.inl '\x00')
  | 'a' => some (.inl '\x07')
  | 'b' => some (.inl '\x08')
  | 't' => some (.inl '\t')
  | '\t' => some (.inl '\t')
  | 'n' => some (.inl '\n')
  | 'v' => some (.inl '\x0b')
  | 'f' => some (.inl '\x0c')
  | 'r' => some (.inl '\r')
  | 'e' => some (.inl '\x1b')
  | ' ' => some (.inl ' ')
  | '"' => some (.inl '"')
  | '/' => some (.inl '/')
  | '\x27' => some (.inl '\x27')
  | '\\' => some (.inl '\\')
  | 'N' => some (.inl '\u0085')
  | '_' => some (.inl '\u00A0')
  | 'L' => some (.inl '\u2028')
  | 'P' => some (.inl '\u2029')
  | 'x' => some (.inr 2)
  | 'u' => some (.inr 4)
  | 'U' => some (.inr 8)
  | _ => none

/-- The value of `n` hex digits starting `k` places ahead, if they are all hex digits. -/
def hexAhead (s : Scanner) (n : Nat) : Option Nat :=
  (List.range n).foldl (fun acc k => acc.bind fun v =>
    if isHexDigit (s.ch k) then some (v * 16 + hexValue (s.ch k)) else none) (some 0)

/-- Read the non-blank characters of a quoted scalar, resolving `''` in single quotes and
backslash escapes in double quotes. An escaped line end stops the run as a folded break. -/
def quotedChars (single : Bool) (start : Mark) : Nat → Folding → Scanner →
    Except Problem (Folding × Scanner)
  | 0, f, s => .ok (f, s)
  | fuel + 1, f, s =>
    let c := s.cur
    let context := some ("while parsing a quoted scalar", start)
    if isBlankOrEnd c then .ok (f, s)
    else if single && c == '\x27' && s.ch 1 == '\x27' then
      quotedChars single start fuel { f with text := f.text.push '\x27' } (s.skipN 2)
    else if c == (if single then '\x27' else '"') then .ok (f, s)
    else if !single && c == '\\' && isBreak (s.ch 1) then
      .ok ({ f with leadingBlanks := true }, s.skip.skipLine)
    else if !single && c == '\\' then
      match escapeOf (s.ch 1) with
      | none => .error (s.fail context "found unknown escape character")
      | some (.inl e) => quotedChars single start fuel { f with text := f.text.push e } (s.skipN 2)
      | some (.inr n) =>
        let s := s.skipN 2
        match hexAhead s n with
        | none => .error (s.fail context "did not find expected hexdecimal number")
        | some v =>
          if (0xD800 ≤ v && v ≤ 0xDFFF) || v > 0x10FFFF then
            .error (s.fail context "found invalid Unicode character escape code")
          else quotedChars single start fuel { f with text := f.text.push (Char.ofNat v) } (s.skipN n)
    else quotedChars single start fuel { f with text := f.text.push c } s.skip

/-- Read the lines of a quoted scalar up to its closing quote. -/
def quotedLines (single : Bool) (start : Mark) : Nat → Folding → Scanner →
    Except Problem (Folding × Scanner)
  | 0, f, s => .ok (f, s)
  | fuel + 1, f, s =>
    let context := some ("while scanning a quoted scalar", start)
    if s.atDocumentMarker then .error (s.fail context "found unexpected document indicator")
    else if s.cur == '\x00' then .error (s.fail context "found unexpected end of stream")
    else
      match quotedChars single start (s.remaining + 1) { f with leadingBlanks := false } s with
      | .error p => .error p
      | .ok (f, s) =>
        if s.cur == (if single then '\x27' else '"') then .ok (f, s)
        else
          match scalarBlanks none (s.remaining + 1) f s with
          | .error p => .error p
          | .ok (f, s) =>
            let f := if f.leadingBlanks then f.foldBreaks
              else { f with text := f.text ++ f.whitespaces, whitespaces := "" }
            quotedLines single start fuel f s

def scanQuotedScalar (single : Bool) (s : Scanner) : Except Problem Scanner := do
  let start := s.mark
  let (f, s) ← quotedLines single start (s.remaining + 2) {} s.skip
  let s := s.skip
  pure (s.enqueue ⟨.scalar f.text (if single then .singleQuoted else .doubleQuoted), start, s.mark⟩)

/-! ## Block scalars -/

/-- Skip spaces of indentation up to column `indent` (all of them while it is unknown). -/
def skipIndentation (indent : Int) : Nat → Scanner → Scanner
  | 0, s => s
  | fuel + 1, s =>
    if (indent == 0 || (s.mark.column : Int) < indent) && s.cur == ' ' then
      skipIndentation indent fuel s.skip
    else s

/-- Skip indentation and empty lines, collecting their line ends. An unknown indentation
becomes that of the deepest such line, and at least one more than the enclosing block. -/
def blockBreaks (start : Mark) : Nat → Int → String → Nat → Mark → Scanner →
    Except Problem (Int × String × Mark × Scanner)
  | 0, indent, breaks, _, e, s => .ok (indent, breaks, e, s)
  | fuel + 1, indent, breaks, deepest, e, s =>
    let s := skipIndentation indent (s.remaining + 1) s
    let deepest := max deepest s.mark.column
    if (indent == 0 || (s.mark.column : Int) < indent) && s.cur == '\t' then
      .error (s.fail (some ("while scanning a block scalar", start))
        "found a tab character where an indentation space is expected")
    else if !isBreak s.cur then
      let indent := if indent == 0 then max (max (deepest : Int) (s.indent + 1)) 1 else indent
      .ok (indent, breaks, e, s)
    else
      let (b, s) := s.readLine
      blockBreaks start fuel indent (breaks ++ b) deepest s.mark s

/-- Read the lines of a block scalar at indentation `indent`. A folded scalar joins two
lines by a space unless either starts with a blank or empty lines stand between them. -/
def blockLines (literal : Bool) (start : Mark) : Nat → Int → String → String → String →
    Bool → Mark → Scanner → Except Problem (String × String × String × Mark × Scanner)
  | 0, _, text, leading, trailing, _, e, s => .ok (text, leading, trailing, e, s)
  | fuel + 1, indent, text, leading, trailing, leadingBlank, e, s =>
    if (s.mark.column : Int) == indent && s.cur != '\x00' then
      let trailingBlank := isBlank s.cur
      let text :=
        if !literal && leading == "\n" && !leadingBlank && !trailingBlank then
          if trailing.isEmpty then text.push ' ' else text
        else text ++ leading
      let text := text ++ trailing
      let leadingBlank := isBlank s.cur
      let (text, s) := readWhile (fun c => !isBreakOrEnd c) s.remaining text s
      let (leading, s) := s.readLine
      match blockBreaks start (s.remaining + 1) indent "" 0 s.mark s with
      | .error p => .error p
      | .ok (indent, trailing, e, s) =>
        blockLines literal start fuel indent text leading trailing leadingBlank e s
    else .ok (text, leading, trailing, e, s)

/-- Read the header of a block scalar: chomping (`+` keep, `-` strip) and indentation
indicators in either order. -/
def blockHeader (start : Mark) (s : Scanner) : Except Problem (Int × Nat × Scanner) :=
  let context := some ("while scanning a block scalar", start)
  let chompOf := fun (c : Char) => if c == '+' then (1 : Int) else -1
  if s.cur == '+' || s.cur == '-' then
    let chomping := chompOf s.cur
    let s := s.skip
    if s.cur == '0' then .error (s.fail context "found an indentation indicator equal to 0")
    else if s.cur.isDigit then .ok (chomping, s.cur.toNat - '0'.toNat, s.skip)
    else .ok (chomping, 0, s)
  else if s.cur == '0' then .error (s.fail context "found an indentation indicator equal to 0")
  else if s.cur.isDigit then
    let increment := s.cur.toNat - '0'.toNat
    let s := s.skip
    if s.cur == '+' || s.cur == '-' then .ok (chompOf s.cur, increment, s.skip)
    else .ok (0, increment, s)
  else .ok (0, 0, s)

def scanBlockScalar (literal : Bool) (s : Scanner) : Except Problem Scanner := do
  let start := s.mark
  let (chomping, increment, s) ← blockHeader start s.skip
  let s := skipWhile isBlank s.remaining s
  let s := if s.cur == '#' then skipWhile (fun c => !isBreakOrEnd c) s.remaining s else s
  if !isBreakOrEnd s.cur then
    throw (s.fail (some ("while scanning a block scalar", start))
      "did not find expected comment or line break")
  let s := if isBreak s.cur then s.skipLine else s
  let indent : Int :=
    if increment > 0 then (if s.indent ≥ 0 then s.indent + increment else increment) else 0
  let (indent, trailing, e, s) ← blockBreaks start (s.remaining + 1) indent "" 0 s.mark s
  let (text, leading, trailing, e, s) ←
    blockLines literal start (s.remaining + 1) indent "" "" trailing false e s
  let text := if chomping != -1 then text ++ leading else text
  let text := if chomping == 1 then text ++ trailing else text
  pure (s.enqueue ⟨.scalar text (if literal then .literal else .folded), start, e⟩)

end BookRelay.Yaml.Scanner
