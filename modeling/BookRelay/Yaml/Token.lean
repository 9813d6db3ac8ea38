/-!
# YAML tokens

The pieces a YAML text is cut into before its structure is read: indicators, scalars with
their style, anchors, aliases, tags and directives, each with the place where it starts and
ends. A place is a character offset with a line and a column counted from zero; it is shown
counted from one. A failure names the problem, its place, and what was being read.
-/

namespace BookRelay.Yaml

/-- A place in the text: character offset, line and column, all counted from zero. -/
structure Mark where
  index : Nat := 0
  line : Nat := 0
  column : Nat := 0
  deriving Repr, BEq, Inhabited

/-- Whether a place is the very start of the text, where no position is shown. -/
def Mark.isOrigin (m : Mark) : Bool := m.line == 0 && m.column == 0

def Mark.text (m : Mark) : String :=
  "line " ++ toString (m.line + 1) ++ " column " ++ toString (m.column + 1)

/-- A failure of the reader: the problem and its place, the byte offset of a character the
reader refused, and what was being read, from where. -/
structure Problem where
  problem : String
  mark : Mark
  offset : Nat := 0
  context : Option (String × Mark) := none
  deriving Repr, Inhabited

/-- The text of a failure. Places at the origin are left out; a context shows its own place
only when it differs from the problem's. -/
def Problem.text (p : Problem) : String :=
  let head :=
    if !p.mark.isOrigin then p.problem ++ " at " ++ p.mark.text
    else if p.offset != 0 then p.problem ++ " at position " ++ toString p.offset
    else p.problem
  match p.context with
  | none => head
  | some (c, m) =>
    if !m.isOrigin && (m.line != p.mark.line || m.column != p.mark.column) then
      head ++ ", " ++ c ++ " at " ++ m.text
    else head ++ ", " ++ c

inductive ScalarStyle where
  | plain
  | singleQuoted
  | doubleQuoted
  | literal
  | folded
  deriving Repr, BEq, DecidableEq, Inhabited

inductive TokenKind where
  | streamStart
  | streamEnd
  | versionDirective (major minor : Nat)
  | tagDirective (handle expansion : String)
  | documentStart
  | documentEnd
  | blockSequenceStart
  | blockMappingStart
  | blockEnd
  | flowSequenceStart
  | flowSequenceEnd
  | flowMappingStart
  | flowMappingEnd
  | blockEntry
  | flowEntry
  | key
  | value
  | alias (name : String)
  | anchor (name : String)
  | tag (handle suffix : String)
  | scalar (text : String) (style : ScalarStyle)
  deriving Repr, BEq, Inhabited

/-- A token with the places where it starts and ends. -/
structure Token where
  kind : TokenKind
  start : Mark
  stop : Mark
  deriving Repr, Inhabited

/-- A character that ends a line: CR, LF, NEL, LS or PS. -/
def isBreak (c : Char) : Bool :=
  c == '\r' || c == '\n' || c == '\u0085' || c == '\u2028' || c == '\u2029'

/-- A line end or the end of the text, which reads as NUL. -/
def isBreakOrEnd (c : Char) : Bool := isBreak c || c == '\x00'

def isBlank (c : Char) : Bool := c == ' ' || c == '\t'

/-- A blank, a line end or the end of the text. -/
def isBlankOrEnd (c : Char) : Bool := isBlank c || isBreakOrEnd c

/-- A character of an anchor or handle name: ASCII letters and digits, `_` and `-`. -/
def isWordChar (c : Char) : Bool := c.isAlphanum || c == '_' || c == '-'

def isHexDigit (c : Char) : Bool :=
  c.isDigit || ('a' ≤ c && c ≤ 'f') || ('A' ≤ c && c ≤ 'F')

def hexValue (c : Char) : Nat :=
  if c.isDigit then c.toNat - '0'.toNat
  else if 'a' ≤ c && c ≤ 'f' then c.toNat - 'a'.toNat + 10
  else c.toNat - 'A'.toNat + 10

/-- Characters the reader accepts: tab, line feed, carriage return, printable ASCII, NEL,
and the rest of Unicode apart from the C1 controls, surrogates and the two non-characters
U+FFFE and U+FFFF. -/
def isAllowedChar (c : Char) : Bool :=
  let v := c.toNat
  v == 0x09 || v == 0x0A || v == 0x0D || (0x20 ≤ v && v ≤ 0x7E) || v == 0x85 ||
    (0xA0 ≤ v && v ≤ 0xD7FF) || (0xE000 ≤ v && v ≤ 0xFFFD) || (0x10000 ≤ v && v ≤ 0x10FFFF)

end BookRelay.Yaml
