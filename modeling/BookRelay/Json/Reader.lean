import BookRelay.Json.Value
import BookRelay.Text.Utf8

/-!
# Reading JSON text

The reader takes bytes and gives a `Value` or a failure naming its cause and where it was
noticed, as a line and a byte column (the column counts bytes since the last line feed).

What it accepts is standard JSON with these limits: nesting deeper than 127 arrays or objects
is refused, a string must be valid UTF-8 with paired surrogate escapes, and nothing but blanks
may follow the value. Integers keep their value while they fit 64 bits; other numbers are
doubles, built from the first nineteen or twenty significant digits times a power of ten in
double arithmetic, and a number too large for a double is refused.

A failure is reported either at the reader's position or one byte past it (the byte that made
the reader stop); which of the two is part of each rule below.
-/

namespace BookRelay.Json

inductive ReadCode where
  | eofList
  | eofObject
  | eofString
  | eofValue
  | expectedColon
  | expectedListCommaOrEnd
  | expectedObjectCommaOrEnd
  | expectedIdent
  | expectedValue
  | invalidEscape
  | invalidNumber
  | numberOutOfRange
  | invalidCodePoint
  | controlCharacter
  | keyMustBeString
  | loneLeadingSurrogate
  | trailingComma
  | trailingCharacters
  | unexpectedEndOfHexEscape
  | recursionLimit
  deriving Repr, BEq, DecidableEq

def ReadCode.text : ReadCode → String
  | .eofList => "EOF while parsing a list"
  | .eofObject => "EOF while parsing an object"
  | .eofString => "EOF while parsing a string"
  | .eofValue => "EOF while parsing a value"
  | .expectedColon => "expected `:`"
  | .expectedListCommaOrEnd => "expected `,` or `]`"
  | .expectedObjectCommaOrEnd => "expected `,` or `\x7d`"
  | .expectedIdent => "expected ident"
  | .expectedValue => "expected value"
  | .invalidEscape => "invalid escape"
  | .invalidNumber => "invalid number"
  | .numberOutOfRange => "number out of range"
  | .invalidCodePoint => "invalid unicode code point"
  | .controlCharacter => "control character (\\u0000-\\u001F) found while parsing a string"
  | .keyMustBeString => "key must be a string"
  | .loneLeadingSurrogate => "lone leading surrogate in hex escape"
  | .trailingComma => "trailing comma"
  | .trailingCharacters => "trailing characters"
  | .unexpectedEndOfHexEscape => "unexpected end of hex escape"
  | .recursionLimit => "recursion limit exceeded"

def ReadCode.isEof : ReadCode → Bool
  | .eofList | .eofObject | .eofString | .eofValue => true
  | _ => false

/-- A failure: its reason and the byte offset where it is reported. -/
structure ReadFailure where
  code : ReadCode
  offset : Nat
  deriving Repr

/-- The reader's place in the text: the bytes still to read and how many were read. -/
structure Cursor where
  rest : List UInt8
  index : Nat

namespace Cursor

/-- The next byte, if any. -/
def peek (c : Cursor) : Option UInt8 := c.rest.head?

def peekOrNull (c : Cursor) : UInt8 := c.rest.headD 0

def bump (c : Cursor) : Cursor := ⟨c.rest.drop 1, c.index + 1⟩

/-- The offset for a failure noticed at the next byte: one past the position, unless the text
has ended. -/
def peekOffset (c : Cursor) : Nat := if c.rest.isEmpty then c.index else c.index + 1

def skipBlanks : Cursor → Cursor
  | ⟨b :: rest, i⟩ =>
    if b == 32 || b == 9 || b == 10 || b == 13 then skipBlanks ⟨rest, i + 1⟩ else ⟨b :: rest, i⟩
  | c => c

end Cursor

/-- A reader step: the result and the cursor after it, or a failure. -/
abbrev Read (α : Type) := Except ReadFailure (α × Cursor)

def failAt {α : Type} (code : ReadCode) (offset : Nat) : Except ReadFailure α :=
  .error ⟨code, offset⟩

def isDigit (b : UInt8) : Bool := 48 ≤ b && b ≤ 57

def hexValue (b : UInt8) : Option Nat :=
  if 48 ≤ b && b ≤ 57 then some (b.toNat - 48)
  else if 65 ≤ b && b ≤ 70 then some (b.toNat - 55)
  else if 97 ≤ b && b ≤ 102 then some (b.toNat - 87)
  else none

/-- The powers of ten that a double multiplies by exactly once: `10^0` to `10^308`. -/
def powerOfTen (n : Nat) : Float := Float.ofScientific 1 false n

/-- The largest unsigned 64-bit integer. -/
def u64Max : Nat := Nat.pow 2 64 - 1

/-- Whether `acc * 10 + d` would pass `limit`. -/
def overflows (acc d limit : Nat) : Bool := acc ≥ limit / 10 && (acc > limit / 10 || d > limit % 10)

/-- The double `significand · 10^exp`, multiplying or dividing once by a power of ten, and
stepping by `10^308` while the exponent is beyond the table. `none` when the result would
be infinite. -/
def scaleByTen (significand : Nat) (exp : Int) : Option Float :=
  go 8 significand.toUInt64.toFloat exp
where
  go : Nat → Float → Int → Option Float
    | 0, f, _ => some f
    | fuel + 1, f, e =>
      if e.natAbs ≤ 308 then
        if 0 ≤ e then
          let g := f * powerOfTen e.natAbs
          if g.isInf then none else some g
        else some (f / powerOfTen e.natAbs)
      else if f == 0 then some f
      else if 0 ≤ e then none
      else go fuel (f / powerOfTen 308) (e + 308)

/-- Clamp an integer to the 32-bit signed range. -/
def clampI32 (e : Int) : Int := max (-2147483648) (min 2147483647 e)

/-- A double from its parts, or `number out of range` at the cursor. -/
def floatFromParts (positive : Bool) (significand : Nat) (exp : Int) (c : Cursor) : Read Float :=
  match scaleByTen significand exp with
  | some f => .ok (if positive then f else -f, c)
  | none => failAt .numberOutOfRange c.index

def skipDigits : Cursor → Cursor
  | ⟨b :: rest, i⟩ => if isDigit b then skipDigits ⟨rest, i + 1⟩ else ⟨b :: rest, i⟩
  | c => c

/-- Read the digits of an exponent after its first digit. -/
def exponentDigits (positive : Bool) (zeroSignificand positiveExp : Bool) :
    Nat → Cursor → Except ReadFailure (Sum Float Nat × Cursor)
  | acc, ⟨b :: rest, i⟩ =>
    if isDigit b then
      let c := (⟨rest, i + 1⟩ : Cursor)
      let d := b.toNat - 48
      if overflows acc d 2147483647 then
        if !zeroSignificand && positiveExp then failAt .numberOutOfRange c.index
        else .ok (.inl (if positive then 0.0 else -0.0), skipDigits c)
      else exponentDigits positive zeroSignificand positiveExp (acc * 10 + d) c
    else .ok (.inr acc, ⟨b :: rest, i⟩)
  | acc, c => .ok (.inr acc, c)

/-- Read an exponent: the cursor is at `e` or `E`. -/
def readExponent (positive : Bool) (significand : Nat) (start : Int) (c : Cursor) : Read Float :=
  let c := c.bump
  let (positiveExp, c) :=
    if c.peek == some 43 then (true, c.bump)
    else if c.peek == some 45 then (false, c.bump)
    else (true, c)
  match c.rest with
  | [] => failAt .eofValue c.index
  | b :: rest =>
    let c := (⟨rest, c.index + 1⟩ : Cursor)
    if !isDigit b then failAt .invalidNumber c.index
    else
      match exponentDigits positive (significand == 0) positiveExp (b.toNat - 48) c with
      | .error e => .error e
      | .ok (.inl f, c) => .ok (f, c)
      | .ok (.inr exp, c) =>
        let final := if positiveExp then clampI32 (start + exp) else clampI32 (start - exp)
        floatFromParts positive significand final c

/-- After the digits of a mantissa that no longer fit: skip the remaining digits. -/
def readDecimalOverflow (positive : Bool) (significand : Nat) (exp : Int) (c : Cursor) :
    Read Float :=
  let c := skipDigits c
  if c.peekOrNull == 101 || c.peekOrNull == 69 then readExponent positive significand exp c
  else floatFromParts positive significand exp c

/-- Digits after the decimal point: accumulate while the significand fits 64 bits. -/
def fractionDigits : Nat → Int → Cursor → (Nat × Int × Cursor × Bool)
  | sig, k, ⟨b :: rest, i⟩ =>
    if isDigit b then
      let d := b.toNat - 48
      if overflows sig d u64Max then (sig, k, ⟨b :: rest, i⟩, true)
      else fractionDigits (sig * 10 + d) (k - 1) ⟨rest, i + 1⟩
    else (sig, k, ⟨b :: rest, i⟩, false)
  | sig, k, c => (sig, k, c, false)

def readDecimal (positive : Bool) (significand : Nat) (before : Int) (c : Cursor) : Read Float :=
  let (sig, after, c, overflowed) := fractionDigits significand 0 c.bump
  if overflowed then readDecimalOverflow positive sig (before + after) c
  else if after == 0 then
    match c.peek with
    | some _ => failAt .invalidNumber c.peekOffset
    | none => failAt .eofValue c.peekOffset
  else if c.peekOrNull == 101 || c.peekOrNull == 69 then
    readExponent positive sig (before + after) c
  else floatFromParts positive sig (before + after) c

/-- Integer digits beyond those that fit 64 bits: each one raises the exponent. -/
def longIntegerDigits : Int → Cursor → Int × Cursor
  | k, ⟨b :: rest, i⟩ => if isDigit b then longIntegerDigits (k + 1) ⟨rest, i + 1⟩ else (k, ⟨b :: rest, i⟩)
  | k, c => (k, c)

/-- The number after its integer digits: a fraction, an exponent, or an integer. -/
def finishNumber (positive : Bool) (significand : Nat) (c : Cursor) : Read Number :=
  let b := c.peekOrNull
  if b == 46 then (readDecimal positive significand 0 c).map fun (f, c) => (.float f, c)
  else if b == 101 || b == 69 then
    (readExponent positive significand 0 c).map fun (f, c) => (.float f, c)
  else if positive then .ok (.nat significand, c)
  else if significand == 0 then .ok (.float (-0.0), c)
  else if significand ≤ Nat.pow 2 63 then .ok (.negative (-(significand : Int)), c)
  else .ok (.float (-(significand.toUInt64.toFloat)), c)

/-- Integer digits: accumulate while the value fits 64 bits. -/
def integerDigits (positive : Bool) : Nat → Cursor → Read Number
  | sig, ⟨b :: rest, i⟩ =>
    if isDigit b then
      let d := b.toNat - 48
      if overflows sig d u64Max then
        let (k, c) := longIntegerDigits 0 ⟨b :: rest, i⟩
        let b := c.peekOrNull
        let r := if b == 46 then readDecimal positive sig k c
          else if b == 101 || b == 69 then readExponent positive sig k c
          else floatFromParts positive sig k c
        r.map fun (f, c) => (.float f, c)
      else integerDigits positive (sig * 10 + d) ⟨rest, i + 1⟩
    else finishNumber positive sig ⟨b :: rest, i⟩
  | sig, c => finishNumber positive sig c

def readNumber (positive : Bool) (c : Cursor) : Read Number :=
  match c.rest with
  | [] => failAt .eofValue c.index
  | b :: rest =>
    let c1 := (⟨rest, c.index + 1⟩ : Cursor)
    if b == 48 then
      if isDigit c1.peekOrNull then failAt .invalidNumber c1.peekOffset
      else finishNumber positive 0 c1
    else if isDigit b then integerDigits positive (b.toNat - 48) c1
    else failAt .invalidNumber c1.index

/-- The rest of a literal such as `ull` after `n`. -/
def readWord : List UInt8 → Cursor → Except ReadFailure Cursor
  | [], c => .ok c
  | w :: ws, c =>
    match c.rest with
    | [] => failAt .eofValue c.index
    | b :: rest =>
      if b == w then readWord ws ⟨rest, c.index + 1⟩ else failAt .expectedIdent (c.index + 1)

/-- Four hexadecimal digits of a `\u` escape. -/
def readHex4 (c : Cursor) : Read Nat :=
  match c.rest with
  | a :: b :: d :: e :: rest =>
    let c := (⟨rest, c.index + 4⟩ : Cursor)
    match hexValue a, hexValue b, hexValue d, hexValue e with
    | some a, some b, some d, some e => .ok (a * 4096 + b * 256 + d * 16 + e, c)
    | _, _, _, _ => failAt .invalidEscape c.index
  | rest => failAt .eofString (c.index + rest.length)

/-- The UTF-8 bytes of a code point. -/
def codePointBytes (n : Nat) : List UInt8 := Text.Utf8.encode (String.singleton (Char.ofNat n))

/-- A `\u` escape, with its low surrogate when it is a high one. -/
def readUnicodeEscape (c : Cursor) : Read (List UInt8) :=
  match readHex4 c with
  | .error e => .error e
  | .ok (n, c) =>
    if 0xDC00 ≤ n && n ≤ 0xDFFF then failAt .loneLeadingSurrogate c.index
    else if n < 0xD800 || n > 0xDBFF then .ok (codePointBytes n, c)
    else
      match c.rest with
      | [] => failAt .eofString c.index
      | b :: rest =>
        let c := (⟨rest, c.index + 1⟩ : Cursor)
        if b != 92 then failAt .unexpectedEndOfHexEscape c.index
        else
          match c.rest with
          | [] => failAt .eofString c.index
          | b :: rest =>
            let c := (⟨rest, c.index + 1⟩ : Cursor)
            if b != 117 then failAt .unexpectedEndOfHexEscape c.index
            else
              match readHex4 c with
              | .error e => .error e
              | .ok (m, c) =>
                if m < 0xDC00 || m > 0xDFFF then failAt .loneLeadingSurrogate c.index
                else .ok (codePointBytes (((n - 0xD800) * 1024 + (m - 0xDC00)) + 0x10000), c)

def readEscape (c : Cursor) : Read (List UInt8) :=
  match c.rest with
  | [] => failAt .eofString c.index
  | b :: rest =>
    let c := (⟨rest, c.index + 1⟩ : Cursor)
    if b == 34 then .ok ([34], c)
    else if b == 92 then .ok ([92], c)
    else if b == 47 then .ok ([47], c)
    else if b == 98 then .ok ([8], c)
    else if b == 102 then .ok ([12], c)
    else if b == 110 then .ok ([10], c)
    else if b == 114 then .ok ([13], c)
    else if b == 116 then .ok ([9], c)
    else if b == 117 then readUnicodeEscape c
    else failAt .invalidEscape c.index

/-- The bytes of a string body up to its closing quote, escapes decoded, in reverse. The fuel
bounds the number of bytes read. -/
def stringBytes : Nat → List UInt8 → Cursor → Read (List UInt8)
  | 0, _, c => failAt .eofString c.index
  | fuel + 1, acc, c =>
    match c.rest with
    | [] => failAt .eofString c.index
    | b :: rest =>
      let c1 := (⟨rest, c.index + 1⟩ : Cursor)
      if b == 34 then .ok (acc, c1)
      else if b == 92 then
        match readEscape c1 with
        | .error e => .error e
        | .ok (bs, c2) => stringBytes fuel (bs.reverse ++ acc) c2
      else if b < 32 then failAt .controlCharacter c1.index
      else stringBytes fuel (b :: acc) c1

def readString (c : Cursor) : Read String :=
  match stringBytes (c.rest.length + 1) [] c with
  | .error e => .error e
  | .ok (acc, c) =>
    match Text.Utf8.decode? acc.reverse with
    | some s => .ok (s, c)
    | none => failAt .invalidCodePoint c.index

mutual
/-- A value. `depth` is how many more arrays or objects may open; `fuel` bounds the steps. -/
def readValue : Nat → Nat → Cursor → Read Value
  | _, 0, c => failAt .recursionLimit c.index
  | depth, fuel + 1, c =>
    let c := c.skipBlanks
    match c.rest with
    | [] => failAt .eofValue c.peekOffset
    | b :: _ =>
      if b == 110 then (readWord [117, 108, 108] c.bump).map fun c => (.null, c)
      else if b == 116 then (readWord [114, 117, 101] c.bump).map fun c => (.bool true, c)
      else if b == 102 then (readWord [97, 108, 115, 101] c.bump).map fun c => (.bool false, c)
      else if b == 45 then (readNumber false c.bump).map fun (n, c) => (.number n, c)
      else if isDigit b then (readNumber true c).map fun (n, c) => (.number n, c)
      else if b == 34 then (readString c.bump).map fun (s, c) => (.string s, c)
      else if b == 91 then
        if depth ≤ 1 then failAt .recursionLimit c.peekOffset
        else readItems (depth - 1) fuel true [] c.bump
      else if b == 123 then
        if depth ≤ 1 then failAt .recursionLimit c.peekOffset
        else readMembers (depth - 1) fuel true [] c.bump
      else failAt .expectedValue c.peekOffset

/-- Array items after `[` (or after an item), collected in reverse. -/
def readItems : Nat → Nat → Bool → List Value → Cursor → Read Value
  | _, 0, _, _, c => failAt .recursionLimit c.index
  | depth, fuel + 1, first, acc, c =>
    let c := c.skipBlanks
    match c.rest with
    | [] => failAt .eofList c.peekOffset
    | b :: _ =>
      if b == 93 then .ok (.array acc.reverse, c.bump)
      else if first then
        match readValue depth fuel c with
        | .error e => .error e
        | .ok (v, c) => readItems depth fuel false (v :: acc) c
      else if b == 44 then
        let c := c.bump.skipBlanks
        match c.rest with
        | [] => failAt .eofValue c.peekOffset
        | 93 :: _ => failAt .trailingComma c.peekOffset
        | _ =>
          match readValue depth fuel c with
          | .error e => .error e
          | .ok (v, c) => readItems depth fuel false (v :: acc) c
      else failAt .expectedListCommaOrEnd c.peekOffset

/-- Object members after `{` (or after a member), in reading order reversed. -/
def readMembers : Nat → Nat → Bool → List (String × Value) → Cursor → Read Value
  | _, 0, _, _, c => failAt .recursionLimit c.index
  | depth, fuel + 1, first, acc, c =>
    let c := c.skipBlanks
    -- the cursor at the next key or closing brace, and whether a comma led to it
    let next : Except ReadFailure (Cursor × Bool) :=
      match c.rest with
      | [] => failAt .eofObject c.peekOffset
      | 125 :: _ => .ok (c, false)
      | 44 :: _ => if first then .ok (c, false) else .ok (c.bump.skipBlanks, true)
      | _ => if first then .ok (c, false) else failAt .expectedObjectCommaOrEnd c.peekOffset
    match next with
    | .error e => .error e
    | .ok (c, afterComma) =>
      match c.rest with
      | [] => failAt .eofValue c.peekOffset
      | b :: _ =>
        if b == 125 then
          if afterComma then failAt .trailingComma c.peekOffset
          else .ok (Value.ofMembers acc.reverse, c.bump)
        else if b != 34 then failAt .keyMustBeString c.peekOffset
        else
          match readString c.bump with
          | .error e => .error e
          | .ok (key, c) =>
            let c := c.skipBlanks
            match c.rest with
            | [] => failAt .eofObject c.peekOffset
            | 58 :: _ =>
              match readValue depth fuel c.bump with
              | .error e => .error e
              | .ok (v, c) => readMembers depth fuel false ((key, v) :: acc) c
            | _ => failAt .expectedColon c.peekOffset
end

/-- The kind of a reading or decoding failure: malformed text, text that ended too early, or
a well-formed document of the wrong shape. -/
inductive ErrorKind where
  | malformed
  | eof
  | data
  deriving Repr, BEq, DecidableEq

/-- A failure with its kind and full message. -/
structure Error where
  kind : ErrorKind
  message : String
  deriving Repr

/-- Line (from one) and byte column (from zero) of an offset: lines are counted by line feeds
before it, the column by bytes since the last of them. -/
def position (bs : List UInt8) (offset : Nat) : Nat × Nat :=
  let before := bs.take offset
  (before.count 10 + 1, (before.reverse.takeWhile (· != 10)).length)

/-- The message of a reading failure, with its place. -/
def ReadFailure.toError (bs : List UInt8) (f : ReadFailure) : Error :=
  let (line, column) := position bs f.offset
  ⟨if f.code.isEof then .eof else .malformed,
    f.code.text ++ " at line " ++ toString line ++ " column " ++ toString column⟩

/-- Read a whole document: one value, then nothing but blanks. -/
def readDocument (bs : List UInt8) : Except ReadFailure Value :=
  match readValue 128 (3 * bs.length + 3) ⟨bs, 0⟩ with
  | .error e => .error e
  | .ok (v, c) =>
    let c := c.skipBlanks
    if c.rest.isEmpty then .ok v else failAt .trailingCharacters c.peekOffset

@[simp] theorem mapError_ok {ε ε' α : Type} (f : ε → ε') (a : α) :
    (Except.ok a : Except ε α).mapError f = .ok a := rfl

@[simp] theorem mapError_error {ε ε' α : Type} (f : ε → ε') (e : ε) :
    (Except.error e : Except ε α).mapError f = .error (f e) := rfl

/-- Read a document from bytes. -/
def parseBytes (bs : List UInt8) : Except Error Value :=
  (readDocument bs).mapError (ReadFailure.toError bs)

def parse (s : String) : Except Error Value := parseBytes (Text.Utf8.encode s)

end BookRelay.Json
