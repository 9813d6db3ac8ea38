import BookRelay.Yaml.Document
import BookRelay.Json.Mismatch

/-!
# Typed reads from a YAML document

Reading typed values out of a loaded document, in document order. A text field takes any
scalar. A number field takes a plain scalar that reads as an unsigned integer (decimal, or
`0x`, `0o`, `0b`, with an optional `+`); anything else is described by what it resolves to
on its own — null, a boolean, an integer, a float or a string — in the message. A record
takes a mapping, an empty plain scalar or an empty stream; its fields are read as their keys
come, a repeated field is refused when its key is met, and the first required field that is
absent is reported after the last key. Unknown keys are skipped with their values.

A failure of a typed read is placed at the node it concerns and named by the path of keys to
it; a place at the very start of the text is not shown.
-/

namespace BookRelay.Yaml

open BookRelay.Json

/-- The path of keys and indices to a node. -/
inductive Path where
  | root
  | index (parent : Path) (i : Nat)
  | key (parent : Path) (name : String)
  | alias (parent : Path)
  | unknown (parent : Path)
  deriving Repr, Inhabited

/-- A path as shown in messages: keys joined by dots, `.` alone for the root, `?` for a key
that is not text; aliases are transparent. -/
def Path.text : Path → String
  | .root => "."
  | .index p i => p.text ++ "[" ++ toString i ++ "]"
  | .key .root k => k
  | .key p k => p.text ++ "." ++ k
  | .alias p => p.text
  | .unknown .root => "?"
  | .unknown p => p.text ++ ".?"

inductive Failure where
  /-- A typed read failed; the place and path are added by the innermost node that has one. -/
  | message (text : String) (place : Option (Mark × String))
  | reader (p : Problem)
  | endOfStream
  | moreThanOneDocument
  | unknownAnchor (m : Mark)
  deriving Repr, Inhabited

/-- A place as a suffix of a message, left out at the start of the text. -/
def placeSuffix (m : Mark) : String := if m.isOrigin then "" else " at " ++ m.text

/-- The text of a failure. -/
def Failure.text : Failure → String
  | .message t none => t
  | .message t (some (m, path)) =>
    (if path != "." then path ++ ": " else "") ++ t ++ placeSuffix m
  | .reader p => p.text
  | .endOfStream => "EOF while parsing a value"
  | .moreThanOneDocument =>
    "deserializing from YAML containing more than one document is not supported"
  | .unknownAnchor m => "unknown anchor" ++ placeSuffix m

/-- Place a typed-read failure that has no place yet. -/
def Failure.place (m : Mark) (path : Path) : Failure → Failure
  | .message t none => .message t (some (m, path.text))
  | f => f

/-- A failed typed read, not yet placed. -/
def Failure.ofMismatch (x : Mismatch) : Failure := .message x.message none

/-! ## Resolving plain scalars -/

def isNullText (v : String) : Bool := v == "null" || v == "Null" || v == "NULL" || v == "~"

def boolOfText? (v : String) : Option Bool :=
  if v == "true" || v == "True" || v == "TRUE" then some true
  else if v == "false" || v == "False" || v == "FALSE" then some false
  else none

/-- A run of leading zeros followed by digits, after an optional sign: a string, not a
number. -/
def isZeroPadded (v : String) : Bool :=
  let cs := match v.toList with
    | '-' :: r => r
    | '+' :: r => r
    | r => r
  match cs with
  | '0' :: rest@(_ :: _) => rest.all Char.isDigit
  | _ => false

/-- The value of a digit in a radix up to 16. -/
def digitValue (radix : Nat) (c : Char) : Option Nat :=
  let v := if c.isDigit then some (c.toNat - '0'.toNat)
    else if 'a' ≤ c && c ≤ 'z' then some (c.toNat - 'a'.toNat + 10)
    else if 'A' ≤ c && c ≤ 'Z' then some (c.toNat - 'A'.toNat + 10)
    else none
  v.bind fun d => if d < radix then some d else none

def digitsValue (radix : Nat) (cs : List Char) : Option Nat :=
  if cs.isEmpty then none
  else cs.foldl (fun acc c => acc.bind fun v => (digitValue radix c).map fun d => v * radix + d) (some 0)

/-- An unsigned integer in a radix, with an optional `+`, below `limit`. -/
def unsignedInRadix (radix limit : Nat) (cs : List Char) : Option Nat :=
  let cs := match cs with
    | ['+'] => cs
    | '+' :: r => r
    | r => r
  (digitsValue radix cs).bind fun n => if n < limit then some n else none

/-- A signed integer in a radix, with an optional sign, of `bits` bits. -/
def signedInRadix (radix bits : Nat) (cs : List Char) : Option Int :=
  let (neg, cs) := match cs with
    | ['+'] => (false, cs)
    | ['-'] => (false, cs)
    | '+' :: r => (false, r)
    | '-' :: r => (true, r)
    | r => (false, r)
  (digitsValue radix cs).bind fun n =>
    let i : Int := if neg then -(n : Int) else n
    if -(Nat.pow 2 (bits - 1) : Int) ≤ i && i < (Nat.pow 2 (bits - 1) : Int) then some i else none

/-- A plain scalar read as an unsigned integer below `limit`: decimal without padding zeros,
or `0x`, `0o`, `0b` digits; a leading `+` is allowed. -/
def unsignedOf (v : String) (limit : Nat) : Option Nat :=
  let u := match v.toList with
    | '+' :: r => r
    | r => r
  let radixed : Option (Option Nat) := match u with
    | '0' :: 'x' :: rest => some (unsignedInRadix 16 limit rest)
    | '0' :: 'o' :: rest => some (unsignedInRadix 8 limit rest)
    | '0' :: 'b' :: rest => some (unsignedInRadix 2 limit rest)
    | _ => none
  let signedRest := match u with
    | '0' :: c :: s :: _ => (c == 'x' || c == 'o' || c == 'b') && (s == '+' || s == '-')
    | _ => false
  if signedRest then none
  else match radixed with
    | some (some n) => some n
    | _ =>
      match u with
      | '+' :: _ | '-' :: _ => none
      | _ => if isZeroPadded v then none else unsignedInRadix 10 limit u

/-- A plain scalar read as a negative (or any signed) integer of `bits` bits: `-0x`, `-0o`,
`-0b` digits, or decimal without padding zeros. -/
def signedOf (v : String) (bits : Nat) : Option Int :=
  let radixed := match v.toList with
    | '-' :: '0' :: 'x' :: rest => signedInRadix 16 bits ('-' :: rest)
    | '-' :: '0' :: 'o' :: rest => signedInRadix 8 bits ('-' :: rest)
    | '-' :: '0' :: 'b' :: rest => signedInRadix 2 bits ('-' :: rest)
    | _ => none
  match radixed with
  | some i => some i
  | none => if isZeroPadded v then none else signedInRadix 10 bits v.toList

/-- What an integer scalar is: a 64-bit unsigned or signed integer, or a 128-bit one. -/
def integerFound? (v : String) : Option Found :=
  match unsignedOf v (Nat.pow 2 64) with
  | some n => some (.unsigned n)
  | none =>
    match signedOf v 64 with
    | some i => some (.signed i)
    | none =>
      match unsignedOf v (Nat.pow 2 128) with
      | some n => some (.other ("integer `" ++ toString n ++ "` as u128"))
      | none => (signedOf v 128).map fun i => .other ("integer `" ++ toString i ++ "` as i128")

def decimalDigits (n : Nat) : Nat := (Nat.toDigits 10 n).length

/-- The double nearest to `m · 10^e`; far outside the range it is zero or infinite. -/
def decimalToFloat (m : Nat) (e : Int) : Float :=
  if m == 0 then 0.0
  else if (decimalDigits m : Int) + e > 310 then 1.0 / 0.0
  else if (decimalDigits m : Int) + e < -330 then 0.0
  else Float.ofScientific m (e < 0) e.natAbs

/-- A decimal number as a double: digits, an optional point and fraction (at least one
digit in all), and an optional exponent; an optional sign before it all. -/
def decimalOf? (cs : List Char) : Option Float :=
  let (neg, cs) := match cs with
    | '-' :: r => (true, r)
    | '+' :: r => (false, r)
    | r => (false, r)
  let whole := cs.takeWhile Char.isDigit
  let cs := cs.dropWhile Char.isDigit
  let (frac, cs) := match cs with
    | '.' :: r => (r.takeWhile Char.isDigit, r.dropWhile Char.isDigit)
    | r => ([], r)
  let exp : Option Int := match cs with
    | [] => some 0
    | c :: r =>
      if c == 'e' || c == 'E' then
        let (eneg, ds) := match r with
          | '-' :: d => (true, d)
          | '+' :: d => (false, d)
          | d => (false, d)
        (digitsValue 10 ds).map fun n => if eneg then -(n : Int) else n
      else none
  if whole.isEmpty && frac.isEmpty then none
  else exp.map fun e =>
    let m := (digitsValue 10 (whole ++ frac)).getD 0
    let x := decimalToFloat m (e - frac.length)
    if neg then -x else x

/-- A plain scalar read as a finite double, or one of `.inf`, `-.inf`, `.nan` and their
capitalised spellings. -/
def doubleOf? (v : String) : Option Float :=
  let unsigned? := match v.toList with
    | '+' :: '+' :: _ | '+' :: '-' :: _ => none
    | '+' :: r => some (String.ofList r)
    | _ => some v
  match unsigned? with
  | none => none
  | some u =>
    if u == ".inf" || u == ".Inf" || u == ".INF" then some (1.0 / 0.0)
    else if v == "-.inf" || v == "-.Inf" || v == "-.INF" then some (-1.0 / 0.0)
    else if v == ".nan" || v == ".NaN" || v == ".NAN" then some (0.0 / 0.0)
    else (decimalOf? u.toList).bind fun x => if x.isFinite then some x else none

/-- What an untagged plain scalar resolves to: null (also when empty), a boolean, an
integer, a float, or a string. -/
def plainFound (v : String) : Found :=
  if v.isEmpty || isNullText v then .unit
  else match boolOfText? v with
    | some b => .bool b
    | none =>
      match integerFound? v with
      | some f => f
      | none =>
        match (if isZeroPadded v then none else doubleOf? v) with
        | some x => .float x .positional
        | none => .str v

def boolTag : String := "tag:yaml.org,2002:bool"
def intTag : String := "tag:yaml.org,2002:int"
def floatTag : String := "tag:yaml.org,2002:float"
def nullTag : String := "tag:yaml.org,2002:null"

/-- Why a scalar is not of the expected type: it is described by what it resolves to. A
scalar with a standard tag that its text does not fit is an invalid value of that tag. -/
def scalarMismatch (tag : Option String) (v : String) (style : ScalarStyle) (expected : String) :
    Mismatch :=
  match tag with
  | some t =>
    if t == boolTag then
      match boolOfText? v with
      | some b => .invalidType (.bool b) expected
      | none => .invalidValue (.str v) "a boolean"
    else if t == intTag then
      match integerFound? v with
      | some f => .invalidType f expected
      | none => .invalidValue (.str v) "an integer"
    else if t == floatTag then
      match doubleOf? v with
      | some x => .invalidType (.float x .positional) expected
      | none => .invalidValue (.str v) "a float"
    else if t == nullTag then
      if isNullText v then .invalidType .unit expected else .invalidValue (.str v) "null"
    else if t.startsWith "!" && style == .plain then .invalidType (plainFound v) expected
    else .invalidType (.str v) expected
  | none =>
    if style == .plain then .invalidType (plainFound v) expected else .invalidType (.str v) expected

/-- Why a node is not of the expected type. -/
def Node.mismatch (n : Node) (expected : String) : Failure :=
  match n with
  | .scalar tag v style => .ofMismatch (scalarMismatch tag v style expected)
  | .sequenceStart => .ofMismatch (.invalidType .seq expected)
  | .mappingStart => .ofMismatch (.invalidType .map expected)
  | _ => .endOfStream

/-! ## Typed reads -/

/-- The node at a position; past the end, why the document stopped. -/
def Document.node (d : Document) (pos : Nat) : Except Failure (Node × Mark) :=
  match d.nodes[pos]? with
  | some e => .ok e
  | none =>
    .error (match d.stop with
      | some (.problem p) => .reader p
      | some (.unknownAnchor m) => .unknownAnchor m
      | none => .endOfStream)

def Document.target (d : Document) (id : Nat) : Nat := (d.anchors.lookup id).getD 0

/-- Read through an alias: the value at its anchor, continuing after the alias. -/
def throughAlias {α : Type} (pos : Nat) (r : Except Failure (α × Nat)) : Except Failure (α × Nat) :=
  r.map fun (v, _) => (v, pos + 1)

/-- Read a text: any scalar. -/
def readText (expected : String) (d : Document) : Nat → Path → Nat → Except Failure (String × Nat)
  | hops, path, pos => do
    let (n, m) ← d.node pos
    (show Except Failure (String × Nat) from match n, hops with
      | .scalar _ v _, _ => .ok (v, pos + 1)
      | .alias id, h + 1 => throughAlias pos (readText expected d h (.alias path) (d.target id))
      | n, _ => .error (n.mismatch expected)).mapError (Failure.place m path)

/-- Read an unsigned integer below `limit`. -/
def readUnsigned (expected : String) (limit : Nat) (d : Document) : Nat → Path → Nat → Except Failure (Nat × Nat)
  | hops, path, pos => do
    let (n, m) ← d.node pos
    (show Except Failure (Nat × Nat) from match n, hops with
      | .scalar _ v .plain, _ =>
        match unsignedOf v (Nat.pow 2 64) with
        | some k =>
          if k < limit then .ok (k, pos + 1)
          else .error (.ofMismatch (.invalidValue (.unsigned k) expected))
        | none => .error (n.mismatch expected)
      | .alias id, h + 1 =>
        throughAlias pos (readUnsigned expected limit d h (.alias path) (d.target id))
      | n, _ => .error (n.mismatch expected)).mapError (Failure.place m path)

/-- Read an optional unsigned integer: a plain null or empty scalar, or an empty stream, is
absent. -/
def readOptionalUnsigned (expected : String) (limit : Nat) (d : Document) :
    Nat → Path → Nat → Except Failure (Option Nat × Nat)
  | hops, path, pos => do
    let (n, _) ← d.node pos
    let present := fun (_ : Unit) =>
      (readUnsigned expected limit d hops path pos).map fun (k, p) => (some k, p)
    match n, hops with
    | .alias id, h + 1 =>
      throughAlias pos (readOptionalUnsigned expected limit d h (.alias path) (d.target id))
    | .scalar tag v style, _ =>
      if style != .plain then present ()
      else match tag with
        | some t =>
          if t == nullTag then
            if isNullText v then .ok (none, pos + 1)
            else .error (.ofMismatch (.invalidValue (.str v) "null"))
          else present ()
        | none => if !v.isEmpty && !isNullText v then present () else .ok (none, pos + 1)
    | .empty, _ => .ok (none, pos + 1)
    | _, _ => present ()

/-- Read the name of one of the unit variants of an enumeration. -/
def readVariant (variants : List String) (d : Document) : Nat → Path → Nat → Except Failure (String × Nat)
  | hops, path, pos => do
    let (n, m) ← d.node pos
    (show Except Failure (String × Nat) from match n, hops with
      | .alias id, h + 1 => throughAlias pos (readVariant variants d h (.alias path) (d.target id))
      | .scalar _ v _, _ =>
        if variants.contains v then .ok (v, pos + 1)
        else .error (.ofMismatch (.unknownVariant v variants))
      | .mappingStart, _ =>
        .error (.ofMismatch (.invalidType .map "a YAML tag starting with '!'"))
      | .sequenceStart, _ =>
        .error (.ofMismatch (.invalidType .seq "a YAML tag starting with '!'"))
      | _, _ => .error .endOfStream).mapError (Failure.place m path)

/-- Skip one node with everything inside it. -/
def skipNode (d : Document) : Nat → Nat → Nat → Except Failure Nat
  | 0, _, pos => .ok pos
  | fuel + 1, depth, pos => do
    let (n, _) ← d.node pos
    let depth := match n with
      | .sequenceStart | .mappingStart => depth + 1
      | .sequenceEnd | .mappingEnd => depth - 1
      | _ => depth
    if depth == 0 then pure (pos + 1) else skipNode d fuel depth (pos + 1)

/-- A field of a record: its key and how its value updates the record. -/
structure Field (σ : Type) where
  name : String
  read : Document → Path → Nat → σ → Except Failure (σ × Nat)

/-- Read the entries of a mapping into a record, in document order, up to the mapping's end. -/
def readEntries {σ : Type} (fields : List (Field σ)) (d : Document) (path : Path) :
    Nat → List String → σ → Nat → Except Failure (σ × List String × Nat)
  | 0, seen, acc, pos => .ok (acc, seen, pos)
  | fuel + 1, seen, acc, pos => do
    let (n, _) ← d.node pos
    match n with
    | .mappingEnd | .empty => pure (acc, seen, pos)
    | _ =>
      let valuePath := match n with
        | .scalar _ v _ => Path.key path v
        | _ => Path.unknown path
      let (k, pos) ← readText "field identifier" d 2 path pos
      match fields.find? (·.name == k) with
      | some f =>
        if seen.contains k then throw (.ofMismatch (.duplicateField k))
        let (acc, pos) ← f.read d valuePath pos acc
        readEntries fields d path fuel (seen ++ [k]) acc pos
      | none =>
        let pos ← skipNode d (d.nodes.size + 1) 0 pos
        readEntries fields d path fuel seen acc pos

/-- The first required field that was not seen. -/
def missingField? (required seen : List String) : Option String :=
  required.find? fun r => !seen.contains r

/-- Read a record named `name` from a mapping, an empty plain scalar, or an empty stream;
fields not given keep their value in `init`. -/
def readRecord {σ : Type} (name : String) (fields : List (Field σ)) (required : List String)
    (init : σ) (d : Document) : Nat → Path → Nat → Except Failure (σ × Nat)
  | hops, path, pos => do
    let (n, m) ← d.node pos
    let finish := fun (acc : σ) (seen : List String) (next : Nat) =>
      match missingField? required seen with
      | some r => (Except.error (.ofMismatch (.missingField r)) : Except Failure (σ × Nat))
      | none => .ok (acc, next)
    (show Except Failure (σ × Nat) from match n, hops with
      | .alias id, h + 1 =>
        throughAlias pos (readRecord name fields required init d h (.alias path) (d.target id))
      | .mappingStart, _ => do
        let (acc, seen, after) ← readEntries fields d path (d.nodes.size + 1) [] init (pos + 1)
        finish acc seen (after + 1)
      | .scalar _ "" .plain, _ => finish init [] (pos + 1)
      | .empty, _ => finish init [] (pos + 1)
      | n, _ => .error (n.mismatch ("struct " ++ name))).mapError (Failure.place m path)

end BookRelay.Yaml
