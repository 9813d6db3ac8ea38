import BookRelay.Json.Decode

/-! Reading a record straight from a document, as a derived deserializer does: the known
fields are read in full, each at most once, and every other member is skipped unread. -/

namespace BookRelay.Json

namespace Cursor

/-- Skip the rest of a string after its opening quote. Escapes must be well formed and no
control character may appear, but neither the bytes nor the escapes need to make characters. -/
def skipString : Nat → Cursor → Option Cursor
  | 0, _ => none
  | n + 1, c =>
    match c.rest with
    | [] => none
    | 34 :: _ => some c.bump
    | 92 :: e :: _ =>
      if e == 117 then (readHex4 c.bump.bump).toOption.bind fun r => skipString n r.2
      else if [34, 92, 47, 98, 102, 110, 114, 116].contains e then skipString n c.bump.bump
      else none
    | b :: _ => if b < 32 then none else skipString n c.bump

/-- Skip an exponent from its `e` or `E`: a sign, then at least one digit. -/
def skipExponent (c : Cursor) : Option Cursor :=
  let c := c.bump
  let c := if c.peekOrNull == 43 || c.peekOrNull == 45 then c.bump else c
  if isDigit c.peekOrNull then some (skipDigits c) else none

/-- Skip a number from its first digit: one leading zero at most, then a fraction and an
exponent, each with at least one digit. Its size is not checked. -/
def skipNumber (c : Cursor) : Option Cursor :=
  let whole : Option Cursor :=
    match c.rest with
    | 48 :: _ => if isDigit c.bump.peekOrNull then none else some c.bump
    | b :: _ => if isDigit b then some (skipDigits c) else none
    | [] => none
  whole.bind fun c =>
    if c.peekOrNull == 46 then
      let c := c.bump
      if !isDigit c.peekOrNull then none
      else
        let c := skipDigits c
        if c.peekOrNull == 101 || c.peekOrNull == 69 then c.skipExponent else some c
    else if c.peekOrNull == 101 || c.peekOrNull == 69 then c.skipExponent
    else some c

/-- Where the next member of an object starts, after `{` or after a member: `none` when the
object ends here, a failure on a missing or stray comma. -/
def nextMember (first : Bool) (c : Cursor) : Option (Option Cursor) :=
  match c.rest with
  | 125 :: _ => some none
  | 44 :: _ => if first then none else some (some c.bump.skipBlanks)
  | _ => if first then some (some c) else none

mutual
/-- Skip a value without reading it: its text must be well formed, but its strings are not
decoded, its numbers not sized and its nesting not limited. -/
def skipValue : Nat → Cursor → Option Cursor
  | 0, _ => none
  | fuel + 1, c =>
    let c := c.skipBlanks
    match c.rest with
    | [] => none
    | b :: _ =>
      if b == 110 then (readWord [117, 108, 108] c.bump).toOption
      else if b == 116 then (readWord [114, 117, 101] c.bump).toOption
      else if b == 102 then (readWord [97, 108, 115, 101] c.bump).toOption
      else if b == 45 then c.bump.skipNumber
      else if isDigit b then c.skipNumber
      else if b == 34 then c.bump.skipString c.rest.length
      else if b == 91 then skipItems fuel true c.bump
      else if b == 123 then skipMembers fuel true c.bump
      else none

/-- Skip array items after `[` (or after an item), and the closing `]`. -/
def skipItems : Nat → Bool → Cursor → Option Cursor
  | 0, _, _ => none
  | fuel + 1, first, c =>
    let c := c.skipBlanks
    match c.rest with
    | 93 :: _ => some c.bump
    | 44 :: _ => if first then none else (skipValue fuel c.bump).bind (skipItems fuel false)
    | _ => if first then (skipValue fuel c).bind (skipItems fuel false) else none

/-- Skip object members after `{` (or after a member), and the closing `}`. -/
def skipMembers : Nat → Bool → Cursor → Option Cursor
  | 0, _, _ => none
  | fuel + 1, first, c =>
    let c := c.skipBlanks
    match nextMember first c with
    | none => none
    | some none => some c.bump
    | some (some c) =>
      match c.rest with
      | 34 :: _ =>
        (c.bump.skipString c.rest.length).bind fun c =>
          let c := c.skipBlanks
          match c.rest with
          | 58 :: _ => (skipValue fuel c.bump).bind (skipMembers fuel false)
          | _ => none
      | _ => none
end

end Cursor

namespace Decode

/-- The members of a record read from an object after `{` (or after a member), in reading
order, with the cursor after the closing `}`: a member of a known field is read in full, and
a failure when the field was given before; any other member is skipped. -/
def recordMembers (fields : List Field) :
    Nat → Nat → Bool → List (String × Value) → Cursor → Option (List (String × Value) × Cursor)
  | _, 0, _, _, _ => none
  | depth, fuel + 1, first, acc, c =>
    let c := c.skipBlanks
    match Cursor.nextMember first c with
    | none => none
    | some none => some (acc.reverse, c.bump)
    | some (some c) =>
      match c.rest with
      | 34 :: _ =>
        match readString c.bump with
        | .error _ => none
        | .ok (key, c) =>
          let c := c.skipBlanks
          match c.rest with
          | 58 :: _ =>
            if fields.any (·.name == key) then
              if acc.any (·.1 == key) then none
              else
                match readValue depth fuel c.bump with
                | .error _ => none
                | .ok (v, c) => recordMembers fields depth fuel false ((key, v) :: acc) c
            else (c.bump.skipValue fuel).bind (recordMembers fields depth fuel false acc)
          | _ => none
      | _ => none

/-- A record read straight from a document: from an array, the array read in full; from an
object, the members of its known fields, each given once; then nothing but blanks. The
record's fields are then checked as from a value. -/
def readRecord (fields : List Field) (bs : List UInt8) : Option Value :=
  let fuel := 3 * bs.length + 3
  let c := (⟨bs, 0⟩ : Cursor).skipBlanks
  let read : Option (Value × Cursor) :=
    match c.rest with
    | 91 :: _ => (readValue 128 fuel c).toOption
    | 123 :: _ => (recordMembers fields 127 fuel true [] c.bump).map fun r => (.ofMembers r.1, r.2)
    | _ => none
  read.bind fun r => if r.2.skipBlanks.rest.isEmpty then some r.1 else none

end Decode

end BookRelay.Json
