/-!
# UTF-8 bytes

Decoding a byte list into characters, one well-formed sequence at a time. A byte that cannot
start or continue a sequence ends a *maximal invalid subpart*; the lossy reading puts one
U+FFFD in place of each such subpart, and the strict reading refuses the whole list.
-/

namespace BookRelay.Text.Utf8

/-- A continuation byte: `10xxxxxx`. -/
def isCont (b : UInt8) : Bool := 0x80 ≤ b && b < 0xC0

/-- The admissible range of the second byte of a sequence led by `b`, and the length of that
sequence; `none` when `b` cannot lead a multi-byte sequence. -/
def leadShape (b : UInt8) : Option (UInt8 × UInt8 × Nat) :=
  if 0xC2 ≤ b && b ≤ 0xDF then some (0x80, 0xBF, 2)
  else if b == 0xE0 then some (0xA0, 0xBF, 3)
  else if b == 0xED then some (0x80, 0x9F, 3)
  else if 0xE1 ≤ b && b ≤ 0xEF then some (0x80, 0xBF, 3)
  else if b == 0xF0 then some (0x90, 0xBF, 4)
  else if b == 0xF4 then some (0x80, 0x8F, 4)
  else if 0xF1 ≤ b && b ≤ 0xF3 then some (0x80, 0xBF, 4)
  else none

def payload (b : UInt8) : Nat := b.toNat % 64

/-- One decoding step per sequence: `some c` for a well-formed sequence, `none` for a maximal
invalid subpart. The recursion follows the list, so every byte is read once. -/
def steps : List UInt8 → List (Option Char)
  | [] => []
  | b0 :: t0 =>
    if b0 < 0x80 then some (Char.ofNat b0.toNat) :: steps t0
    else
      match leadShape b0 with
      | none => none :: steps t0
      | some (lo, hi, n) =>
        match t0 with
        | [] => [none]
        | b1 :: t1 =>
          if !(lo ≤ b1 && b1 ≤ hi) then none :: steps (b1 :: t1)
          else if n == 2 then
            some (Char.ofNat ((b0.toNat % 32) * 64 + payload b1)) :: steps t1
          else
            match t1 with
            | [] => [none]
            | b2 :: t2 =>
              if !isCont b2 then none :: steps (b2 :: t2)
              else if n == 3 then
                some (Char.ofNat ((b0.toNat % 16) * 4096 + payload b1 * 64 + payload b2))
                  :: steps t2
              else
                match t2 with
                | [] => [none]
                | b3 :: t3 =>
                  if !isCont b3 then none :: steps (b3 :: t3)
                  else
                    some (Char.ofNat ((b0.toNat % 8) * 262144 + payload b1 * 4096
                      + payload b2 * 64 + payload b3)) :: steps t3
termination_by bs => bs.length

/-- The lossy reading: every maximal invalid subpart becomes U+FFFD. -/
def decodeLossy (bs : List UInt8) : String :=
  String.ofList ((steps bs).map fun s => s.getD '\uFFFD')

/-- The strict reading: `none` as soon as one subpart is invalid. -/
def decode? (bs : List UInt8) : Option String :=
  ((steps bs).mapM id).map String.ofList

/-- The bytes of a string. -/
def encode (s : String) : List UInt8 := s.toUTF8.toList

/-- The number of bytes a character takes. -/
def charWidth (c : Char) : Nat :=
  if c.toNat < 0x80 then 1 else if c.toNat < 0x800 then 2 else if c.toNat < 0x10000 then 3 else 4

/-- The longest prefix of `cs` whose encoding takes at most `budget` bytes: a cut never falls
inside a character. -/
def takeBytes : List Char → Nat → List Char
  | [], _ => []
  | c :: cs, budget =>
    if charWidth c ≤ budget then c :: takeBytes cs (budget - charWidth c) else []

theorem steps_nil : steps [] = [] := by
  rw [steps.eq_def]

theorem steps_ascii (c : UInt8) (h : c < 0x80) (rest : List UInt8) :
    steps (c :: rest) = some (Char.ofNat c.toNat) :: steps rest := by
  rw [steps.eq_def]
  simp [h]

end BookRelay.Text.Utf8

namespace BookRelay.Text

/-- `str::is_char_boundary`: byte offset `i` of `s` is a character boundary when it is zero, the
length of `s`, or the offset of a byte that does not continue a character. -/
def isCharBoundary (s : String) (i : Nat) : Bool :=
  i == 0 ||
    match (Utf8.encode s)[i]? with
    | some b => !Utf8.isCont b
    | none => i == s.utf8ByteSize

/-- The search `while !s.is_char_boundary(i) { i -= 1 }`: the nearest character boundary at or
below `i`, or `none` where the search would step below offset zero, overflowing the subtraction. -/
def boundaryAtOrBelow? (s : String) (i : Nat) : Option Nat :=
  if isCharBoundary s i then some i
  else
    match i with
    | 0 => none
    | j + 1 => boundaryAtOrBelow? s j

/-- The slice `&s[..i]`, the bytes before offset `i` read as text: `none` unless `i` is a
character boundary, where slicing panics. -/
def sliceTo? (s : String) (i : Nat) : Option String :=
  if isCharBoundary s i then some (Utf8.decodeLossy ((Utf8.encode s).take i)) else none

/-- A text cut to at most `maxBytes` bytes for a log line: unchanged when it fits, else cut at the
nearest character boundary at or below `maxBytes` and followed by `...`. `none` stands for a
failure of the boundary search or a panic of the slice. -/
def clip (s : String) (maxBytes : Nat) : Option String :=
  if s.utf8ByteSize ≤ maxBytes then some s
  else do
    let cut ← boundaryAtOrBelow? s maxBytes
    let head ← sliceTo? s cut
    pure (head ++ "...")

@[simp] theorem isCharBoundary_zero (s : String) : isCharBoundary s 0 = true := by
  simp [isCharBoundary]

theorem boundaryAtOrBelow?_of_isCharBoundary {s : String} {i : Nat}
    (h : isCharBoundary s i = true) : boundaryAtOrBelow? s i = some i := by
  rw [boundaryAtOrBelow?.eq_def, if_pos h]

theorem boundaryAtOrBelow?_succ {s : String} {i : Nat} (h : isCharBoundary s (i + 1) = false) :
    boundaryAtOrBelow? s (i + 1) = boundaryAtOrBelow? s i := by
  rw [boundaryAtOrBelow?.eq_def, if_neg (by simp [h])]

theorem sliceTo?_of_isCharBoundary {s : String} {i : Nat} (h : isCharBoundary s i = true) :
    sliceTo? s i = some (Utf8.decodeLossy ((Utf8.encode s).take i)) := by
  rw [sliceTo?, if_pos h]

theorem clip_fits (s : String) (n : Nat) (h : s.utf8ByteSize ≤ n) : clip s n = some s := by
  simp [clip, h]

end BookRelay.Text
