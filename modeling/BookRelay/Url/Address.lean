import BookRelay.Url.Basic
import BookRelay.Url.Error

/-!
# IP addresses in hosts

An IPv4 host is one to four numbers separated by dots, each decimal, octal after a leading
`0`, or hex after `0x`; all but the last are bytes and the last fills the remaining bytes.
A host is read as IPv4 when its last label (before a final dot) is a number.

An IPv6 host is eight 16-bit hex pieces separated by colons, where one `::` stands for a run
of zero pieces and the last two pieces may be written as a dotted IPv4 address.
-/

namespace BookRelay.Url

/-- The value of a hex digit of either case. -/
def hexValue? (c : Char) : Option Nat :=
  if '0' ≤ c && c ≤ '9' then some (c.toNat - 48)
  else if 'a' ≤ c && c ≤ 'f' then some (c.toNat - 87)
  else if 'A' ≤ c && c ≤ 'F' then some (c.toNat - 55)
  else none

/-- The value of digits in a radix, none when a character is not such a digit. -/
def digitsValue? (radix : Nat) (cs : List Char) : Option Nat :=
  cs.foldlM (fun acc c => (hexValue? c).bind fun d => if d < radix then some (acc * radix + d) else none) 0

/-- One number of an IPv4 host: hex after `0x` or `0X`, octal after a leading `0`, else
decimal; the bare prefixes stand for zero, and a number must fit in 32 bits. -/
def ipv4Number? (cs : List Char) : Option Nat :=
  if cs.isEmpty then none
  else
    let (radix, digits) := match cs with
      | '0' :: 'x' :: rest | '0' :: 'X' :: rest => (16, rest)
      | '0' :: rest@(_ :: _) => (8, rest)
      | _ => (10, cs)
    if digits.isEmpty then some 0
    else (digitsValue? radix digits).filter (· < Nat.pow 2 32)

/-- Whether a host names an IPv4 address: its last label, before a final dot, is all
decimal digits or reads as an IPv4 number. -/
def endsInNumber (host : List Char) : Bool :=
  let labels := (host.splitOn '.').reverse
  let last? := match labels with
    | [] :: next :: _ => some next
    | [] :: [] => none
    | l :: _ => some l
    | [] => none
  match last? with
  | none => false
  | some l => (!l.isEmpty && l.all Char.isDigit) || (ipv4Number? l).isSome

/-- The address of an IPv4 host. -/
def parseIpv4 (host : List Char) : Except ParseError Nat := do
  let parts := host.splitOn '.'
  let parts := if parts.getLast? == some [] then parts.dropLast else parts
  if parts.length > 4 then throw .invalidIpv4
  let numbers ← parts.mapM fun p => match ipv4Number? p with
    | some n => pure n
    | none => throw .invalidIpv4
  match numbers.reverse with
  | [] => throw .invalidIpv4
  | last :: firstRev =>
    let first := firstRev.reverse
    if last ≥ Nat.pow 2 (8 * (4 - first.length)) then throw .invalidIpv4
    if first.any (· > 255) then throw .invalidIpv4
    pure (first.zipIdx.foldl (fun acc (n, k) => acc + n * Nat.pow 2 (8 * (3 - k))) last)

/-- Up to four hex digits: their value, how many, and what follows. -/
def hexPiece (cs : List Char) : Nat × Nat × List Char :=
  let digits := (cs.take 4).takeWhile fun c => (hexValue? c).isSome
  ((digitsValue? 16 digits).getD 0, digits.length, cs.drop digits.length)

/-- The reading of an IPv6 address so far: eight pieces, where the next one goes, and where
the `::` stood. -/
structure Ipv6Reading where
  pieces : List Nat := List.replicate 8 0
  next : Nat := 0
  gap : Option Nat := none

def Ipv6Reading.store (r : Ipv6Reading) (v : Nat) : Ipv6Reading :=
  { r with pieces := r.pieces.set r.next v, next := r.next + 1 }

/-- Read the hex pieces. Stops at the end, or before a dotted IPv4 tail, which it returns. -/
def hexPieces : Nat → Ipv6Reading → List Char → Except ParseError (Ipv6Reading × List Char)
  | 0, _, _ => .error .invalidIpv6
  | _ + 1, r, [] => .ok (r, [])
  | fuel + 1, r, c :: rest =>
    if r.next == 8 then .error .invalidIpv6
    else if c == ':' then
      if r.gap.isSome then .error .invalidIpv6
      else hexPieces fuel { r with next := r.next + 1, gap := some (r.next + 1) } rest
    else
      let (v, count, after) := hexPiece (c :: rest)
      match after with
      | [] => .ok (r.store v, [])
      | '.' :: _ =>
        if count == 0 || r.next > 6 then .error .invalidIpv6 else .ok (r, c :: rest)
      | ':' :: more => if more.isEmpty then .error .invalidIpv6 else hexPieces fuel (r.store v) more
      | _ => .error .invalidIpv6

/-- One decimal byte of a dotted tail, without leading zeros: its value and what follows. -/
def decimalByte (cs : List Char) : Except ParseError (Nat × List Char) :=
  let digits := cs.takeWhile Char.isDigit
  let value := digits.foldl (fun acc c => acc * 10 + (c.toNat - 48)) 0
  if digits.isEmpty then .error .invalidIpv6
  else if digits.length > 1 && digits.head? == some '0' then .error .invalidIpv6
  else if value > 255 then .error .invalidIpv6
  else .ok (value, cs.drop digits.length)

/-- Read the four bytes of a dotted tail into the last two pieces. -/
def dottedTail (r : Ipv6Reading) (cs : List Char) : Except ParseError Ipv6Reading := do
  let (a, cs) ← decimalByte cs
  let (b, cs) ← match cs with
    | '.' :: more => decimalByte more
    | _ => throw .invalidIpv6
  let (c, cs) ← match cs with
    | '.' :: more => decimalByte more
    | _ => throw .invalidIpv6
  let (d, cs) ← match cs with
    | '.' :: more => decimalByte more
    | _ => throw .invalidIpv6
  if !cs.isEmpty then throw .invalidIpv6
  pure ((r.store (a * 256 + b)).store (c * 256 + d))

/-- The eight pieces of an IPv6 address written between brackets. -/
def parseIpv6 (cs : List Char) : Except ParseError (List Nat) := do
  if cs.length < 2 then throw .invalidIpv6
  let (start, body) ← match cs with
    | ':' :: ':' :: rest => pure (({ next := 1, gap := some 1 } : Ipv6Reading), rest)
    | ':' :: _ => throw .invalidIpv6
    | _ => pure (({} : Ipv6Reading), cs)
  let (r, tail) ← hexPieces (body.length + 1) start body
  let r ← if tail.isEmpty then pure r else dottedTail r tail
  match r.gap with
  | some g => pure (r.pieces.take g ++ List.replicate (8 - r.next) 0 ++ (r.pieces.take r.next).drop g)
  | none => if r.next == 8 then pure r.pieces else throw .invalidIpv6

end BookRelay.Url
