/-!
# Shortest decimal digits of a double

A finite double is `mant · 2^exp`. The reals that read back as that double form an interval
around it, whose ends are halfway to the two neighbouring doubles; the ends belong to it
exactly when `mant` is even (a reader breaks ties to even). The shortest decimal is found by
trying grids `10^k` from coarse to fine: the first grid with a point in the interval fixes the
number of digits, and of its points the one nearest the double is taken, a tie going to the even
digit string. Everything is exact `Nat` arithmetic.
-/

namespace BookRelay.Decimal

/-- A decimal number `digits · 10^exp`. -/
structure Decimal where
  digits : Nat
  exp : Int
  deriving Repr, BEq, DecidableEq

/-- The magnitude of a finite, non-zero double as `mant · 2^exp`, with the two facts that
shape its rounding interval: whether the gap below is half the gap above, and whether the
interval's ends read back (even `mant`). -/
structure Binary where
  mant : Nat
  exp : Int
  narrowBelow : Bool
  deriving Repr

/-- Field access on the bits of a double: sign, biased exponent, fraction. -/
def signBit (bits : UInt64) : Bool := (bits >>> 63) == 1

def biasedExponent (bits : UInt64) : Nat := ((bits >>> 52) &&& 0x7FF).toNat

def fraction (bits : UInt64) : Nat := (bits &&& 0xFFFFFFFFFFFFF).toNat

/-- The magnitude of a finite double given by its bits; `none` for zero, infinities and NaN. -/
def Binary.ofBits? (bits : UInt64) : Option Binary :=
  let e := biasedExponent bits
  let f := fraction bits
  if e == 0x7FF then none
  else if e == 0 then
    if f == 0 then none else some ⟨f, -1074, false⟩
  else some ⟨Nat.pow 2 52 + f, (e : Int) - 1075, f == 0 && e > 1⟩

/-- `a · 2^q / 10^k` as a numerator and a positive denominator. -/
def ratio (a : Nat) (q k : Int) : Nat × Nat :=
  (a * Nat.pow 2 q.toNat * Nat.pow 10 (-k).toNat, Nat.pow 2 (-q).toNat * Nat.pow 10 k.toNat)

/-- The least integer at or above `n / d`. -/
def ceilDiv (n d : Nat) : Nat := (n + d - 1) / d

/-- The integers `d` with `d · 10^k` inside the rounding interval of `b`, as a range. -/
def gridRange (b : Binary) (k : Int) : Nat × Nat :=
  let q := b.exp - 2
  let lo := if b.narrowBelow then 4 * b.mant - 1 else 4 * b.mant - 2
  let hi := 4 * b.mant + 2
  let closed := b.mant % 2 == 0
  let (ln, ld) := ratio lo q k
  let (hn, hd) := ratio hi q k
  let first := if closed then ceilDiv ln ld else ln / ld + 1
  let last := if closed then hn / hd else ceilDiv hn hd - 1
  (first, last)

/-- The integer nearest `b / 10^k`, a tie going to the even one. -/
def nearest (b : Binary) (k : Int) : Nat :=
  let (n, d) := ratio (4 * b.mant) (b.exp - 2) k
  let f := n / d
  let r := n % d
  if 2 * r < d then f else if 2 * r > d then f + 1 else if f % 2 == 0 then f else f + 1

/-- The number of decimal digits of `n` (one for zero). -/
def digitCount (n : Nat) : Nat := (Nat.toDigits 10 n).length

/-- The decimal exponent of the leading digit: `10^e ≤ b < 10^(e+1)`. -/
def leadingExponent (b : Binary) : Int :=
  let (n, d) := ratio b.mant b.exp (-400)
  (digitCount (n / d) : Int) - 401

/-- Try grids `10^k`, `10^(k-1)`, … for at most `fuel` steps. -/
def search (b : Binary) : Nat → Int → Option Decimal
  | 0, _ => none
  | fuel + 1, k =>
    let (first, last) := gridRange b k
    if first ≤ last then
      let d := nearest b k
      let d := if d < first then first else if d > last then last else d
      some ⟨d, k⟩
    else search b fuel (k - 1)

/-- The shortest decimal that reads back as the double `b`, nearest of those. Twenty grids
starting just above the leading digit always reach one with a point in the interval, since the
seventeenth significant digit already separates neighbouring doubles. -/
def shortest (b : Binary) : Decimal :=
  (search b 20 (leadingExponent b + 1)).getD ⟨b.mant, 0⟩

end BookRelay.Decimal
