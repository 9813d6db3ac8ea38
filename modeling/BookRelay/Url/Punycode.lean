/-!
# Punycode

The bootstring encoding of RFC 3492 that writes a label of Unicode characters in letters,
digits and hyphens: the ASCII characters first, then, after a hyphen, the insertions of the
others in increasing order of code point, each as a variable-length number in base 36 whose
digit thresholds follow an adaptive bias.

`encode` writes a label; `decode?` reads one back and fails on a malformed one.
-/

namespace BookRelay.Url.Punycode

/-- The threshold of the digit at position `k` (a multiple of 36): between 1 and 26. -/
def threshold (k bias : Nat) : Nat :=
  if k ≤ bias then 1 else if bias + 26 ≤ k then 26 else k - bias

theorem threshold_pos (k bias : Nat) : 1 ≤ threshold k bias := by
  unfold threshold
  split
  · omega
  · split <;> omega

/-- Divide a delta by 35 until it is at most 455, counting 36 for each division. -/
def shrink (delta k : Nat) : Nat × Nat :=
  if 455 < delta then shrink (delta / 35) (k + 36) else (delta, k)
termination_by delta
decreasing_by omega

/-- The next bias after a delta, given how many characters the label holds so far. -/
def adapt (delta points : Nat) (first : Bool) : Nat :=
  let d := if first then delta / 700 else delta / 2
  let (d, k) := shrink (d + d / points) 0
  k + 36 * d / (d + 38)

/-- The character of a digit: `a` to `z`, then `0` to `9`. -/
def digitChar (d : Nat) : Char :=
  if d < 26 then Char.ofNat (97 + d) else Char.ofNat (22 + d)

/-- The digit a character stands for, of either case. -/
def digitOf? (c : Char) : Option Nat :=
  if 'a' ≤ c && c ≤ 'z' then some (c.toNat - 97)
  else if 'A' ≤ c && c ≤ 'Z' then some (c.toNat - 65)
  else if '0' ≤ c && c ≤ '9' then some (c.toNat - 22)
  else none

/-- The digits of a delta, least significant first, from position `k`. -/
def deltaDigits (bias k q : Nat) : List Char :=
  let t := threshold k bias
  if q < t then [digitChar q]
  else digitChar (t + (q - t) % (36 - t)) :: deltaDigits bias (k + 36) ((q - t) / (36 - t))
termination_by q
decreasing_by
  have := threshold_pos k bias
  exact Nat.lt_of_le_of_lt (Nat.div_le_self _ _) (by omega)

/-- The state of the encoder: the digits written, the pending delta, the bias, and how many
characters are placed. -/
structure Encoder where
  out : List Char
  delta : Nat
  bias : Nat
  placed : Nat

/-- Pass over the label for the code point `m`: characters below it add to the delta, and
each occurrence of it writes the delta and starts a new one. -/
def Encoder.visit (basic m : Nat) (e : Encoder) (c : Nat) : Encoder :=
  if c < m then { e with delta := e.delta + 1 }
  else if c == m then
    { out := e.out ++ deltaDigits e.bias 36 e.delta, delta := 0,
      bias := adapt e.delta (e.placed + 1) (e.placed == basic), placed := e.placed + 1 }
  else e

/-- Place the code points `ms`, in increasing order, the last one placed being `n - 1`. -/
def Encoder.run (label : List Nat) (basic : Nat) : List Nat → Nat → Encoder → Encoder
  | [], _, e => e
  | m :: ms, n, e =>
    let e := { e with delta := e.delta + (m - n) * (e.placed + 1) }
    let e := label.foldl (Encoder.visit basic m) e
    Encoder.run label basic ms (m + 1) { e with delta := e.delta + 1 }

/-- The Punycode form of a label, without the `xn--` that marks it in a domain. -/
def encode (label : List Char) : String :=
  let codes := label.map Char.toNat
  let basic := label.filter fun c => c.toNat < 0x80
  let others := ((codes.filter (0x80 ≤ ·)).mergeSort (· ≤ ·)).eraseDups
  let e := Encoder.run codes basic.length others 128 ⟨[], 0, 72, basic.length⟩
  String.ofList (basic ++ (if basic.isEmpty then [] else ['-']) ++ e.out)

/-- Read a delta from position `k` with weight `w`, adding to `i`; none when the digits stop
early or the value leaves 32 bits. -/
def readDelta (bias : Nat) : List Char → Nat → Nat → Nat → Option (Nat × List Char)
  | [], _, _, _ => none
  | c :: rest, k, w, i => do
    let d ← digitOf? c
    let i := i + d * w
    if Nat.pow 2 32 ≤ i then none
    let t := threshold k bias
    if d < t then some (i, rest)
    else readDelta bias rest (k + 36) (w * (36 - t)) i

theorem readDelta_shorter (bias : Nat) :
    ∀ (cs : List Char) (k w i : Nat) (r : Nat × List Char),
      readDelta bias cs k w i = some r → r.2.length < cs.length
  | [], _, _, _, _, h => by simp [readDelta] at h
  | c :: rest, k, w, i, r, h => by
    simp only [readDelta] at h
    cases hd : digitOf? c with
    | none => simp [hd] at h
    | some d =>
      simp only [hd, Option.bind_eq_bind, Option.bind_some] at h
      split at h
      · simp at h
      · split at h
        · cases h; simp
        · have := readDelta_shorter bias rest _ _ _ r h
          simp; omega

/-- Insert the characters coded by the digits into the label read so far. -/
def insertAll (cs : List Char) (n i bias : Nat) (out : List Nat) : Option (List Nat) :=
  match h : readDelta bias cs 36 1 i with
  | none => if cs.isEmpty then some out else none
  | some (j, rest) =>
    let len := out.length + 1
    let n := n + j / len
    if n ≥ 0x110000 || (0xD800 ≤ n && n < 0xE000) then none
    else
      have := readDelta_shorter bias cs 36 1 i (j, rest) h
      insertAll rest n (j % len + 1) (adapt (j - i) len (i == 0)) (out.insertIdx (j % len) n)
termination_by cs.length

/-- The label a Punycode text stands for: the ASCII characters before the last hyphen, with
the coded characters inserted. -/
def decode? (text : List Char) : Option (List Char) := do
  let (basic, coded) :=
    match (text.reverse.splitOn '-') with
    | [_] => ([], text)
    | last :: _ => (text.take (text.length - last.length - 1), last.reverse)
    | [] => ([], text)
  if !basic.all (·.toNat < 0x80) then none
  let codes ← insertAll coded 128 0 72 (basic.map Char.toNat)
  pure (codes.map Char.ofNat)

theorem digitOf_digitChar : ∀ d, d < 36 → digitOf? (digitChar d) = some d := by decide

end BookRelay.Url.Punycode
