/-!
# Durations

A span of time as whole seconds (a 64-bit count) and nanoseconds below one second. Its text
picks the largest unit that the span reaches — seconds, milliseconds, microseconds or
nanoseconds — and writes the rest of the span as a decimal fraction of that unit, without
trailing zeros: `1.5s`, `999ms`, `1.001s`, `0ns`.
-/

namespace BookRelay.Time

/-- Nanoseconds in a second. -/
def nanosPerSec : Nat := 1000000000

structure Duration where
  secs : Nat
  nanos : Nat
  nanos_lt : nanos < nanosPerSec
  deriving Repr, BEq, DecidableEq

namespace Duration

def zero : Duration := ⟨0, 0, by decide⟩

instance : Inhabited Duration := ⟨zero⟩

/-- The longest span: `2^64 - 1` seconds and `999999999` nanoseconds. -/
def max : Duration := ⟨Nat.pow 2 64 - 1, nanosPerSec - 1, by decide⟩

/-- A span of whole milliseconds. -/
def ofMillis (ms : Nat) : Duration :=
  ⟨ms / 1000, (ms % 1000) * 1000000, by unfold nanosPerSec; omega⟩

/-- A span of whole seconds. -/
def ofSecs (s : Nat) : Duration := ⟨s, 0, by decide⟩

/-- The span in nanoseconds. -/
def toNanos (d : Duration) : Nat := d.secs * nanosPerSec + d.nanos

/-- The span in whole milliseconds. -/
def toMillis (d : Duration) : Nat := d.secs * 1000 + d.nanos / 1000000

def le (a b : Duration) : Bool := a.toNanos ≤ b.toNanos

def min (a b : Duration) : Duration := if le a b then a else b

/-- A span from nanoseconds, saturating at `max`. -/
def ofNanosSat (n : Nat) : Duration :=
  if n / nanosPerSec ≥ Nat.pow 2 64 then max
  else ⟨n / nanosPerSec, n % nanosPerSec, Nat.mod_lt n (by decide)⟩

/-- The span repeated `k` times, saturating at `max`. -/
def mulSat (d : Duration) (k : Nat) : Duration := ofNanosSat (d.toNanos * k)

/-- The sum of two spans, saturating at `max`. -/
def addSat (a b : Duration) : Duration := ofNanosSat (a.toNanos + b.toNanos)

/-- `integer` followed by the fraction `frac / 10^width` without trailing zeros, and a unit. -/
def decimalText (integer frac width : Nat) (unit : String) : String :=
  let fracDigits := (Nat.toDigits 10 frac)
  let padded := List.replicate (width - fracDigits.length) '0' ++ fracDigits
  let trimmed := (padded.reverse.dropWhile (· == '0')).reverse
  toString integer ++ (if trimmed.isEmpty then "" else "." ++ String.ofList trimmed) ++ unit

def text (d : Duration) : String :=
  if d.secs > 0 then decimalText d.secs d.nanos 9 "s"
  else if d.nanos ≥ 1000000 then decimalText (d.nanos / 1000000) (d.nanos % 1000000) 6 "ms"
  else if d.nanos ≥ 1000 then decimalText (d.nanos / 1000) (d.nanos % 1000) 3 "µs"
  else toString d.nanos ++ "ns"

theorem ofMillis_toMillis (ms : Nat) : (ofMillis ms).toMillis = ms := by
  simp only [ofMillis, toMillis]
  omega

end Duration

end BookRelay.Time
