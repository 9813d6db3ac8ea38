import BookRelay.Time.Duration

/-! The instants of the platform's clock: adding a span to an instant panics past the last
instant the platform represents. -/

namespace BookRelay.Time

/-- The platform's clock, read in milliseconds of the virtual clock. -/
structure Clock where
  /-- The last instant the platform represents. -/
  last : Nat
  deriving Repr

namespace Clock

/-- Linux keeps an instant as signed 64-bit seconds of its monotonic clock; the virtual clock is
taken to start at that clock's origin. -/
def linux : Clock := ⟨(Nat.pow 2 63 - 1) * 1000⟩

/-- `now + d` as an instant, to the millisecond, or `none` where adding panics: past the last
instant. -/
def add? (k : Clock) (now : Nat) (d : Duration) : Option Nat :=
  if now + d.toMillis ≤ k.last then some (now + d.toMillis) else none

/-- The message of that panic. -/
def overflowText : String := "overflow when adding duration to instant"

end Clock

end BookRelay.Time
