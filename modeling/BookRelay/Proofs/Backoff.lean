import BookRelay.Proofs.Reconnect

/-! # The backoff between reconnects

The documented wait before the `n`-th reconnect is `initial · 2^(n-1)`, capped at `max`,
taken exactly in nanoseconds and saturating only at the longest span. The client stops the
exponent at 31, so its waits double, capped at `max`, up to the 32nd retry and stay the same
from then on (`backoffDelay_succ_toNanos`). It therefore waits as documented exactly when the
retry is at most the 32nd, the initial wait is zero, or `max` is already reached by
`initial · 2^31` (`backoffDelay_eq_documentedWait_iff`); a wait of one millisecond under a far
larger cap stops growing at `2^31` ms. -/

namespace BookRelay.Pipeline

open BookRelay.Time

/-- The documented wait before the `retry`-th reconnect, in nanoseconds: `initial · 2^(retry-1)`
taken exactly, saturating at the longest span, capped at `max`. -/
def documentedWait (retry : Nat) (initial max : Duration) : Nat :=
  min max.toNanos (min (initial.toNanos * Nat.pow 2 (retry - 1)) Duration.max.toNanos)

theorem two_mul_pow_31_le {k : Nat} (hk : 32 ≤ k) : 2 * Nat.pow 2 31 ≤ Nat.pow 2 k :=
  calc 2 * Nat.pow 2 31 = Nat.pow 2 32 := rfl
    _ ≤ Nat.pow 2 k := Nat.pow_le_pow_right (by omega) hk

section Wait

variable {initial max : Duration} (hmax : max.toNanos ≤ Duration.max.toNanos)

include hmax in
/-- The waits double, capped at `max`, up to the 32nd retry, and stay the same after it. -/
theorem backoffDelay_succ_toNanos {retry : Nat} (hr : 1 ≤ retry) :
    (backoffDelay (retry + 1) initial max).toNanos =
      if retry ≤ 31 then min max.toNanos (2 * (backoffDelay retry initial max).toNanos)
      else (backoffDelay retry initial max).toNanos := by
  rw [backoffDelay_toNanos, backoffDelay_toNanos]
  split
  · rename_i hle
    -- below the clamp both exponents are exact and the later one is one larger
    have hexp : min (retry + 1 - 1) 31 = (retry - 1) + 1 := by omega
    have hexp' : min (retry - 1) 31 = retry - 1 := by omega
    have hdouble : initial.toNanos * Nat.pow 2 ((retry - 1) + 1) =
        2 * (initial.toNanos * Nat.pow 2 (retry - 1)) := by
      show initial.toNanos * (Nat.pow 2 (retry - 1) * 2) = 2 * (initial.toNanos * Nat.pow 2 (retry - 1))
      rw [Nat.mul_comm (Nat.pow 2 (retry - 1)) 2, Nat.mul_left_comm]
    rw [hexp, hexp', hdouble]
    -- with `max` below the longest span, doubling commutes with both caps
    simp only [Nat.min_def]
    split_ifs <;> omega
  · rename_i hgt
    have hexp : min (retry + 1 - 1) 31 = min (retry - 1) 31 := by omega
    rw [hexp]

include hmax in
/-- The client waits as documented exactly when the retry is at most the 32nd, the initial wait
is zero, or `initial · 2^31` already reaches `max`. -/
theorem backoffDelay_eq_documentedWait_iff (retry : Nat) :
    (backoffDelay retry initial max).toNanos = documentedWait retry initial max ↔
      retry ≤ 32 ∨ initial.toNanos = 0 ∨ max.toNanos ≤ initial.toNanos * Nat.pow 2 31 := by
  rw [backoffDelay_toNanos, documentedWait]
  by_cases hr : retry ≤ 32
  · have hexp : min (retry - 1) 31 = retry - 1 := by omega
    rw [hexp]
    simp only [hr, true_or, iff_true]
    exact Nat.min_comm _ _
  · -- past the clamp the client keeps `2^31` while the documented factor is at least twice it
    have hexp : min (retry - 1) 31 = 31 := by omega
    have hgrow : 2 * (initial.toNanos * Nat.pow 2 31) ≤ initial.toNanos * Nat.pow 2 (retry - 1) := by
      rw [← Nat.mul_assoc, Nat.mul_comm 2, Nat.mul_assoc]
      exact Nat.mul_le_mul_left _ (two_mul_pow_31_le (by omega))
    have h31 : Nat.pow 2 31 = 2147483648 := rfl
    rw [hexp]
    simp only [hr, false_or]
    by_cases hi : initial.toNanos = 0
    · simp only [hi, Nat.zero_mul, true_or, iff_true]
      exact Nat.min_comm _ _
    · rw [h31] at hgrow ⊢
      simp only [Nat.min_def, hi, false_or]
      split_ifs <;> constructor <;> intro h <;> omega

end Wait

/-- The law of the waits between reconnects under a cap: each wait doubles the one before,
capped at `max`, up to the 32nd retry and stays the same after it; and a wait is the documented
one exactly when the retry is at most the 32nd, the initial wait is zero, or `initial · 2^31`
already reaches the cap. -/
structure BackoffLaw (initial max : Duration) : Prop where
  doubles : ∀ retry, 1 ≤ retry → (backoffDelay (retry + 1) initial max).toNanos =
    if retry ≤ 31 then min max.toNanos (2 * (backoffDelay retry initial max).toNanos)
    else (backoffDelay retry initial max).toNanos
  documented_iff : ∀ retry,
    (backoffDelay retry initial max).toNanos = documentedWait retry initial max ↔
      retry ≤ 32 ∨ initial.toNanos = 0 ∨ max.toNanos ≤ initial.toNanos * Nat.pow 2 31

/-- Under every cap a span can be, the waits between reconnects follow `BackoffLaw`: they keep
doubling only up to the 32nd retry. -/
theorem backoff_doubling_stops_at_retry_32 (initial max : Duration)
    (hmax : max.toNanos ≤ Duration.max.toNanos) : BackoffLaw initial max :=
  ⟨fun _ hr => backoffDelay_succ_toNanos hmax hr, backoffDelay_eq_documentedWait_iff hmax⟩

/-- A one-millisecond initial wait under the longest cap of whole milliseconds. -/
theorem backoff_doubling_stops_at_retry_32_of_one_milli :
    (Duration.ofMillis (Nat.pow 2 64 - 1)).toNanos ≤ Duration.max.toNanos ∧
      BackoffLaw (.ofMillis 1) (.ofMillis (Nat.pow 2 64 - 1)) :=
  have hmax : (Duration.ofMillis (Nat.pow 2 64 - 1)).toNanos ≤ Duration.max.toNanos := by decide
  ⟨hmax, backoff_doubling_stops_at_retry_32 _ _ hmax⟩

/-- At the 33rd retry a one-millisecond initial wait under the longest cap of whole
milliseconds gives `2^31` ms, where the documented wait is `2^32` ms. -/
theorem backoff_at_retry_33_of_one_milli :
    (backoffDelay 33 (.ofMillis 1) (.ofMillis (Nat.pow 2 64 - 1))).toNanos = 2147483648 * 1000000 ∧
      documentedWait 33 (.ofMillis 1) (.ofMillis (Nat.pow 2 64 - 1)) = 4294967296 * 1000000 := by
  decide

end BookRelay.Pipeline
