import RemoteWrite.Decimal.Nearest
import RemoteWrite.Time.Duration

/-!
Contract: spans of time that are computed with 53 significant bits.

Owns:
- the whole part of a quotient with 53 significant bits;
- the nanoseconds of a span, and the span of so many nanoseconds, in this
  precision. Below `2 ^ 53` nanoseconds both are exact.

Does not own: exact spans.
-/

namespace RemoteWrite.Time

/-- The quotient of two natural numbers rounded to 53 significant bits, without
what is left of its fraction. -/
def approximateDiv (numerator denominator : Nat) : Nat :=
  let exponent := (numerator / denominator).log2
  if exponent ≤ 52 then
    Decimal.roundDiv (numerator * 2 ^ (52 - exponent)) denominator / 2 ^ (52 - exponent)
  else Decimal.roundDiv numerator (denominator * 2 ^ (exponent - 52)) * 2 ^ (exponent - 52)

/-- A natural number rounded to 53 significant bits. -/
def approximate (n : Nat) : Nat := approximateDiv n 1

namespace Duration

/-- The nanoseconds of a span, rounded after every step. -/
def approximateNanos (duration : Duration) : Nat :=
  approximate
    (approximate (nanosPerSecond * approximate duration.seconds) + duration.subsecondNanos)

/-- The span of so many nanoseconds. The seconds and the rest are computed apart
from each other, and both stay below `2 ^ 64`. -/
def ofApproximateNanos (nanos : Nat) : Duration :=
  let seconds := min (approximateDiv nanos nanosPerSecond) (2 ^ 64 - 1)
  let rest := min nanos (2 ^ 64 - 1) % nanosPerSecond
  ⟨nanosPerSecond * seconds + rest, by
    have bound : rest < nanosPerSecond := Nat.mod_lt _ (by decide)
    have most : seconds ≤ 2 ^ 64 - 1 := Nat.min_le_right _ _
    simp only [nanosPerSecond] at *
    omega⟩

end Duration
end RemoteWrite.Time
