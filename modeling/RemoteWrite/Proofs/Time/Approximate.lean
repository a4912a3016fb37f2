import RemoteWrite.Time.Approximate

/-!
Contract: spans below `2 ^ 53` nanoseconds are computed exactly.

A quotient is rounded on a grid of 53 significant bits. Rounding can carry it
to the next natural number only if the divisor is larger than the grid is fine,
which it is not below the bound.

Owns: the quotients, numbers, and spans that rounding leaves alone.

Does not own: the error of rounding beyond the bound.
-/

namespace RemoteWrite

namespace Decimal

theorem le_roundDiv (numerator denominator : Nat) :
    numerator / denominator ≤ roundDiv numerator denominator := by
  rw [roundDiv]
  split
  next => exact Nat.le_succ _
  next => exact Nat.le_refl _

/-- Rounding adds no more than one half. -/
theorem mul_roundDiv_le (numerator denominator : Nat) :
    2 * (denominator * roundDiv numerator denominator) ≤ 2 * numerator + denominator := by
  have division := Nat.div_add_mod numerator denominator
  simp only [roundDiv, Bool.or_eq_true, Bool.and_eq_true, decide_eq_true_eq]
  split
  next up =>
    rw [Nat.mul_succ]
    omega
  next => omega

/-- On a grid that is fine for the divisor, no quotient is rounded up to the
next natural number. -/
theorem roundDiv_div_of_lt {numerator denominator grid : Nat} (positive : 0 < denominator)
    (fine : denominator < 2 * grid) :
    roundDiv (numerator * grid) denominator / grid = numerator / denominator := by
  refine Nat.div_eq_of_lt_le ?_ (Nat.lt_of_not_le fun carried => ?_)
  · refine Nat.le_trans ?_ (le_roundDiv _ _)
    rw [Nat.le_div_iff_mul_le positive, Nat.mul_right_comm]
    exact Nat.mul_le_mul_right grid (Nat.div_mul_le_self numerator denominator)
  · have below : numerator + 1 ≤ denominator * (numerator / denominator + 1) :=
      Nat.lt_mul_div_succ numerator positive
    have reached : 2 * ((numerator + 1) * grid) ≤ 2 * (numerator * grid) + denominator :=
      calc 2 * ((numerator + 1) * grid)
          ≤ 2 * (denominator * (numerator / denominator + 1) * grid) :=
            Nat.mul_le_mul_left 2 (Nat.mul_le_mul_right grid below)
        _ = 2 * (denominator * ((numerator / denominator + 1) * grid)) := by
            rw [Nat.mul_assoc denominator]
        _ ≤ 2 * (denominator * roundDiv (numerator * grid) denominator) :=
            Nat.mul_le_mul_left 2 (Nat.mul_le_mul_left denominator carried)
        _ ≤ 2 * (numerator * grid) + denominator := mul_roundDiv_le _ _
    rw [Nat.add_one_mul numerator grid] at reached
    omega

end Decimal

namespace Time

/-- Below `2 ^ 53`, quotients lose nothing but their fraction. -/
theorem approximateDiv_of_lt {numerator denominator : Nat} (positive : 0 < denominator)
    (divisor : denominator < 2 ^ 53) (dividend : numerator < 2 ^ 53) :
    approximateDiv numerator denominator = numerator / denominator := by
  -- The quotient takes as many bits from the grid as it has itself.
  have bits : denominator * 2 ^ (numerator / denominator).log2 < 2 ^ 53 := by
    by_cases small : numerator / denominator = 0
    · rwa [small, Nat.log2_zero, Nat.pow_zero, Nat.mul_one]
    · refine Nat.lt_of_le_of_lt ?_ dividend
      exact Nat.le_trans (Nat.mul_le_mul_left _ (Nat.log2_self_le small)) (Nat.mul_div_le _ _)
  have exponent : (numerator / denominator).log2 ≤ 52 := by
    refine Nat.le_of_lt_succ ((Nat.pow_lt_pow_iff_right (by decide : 1 < 2)).mp ?_)
    exact Nat.lt_of_le_of_lt (Nat.le_mul_of_pos_left _ positive) bits
  have grid : 2 * 2 ^ (52 - (numerator / denominator).log2) *
      2 ^ (numerator / denominator).log2 = 2 ^ 53 := by
    rw [Nat.mul_assoc, ← Nat.pow_add, Nat.sub_add_cancel exponent, ← Nat.pow_succ']
  rw [approximateDiv, if_pos exponent]
  rw [← grid] at bits
  exact Decimal.roundDiv_div_of_lt positive (Nat.lt_of_mul_lt_mul_right bits)

theorem approximate_of_lt {n : Nat} (short : n < 2 ^ 53) : approximate n = n := by
  rw [approximate, approximateDiv_of_lt Nat.one_pos (by decide) short, Nat.div_one]

namespace Duration

theorem approximateNanos_of_lt {duration : Duration} (short : duration.nanos < 2 ^ 53) :
    duration.approximateNanos = duration.nanos := by
  have whole : nanosPerSecond * duration.seconds ≤ duration.nanos := Nat.mul_div_le _ _
  have seconds : duration.seconds ≤ duration.nanos := Nat.div_le_self _ _
  have parts : nanosPerSecond * duration.seconds + duration.subsecondNanos = duration.nanos :=
    Nat.div_add_mod _ _
  rw [approximateNanos, approximate_of_lt (Nat.lt_of_le_of_lt seconds short),
    approximate_of_lt (Nat.lt_of_le_of_lt whole short), parts, approximate_of_lt short]

theorem nanos_ofApproximateNanos_of_lt {nanos : Nat} (short : nanos < 2 ^ 53) :
    (ofApproximateNanos nanos).nanos = nanos := by
  have seconds : nanos / nanosPerSecond ≤ nanos := Nat.div_le_self _ _
  show nanosPerSecond * min (approximateDiv nanos nanosPerSecond) (2 ^ 64 - 1) +
    min nanos (2 ^ 64 - 1) % nanosPerSecond = nanos
  rw [approximateDiv_of_lt (by decide) (by decide) short, Nat.min_eq_left (by omega),
    Nat.min_eq_left (by omega), Nat.div_add_mod]

end Duration
end Time
end RemoteWrite
