import RemoteWrite.Proofs.Client.Overflow
import RemoteWrite.Proofs.Time.Approximate

/-!
Contract: the delays of a backoff in closed form.

Between the minimum and the maximum the interval doubles, which is exact for
spans below `2 ^ 53` nanoseconds. The delay after any number of retries is the
minimum doubled so many times, or the maximum where that is less. This holds of
any bounds, also if the minimum is above the maximum or if one of them is zero.

Owns:
- what one step of a backoff does to the interval, and the delay it leads to;
- the delay after any number of retries, with its order and its bounds;
- the count of retries against the budget.

Does not own: hints, or the retries that a write makes.
-/

namespace RemoteWrite

/-- The bounds of the delays are spans that are computed exactly. -/
structure BackoffConfig.IsShort (config : BackoffConfig) : Prop where
  minimum : config.minDelay.nanos < 2 ^ 53
  maximum : config.maxDelay.nanos < 2 ^ 53

theorem BackoffConfig.isShort_of_millis {config : BackoffConfig}
    (minimum : config.minDelayMs.toNat ≤ 9000000000)
    (maximum : config.maxDelayMs.toNat ≤ 9000000000) : config.IsShort where
  minimum := by
    show 1000000 * config.minDelayMs.toNat < 2 ^ 53
    omega
  maximum := by
    show 1000000 * config.maxDelayMs.toNat < 2 ^ 53
    omega

namespace Backoff

/-! ## Steps -/

/-- The interval doubles up to the maximum. -/
theorem nanos_doubled {interval maximum : Time.Duration} (short : interval.nanos < 2 ^ 53)
    (bound : maximum.nanos < 2 ^ 53) :
    (doubled interval maximum).nanos = min maximum.nanos (2 * interval.nanos) := by
  rw [doubled, Time.Duration.approximateNanos_of_lt short,
    Time.Duration.approximateNanos_of_lt bound]
  split
  next reached => exact (Nat.min_eq_left reached).symm
  next below =>
    rw [Nat.min_eq_right (Nat.le_of_not_le below),
      Time.Duration.nanos_ofApproximateNanos_of_lt (Nat.lt_trans (Nat.lt_of_not_le below) bound)]

/-- The delay is the interval, within the bounds. -/
theorem nanos_delay {backoff : Backoff} (short : backoff.interval.nanos < 2 ^ 53) :
    backoff.delay.nanos =
      min backoff.config.maxDelay.nanos
        (max backoff.config.minDelay.nanos backoff.interval.nanos) := by
  have yielded : (Time.Duration.ofApproximateNanos backoff.interval.approximateNanos).nanos =
      backoff.interval.nanos := by
    rw [Time.Duration.approximateNanos_of_lt short,
      Time.Duration.nanos_ofApproximateNanos_of_lt short]
  rw [delay, Time.Duration.nanos_atMost, Time.Duration.nanos_atLeast, yielded]

/-! ## Retries -/

variable {config : BackoffConfig}

@[simp]
theorem attempt_after (config : BackoffConfig) (count : Nat) :
    (after config count).attempt = count := by
  induction count with
  | zero => rfl
  | succ count inductionHypothesis => rw [after, advance, inductionHypothesis]

/-- Retries end with the budget. -/
theorem canRetry_after_iff (config : BackoffConfig) (count : Nat) :
    (after config count).canRetry = true ↔ count < config.maxRetries.toNat := by
  rw [canRetry, attempt_after, config_after, decide_eq_true_eq]

/-- One retry doubles the interval up to the maximum. -/
theorem nanos_interval_advance (short : config.IsShort) {count : Nat}
    (bound : (after config count).interval.nanos < 2 ^ 53) :
    (after config (count + 1)).interval.nanos =
      min config.maxDelay.nanos (2 * (after config count).interval.nanos) := by
  show (doubled (after config count).interval (after config count).config.maxDelay).nanos = _
  rw [config_after, nanos_doubled bound short.maximum]

/-- No interval leaves the range of spans that are computed exactly. -/
theorem nanos_interval_after_lt (short : config.IsShort) (count : Nat) :
    (after config count).interval.nanos < 2 ^ 53 := by
  induction count with
  | zero => exact short.minimum
  | succ count inductionHypothesis =>
      rw [nanos_interval_advance short inductionHypothesis]
      exact Nat.lt_of_le_of_lt (Nat.min_le_left _ _) short.maximum

/-- The interval after a number of retries in closed form. Only the first one
may be beyond the maximum. -/
theorem nanos_interval_after_succ (short : config.IsShort) (count : Nat) :
    (after config (count + 1)).interval.nanos =
      min config.maxDelay.nanos (config.minDelay.nanos * 2 ^ (count + 1)) := by
  induction count with
  | zero =>
      rw [nanos_interval_advance short (nanos_interval_after_lt short 0), Nat.zero_add,
        Nat.pow_one, Nat.mul_comm]
      rfl
  | succ count inductionHypothesis =>
      rw [nanos_interval_advance short (nanos_interval_after_lt short _), inductionHypothesis,
        Nat.pow_succ _ (count + 1), ← Nat.mul_assoc]
      omega

/-- The delay after a number of retries in closed form. -/
theorem nanos_delay_after (short : config.IsShort) (count : Nat) :
    (after config count).delay.nanos =
      min config.maxDelay.nanos (config.minDelay.nanos * 2 ^ count) := by
  rw [nanos_delay (nanos_interval_after_lt short count), config_after]
  cases count with
  | zero =>
      have interval : (after config 0).interval = config.minDelay := rfl
      rw [interval, Nat.max_self, Nat.pow_zero, Nat.mul_one]
  | succ count =>
      have grown : config.minDelay.nanos ≤ config.minDelay.nanos * 2 ^ (count + 1) :=
        Nat.le_mul_of_pos_right _ (Nat.two_pow_pos _)
      rw [nanos_interval_after_succ short]
      omega

/-- Delays never decrease. -/
theorem nanos_delay_after_mono (short : config.IsShort) {fewer count : Nat}
    (order : fewer ≤ count) :
    (after config fewer).delay.nanos ≤ (after config count).delay.nanos := by
  have grown : config.minDelay.nanos * 2 ^ fewer ≤ config.minDelay.nanos * 2 ^ count :=
    Nat.mul_le_mul_left _ (Nat.pow_le_pow_right Nat.two_pos order)
  rw [nanos_delay_after short, nanos_delay_after short]
  omega

/-- No delay is less than both bounds. -/
theorem le_nanos_delay_after (short : config.IsShort) (count : Nat) :
    min config.minDelay.nanos config.maxDelay.nanos ≤ (after config count).delay.nanos := by
  have grown : config.minDelay.nanos ≤ config.minDelay.nanos * 2 ^ count :=
    Nat.le_mul_of_pos_right _ (Nat.two_pow_pos _)
  rw [nanos_delay_after short]
  omega

end Backoff
end RemoteWrite
