import RemoteWrite.Client.Config
import RemoteWrite.Time.Approximate

/-!
Contract: the delays between the retries of one write.

The first delay is the minimum, and every further one doubles. Once the double
would reach the maximum, the interval stays there. There is no randomness.

Intervals are computed with 53 significant bits, so doubling is exact for all
spans below `2 ^ 53` nanoseconds.

Owns: the state of a backoff, its next delay, and the budget of retries.

Does not own: waiting, or hints of the server.
-/

namespace RemoteWrite

/-- The interval before the next retry, and the number of retries so far. -/
structure Backoff where
  config : BackoffConfig
  interval : Time.Duration
  attempt : Nat
deriving DecidableEq, Repr

namespace Backoff

def new (config : BackoffConfig) : Backoff := ⟨config, config.minDelay, 0⟩

/-- Another retry is within the budget. -/
def canRetry (backoff : Backoff) : Bool :=
  backoff.attempt < backoff.config.maxRetries.toNat

/-- The delay before the next retry: the interval, but no less than the
minimum, and in any case no more than the maximum. -/
def delay (backoff : Backoff) : Time.Duration :=
  ((Time.Duration.ofApproximateNanos backoff.interval.approximateNanos).atLeast
    backoff.config.minDelay).atMost backoff.config.maxDelay

/-- Twice an interval, or the maximum once it is reached. -/
def doubled (interval maximum : Time.Duration) : Time.Duration :=
  if maximum.approximateNanos ≤ 2 * interval.approximateNanos then maximum
  else .ofApproximateNanos (2 * interval.approximateNanos)

/-- Count a retry and double the interval. -/
def advance (backoff : Backoff) : Backoff where
  config := backoff.config
  interval := doubled backoff.interval backoff.config.maxDelay
  attempt := backoff.attempt + 1

def remaining (backoff : Backoff) : Nat :=
  backoff.config.maxRetries.toNat - backoff.attempt

theorem remaining_advance {backoff : Backoff} (more : backoff.canRetry = true) :
    backoff.advance.remaining < backoff.remaining := by
  simp only [canRetry, decide_eq_true_eq] at more
  simp only [advance, remaining]
  omega

end Backoff
end RemoteWrite
