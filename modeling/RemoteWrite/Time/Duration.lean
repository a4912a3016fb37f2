import RemoteWrite.Natural

/-!
Contract: spans of time.

A span is a whole number of nanoseconds. The longest one has the largest
number of seconds that fits in 64 bits and one nanosecond less than another
second.

Owns: spans, their parts, bounds for them, and their sum, which may be too long.

Does not own: points in time.
-/

namespace RemoteWrite.Time

def nanosPerSecond : Nat := 1000000000

structure Duration where
  nanos : Nat
  nanos_lt : nanos < nanosPerSecond * 2 ^ 64
deriving DecidableEq, Repr

namespace Duration

def zero : Duration := ⟨0, by decide⟩

/-- The span of so many nanoseconds, if it is not too long. -/
def ofNanos? (nanos : Nat) : Option Duration :=
  if bound : nanos < nanosPerSecond * 2 ^ 64 then some ⟨nanos, bound⟩ else none

def ofSeconds (seconds : UInt64) : Duration :=
  ⟨nanosPerSecond * seconds.toNat, by
    have bound := seconds.toNat_lt
    simp only [nanosPerSecond]
    omega⟩

def ofMillis (millis : UInt64) : Duration :=
  ⟨1000000 * millis.toNat, by
    have bound := millis.toNat_lt
    simp only [nanosPerSecond]
    omega⟩

def seconds (duration : Duration) : Nat := duration.nanos / nanosPerSecond

/-- The nanoseconds beyond the whole seconds. -/
def subsecondNanos (duration : Duration) : Nat := duration.nanos % nanosPerSecond

def millis (duration : Duration) : Nat := duration.nanos / 1000000

/-- The whole milliseconds that a span needs. -/
def millisUp (duration : Duration) : Nat := (duration.nanos + 999999) / 1000000

def atLeast (duration bound : Duration) : Duration :=
  if duration.nanos < bound.nanos then bound else duration

def atMost (duration bound : Duration) : Duration :=
  if bound.nanos < duration.nanos then bound else duration

theorem nanos_atLeast (duration bound : Duration) :
    (duration.atLeast bound).nanos = max bound.nanos duration.nanos := by
  rw [atLeast]
  split
  next less => exact (Nat.max_eq_left (Nat.le_of_lt less)).symm
  next enough => exact (Nat.max_eq_right (Nat.le_of_not_lt enough)).symm

theorem nanos_atMost (duration bound : Duration) :
    (duration.atMost bound).nanos = min bound.nanos duration.nanos := by
  rw [atMost]
  split
  next more => exact (Nat.min_eq_left (Nat.le_of_lt more)).symm
  next within => exact (Nat.min_eq_right (Nat.le_of_not_lt within)).symm

def add? (left right : Duration) : Option Duration :=
  ofNanos? (left.nanos + right.nanos)

end Duration
end RemoteWrite.Time
