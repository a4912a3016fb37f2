import RemoteWrite.Time.Duration
import RemoteWrite.Time.HttpDate

/-!
Contract: the hint of a server when to try again.

Owns: the span that a hint stands for, which is a date or a number of seconds.
Dates that are past and texts that are neither stand for no time at all.

Does not own: the header that carries the hint, or the current time.
-/

namespace RemoteWrite.RetryAfter

/-- The span from a time to a date. The time is in nanoseconds since the start
of 1970, and negative before. Dates and clocks are less than the longest span
apart. -/
def untilMoment (now : Int) (moment : Time.Moment) : Time.Duration :=
  let seconds : Int := moment.secondNumber - Time.secondsPerDay * Time.epochDayNumber
  (Time.Duration.ofNanos? (Time.nanosPerSecond * seconds - now).toNat).getD .zero

/-- The span of a hint at a time in nanoseconds since the start of 1970. -/
def delayAt (now : Int) (text : String) : Time.Duration :=
  let trimmed := Text.trim text.toList
  match Time.HttpDate.parse? trimmed with
  | some moment => untilMoment now moment
  | none =>
    match Text.Numeral.parseUInt64? trimmed with
    | some seconds => .ofSeconds seconds
    | none => .zero

/-- The span of a hint, given the time since the start of 1970. -/
def delay (now : Time.Duration) (text : String) : Time.Duration :=
  delayAt now.nanos text

end RemoteWrite.RetryAfter
