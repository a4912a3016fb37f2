import RemoteWrite.Proofs.Client.RetryAfter
import RemoteWrite.Proofs.Text.Decimal
import RemoteWrite.Proofs.Time.HttpDate

/-!
Contract: how long a hint asks to wait, to the nanosecond.

Owns:
- the text of every second from 1970 to 9999, from a calendar that is kept day
  by day;
- the span to that second, from any time;
- dates with another weekday or without a day in the calendar, which ask for
  nothing;
- numerals, which ask for as many seconds or, beyond 64 bits, for nothing.

Does not own: the header that carries a hint.
-/

namespace RemoteWrite

namespace Time.HttpDate

/-- The text of a second since the start of 1970, with any weekday. -/
def ofSecondAs (weekday : Weekday) (second : Nat) : List Char :=
  renderAs weekday ⟨.afterEpoch (second / secondsPerDay), second % secondsPerDay⟩

/-- The weekday of a second since the start of 1970. -/
def weekdayOf (second : Nat) : Weekday := .afterEpoch (second / secondsPerDay)

/-- The first second since the start of 1970 whose year has five digits. -/
def secondsBefore10000 : Nat := secondsPerDay * daysBefore10000

/-- The text of a second is read if its weekday is right. -/
theorem parse?_ofSecondAs (weekday : Weekday) {second : Nat} (before : second < secondsBefore10000) :
    parse? (ofSecondAs weekday second) =
      if weekday = weekdayOf second then
        some ⟨.afterEpoch (second / secondsPerDay), second % secondsPerDay⟩
      else none := by
  have inDay : second % secondsPerDay < secondsPerDay := Nat.mod_lt _ (by decide)
  have inYears : second / secondsPerDay < daysBefore10000 := Nat.div_lt_of_lt_mul before
  have years := Date.year_afterEpoch_lt inYears
  have isDay := Date.isDay_afterEpoch (second / secondsPerDay)
  have own := Date.weekday_afterEpoch (second / secondsPerDay)
  have days : (Date.afterEpoch (second / secondsPerDay)).day < 10 ^ 2 := by
    have last := isDay.day_le_31
    omega
  rw [ofSecondAs, parse?_renderAs weekday years isDay.month_pos isDay.month_le days inDay,
    Date.ofParts?_of_isDay isDay, weekdayOf, ← own]
  by_cases right : weekday = (Date.afterEpoch (second / secondsPerDay)).weekday
  · rw [if_pos right, Option.filter_some, decide_eq_true right]
    rfl
  · rw [if_neg right, Option.filter_some, decide_eq_false right]
    rfl

/-- Its number counts from the start of year zero. -/
theorem secondNumber_afterEpoch (second : Nat) :
    (⟨.afterEpoch (second / secondsPerDay), second % secondsPerDay⟩ : Moment).secondNumber =
      secondsPerDay * epochDayNumber + second := by
  rw [Moment.secondNumber, Date.dayNumber_afterEpoch, Nat.mul_add, Nat.add_assoc,
    Nat.div_add_mod]

end Time.HttpDate

namespace RetryAfter

open Time

/-- A hint without a date is judged as a numeral. -/
theorem delayAt_of_parse?_eq_none {text : String}
    (noDate : HttpDate.parse? (Text.trim text.toList) = none) (now : Int) :
    delayAt now text =
      ((Text.Numeral.parseUInt64? (Text.trim text.toList)).map Duration.ofSeconds).getD .zero := by
  simp only [delayAt, noDate]
  cases Text.Numeral.parseUInt64? (Text.trim text.toList) <;> rfl

/-- A date that is not read asks for nothing. -/
theorem delayAt_renderAs {text : String} {weekday : Weekday} {moment : Moment}
    (unread : HttpDate.parse? (HttpDate.renderAs weekday moment) = none)
    (padded : Text.Padded (HttpDate.renderAs weekday moment) text.toList) (now : Int) :
    delayAt now text = .zero := by
  have core := Text.trim_of_trimmed (HttpDate.trimmed_renderAs weekday moment) padded
  rw [delayAt_of_parse?_eq_none (by rw [core, unread]), core, HttpDate.parseUInt64?_renderAs]
  rfl

/-- A numeral that 64 bits do not hold is not read. -/
theorem nanos_delayAt_of_isNumeral {text : String} {numeral : List Char} {n : Nat}
    (denotes : Text.IsNumeral numeral n) (padded : Text.Padded numeral text.toList) (now : Int) :
    (delayAt now text).nanos = if n < 2 ^ 64 then nanosPerSecond * n else 0 := by
  have core := Text.trim_of_padded denotes.solid padded
  have below : Text.Numeral.parse? (n + 1) numeral = some n :=
    Text.parse?_eq_some_iff.mpr ⟨denotes, Nat.lt_succ_self n⟩
  obtain ⟨c, rest, starts, low⟩ := Text.Numeral.toNat_head_parse? below
  have noDate : HttpDate.parse? (Text.trim text.toList) = none := by
    rw [core, starts, HttpDate.parse?_eq_none_of_head low]
  rw [delayAt_of_parse?_eq_none noDate, core, Text.Numeral.parseUInt64?, denotes.parse?_eq]
  by_cases fits : n < 2 ^ 64
  · rw [if_pos fits, if_pos fits]
    show nanosPerSecond * (UInt64.ofNat n).toNat = nanosPerSecond * n
    rw [UInt64.toNat_ofNat_of_lt' fits]
  · rw [if_neg fits, if_neg fits]
    rfl

/-- The span to a second that can be written, from any clock of 64 bits. -/
theorem nanos_untilMoment {now : Int} (clock : -(nanosPerSecond * 2 ^ 63 : Int) ≤ now)
    {second : Nat} (before : second < HttpDate.secondsBefore10000) :
    ((untilMoment now
        ⟨.afterEpoch (second / secondsPerDay), second % secondsPerDay⟩).nanos : Int) =
      max (nanosPerSecond * second - now) 0 := by
  have count := HttpDate.secondNumber_afterEpoch second
  have short : (nanosPerSecond * second - now).toNat < nanosPerSecond * 2 ^ 64 := by
    rw [HttpDate.secondsBefore10000, secondsPerDay, daysBefore10000] at before
    rw [nanosPerSecond] at clock ⊢
    omega
  have sinceEpoch : ((secondsPerDay * epochDayNumber + second : Nat) : Int) -
      secondsPerDay * epochDayNumber = second := by
    push_cast
    omega
  rw [untilMoment, count, sinceEpoch, Duration.ofNanos?, dif_pos short, Option.getD_some]
  exact Int.toNat_eq_max _

/-- A hint is given with any white space around it. The text of a second from
1970 to 9999 asks to wait until then, and for nothing when that is past; it is
the text that a calendar gives which is kept day by day. With another weekday,
or with a day that the month does not have, it asks for nothing. A numeral asks
for its number of seconds if 64 bits hold it, and otherwise for nothing. -/
theorem delayAt_hints (now : Int) (clock : -(nanosPerSecond * 2 ^ 63 : Int) ≤ now)
    (text : String) :
    (∀ second < HttpDate.secondsBefore10000,
      Text.Padded (HttpDate.ofSecondAs (HttpDate.weekdayOf second) second) text.toList →
        ((delayAt now text).nanos : Int) = max (nanosPerSecond * second - now) 0) ∧
    (∀ second < HttpDate.secondsBefore10000, ∀ weekday ≠ HttpDate.weekdayOf second,
      Text.Padded (HttpDate.ofSecondAs weekday second) text.toList →
        delayAt now text = .zero) ∧
    (∀ weekday year month day second, year < 10000 → 1 ≤ month → month ≤ 12 → day < 100 →
      second < secondsPerDay → ¬ (Date.mk year month day).IsDay →
        Text.Padded (HttpDate.renderAs weekday ⟨⟨year, month, day⟩, second⟩) text.toList →
          delayAt now text = .zero) ∧
    ∀ numeral n, Text.IsNumeral numeral n → Text.Padded numeral text.toList →
      (delayAt now text).nanos = if n < 2 ^ 64 then nanosPerSecond * n else 0 := by
  refine ⟨fun second before padded => ?_, fun second before weekday wrong padded => ?_,
    fun weekday year month day second years positive within days inDay missing padded => ?_,
    fun numeral n denotes padded => ?_⟩
  · have core : Text.trim text.toList = HttpDate.ofSecondAs (HttpDate.weekdayOf second) second :=
      Text.trim_of_trimmed (HttpDate.trimmed_renderAs _ _) padded
    have read := HttpDate.parse?_ofSecondAs (HttpDate.weekdayOf second) before
    rw [if_pos rfl] at read
    simp only [delayAt, core, read]
    exact nanos_untilMoment clock before
  · refine delayAt_renderAs ?_ padded now
    have read := HttpDate.parse?_ofSecondAs weekday before
    rwa [if_neg wrong] at read
  · refine delayAt_renderAs ?_ padded now
    rw [HttpDate.parse?_renderAs weekday years positive within days inDay]
    cases made : Date.ofParts? year month day with
    | none => rfl
    | some date =>
        obtain ⟨isDay, rfl⟩ := Date.isDay_of_ofParts? made
        exact absurd isDay missing
  · exact nanos_delayAt_of_isNumeral denotes padded now

/-- Half a second before the end of a leap day that ends a century, with white
space around the hint. The next day of the week, the leap day that the next
century lacks, and the numbers on both sides of the limit ask for what they
should. -/
theorem delayAt_hints_leapDay :
    let now : Int := 951868798500000000
    let second := 951868799
    let hint := "\u2003Tue, 29 Feb 2000 23:59:59 GMT\t"
    second < HttpDate.secondsBefore10000 ∧ -(nanosPerSecond * 2 ^ 63 : Int) ≤ now ∧
      Text.Padded (HttpDate.ofSecondAs (HttpDate.weekdayOf second) second) hint.toList ∧
      ((delayAt now hint).nanos : Int) = 500000000 ∧
      Weekday.wednesday ≠ HttpDate.weekdayOf second ∧
      delayAt now "Wed, 29 Feb 2000 23:59:59 GMT" = .zero ∧
      ¬ (Date.mk 2100 2 29).IsDay ∧ delayAt now "Mon, 29 Feb 2100 00:00:00 GMT" = .zero ∧
      (delayAt now "018446744073709551615").nanos = nanosPerSecond * (2 ^ 64 - 1) ∧
      (delayAt now "+18446744073709551616").nanos = 0 := by
  intro now second hint
  have clock : -(nanosPerSecond * 2 ^ 63 : Int) ≤ now := by decide
  have before : second < HttpDate.secondsBefore10000 := by decide
  have date : Date.afterEpoch (second / secondsPerDay) = ⟨2000, 2, 29⟩ :=
    Date.afterEpoch_of_dayNumber (by decide) (by decide)
  have time : second % secondsPerDay = 86399 := by decide
  have weekday : HttpDate.weekdayOf second = .tuesday := by
    rw [HttpDate.weekdayOf, ← Date.weekday_afterEpoch, date]
    decide
  have missing : ¬ (Date.mk 2100 2 29).IsDay := by decide
  have written : ∀ weekday, HttpDate.ofSecondAs weekday second =
      HttpDate.renderAs weekday ⟨⟨2000, 2, 29⟩, 86399⟩ := by
    intro weekday
    rw [HttpDate.ofSecondAs, date, time]
  have padded : Text.Padded (HttpDate.ofSecondAs (HttpDate.weekdayOf second) second)
      hint.toList := by
    rw [weekday, written]
    refine ⟨['\u2003'], ['\t'], ?_, List.forall_mem_singleton.mpr (by decide),
      List.forall_mem_singleton.mpr (by decide)⟩
    with_unfolding_all decide
  have wrong : Weekday.wednesday ≠ HttpDate.weekdayOf second := by
    rw [weekday]
    decide
  have itself : ∀ text : List Char, Text.Padded text text := by
    intro text
    exact ⟨[], [], (List.append_nil text).symm, nofun, nofun⟩
  have largest : Text.IsNumeral "018446744073709551615".toList (2 ^ 64 - 1) :=
    (Text.parse?_eq_some_iff.mp (by decide : Text.Numeral.parse? (2 ^ 64) _ = _)).1
  have larger : Text.IsNumeral "+18446744073709551616".toList (2 ^ 64) :=
    (Text.parse?_eq_some_iff.mp (by decide : Text.Numeral.parse? (2 ^ 65) _ = _)).1
  refine ⟨before, clock, padded, ?_, wrong, ?_, missing, ?_, ?_, ?_⟩
  · rw [(delayAt_hints now clock hint).1 second before padded]
    decide
  · refine (delayAt_hints now clock _).2.1 second before .wednesday wrong ?_
    rw [written]
    refine ⟨[], [], ?_, nofun, nofun⟩
    with_unfolding_all decide
  · refine (delayAt_hints now clock _).2.2.1 .monday 2100 2 29 0 (by decide) (by decide)
      (by decide) (by decide) (by decide) missing ⟨[], [], ?_, nofun, nofun⟩
    with_unfolding_all decide
  · exact (delayAt_hints now clock _).2.2.2 _ _ largest (itself _)
  · exact (delayAt_hints now clock _).2.2.2 _ _ larger (itself _)

end RetryAfter
end RemoteWrite
