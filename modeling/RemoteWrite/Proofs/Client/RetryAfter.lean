import RemoteWrite.Client.RetryAfter
import RemoteWrite.Proofs.Text.Numeral

/-!
Contract: how long a hint can be.

A hint is a numeral or a date. A numeral may ask for any span, but no date is
very far away.

Owns:
- when two spans have no sum;
- the bounds of dates that can be read;
- that no numeral is a date;
- the span of a numeral, and the bound of all other spans.

Does not own: the header that carries the hint, or what is added to it.
-/

namespace RemoteWrite

namespace Time

/-! ## Spans -/

namespace Duration

theorem nanos_getD_ofNanos?_le (nanos : Nat) : ((ofNanos? nanos).getD zero).nanos ≤ nanos := by
  rw [ofNanos?]
  by_cases bound : nanos < nanosPerSecond * 2 ^ 64
  · rw [dif_pos bound]
    exact Nat.le_refl nanos
  · rw [dif_neg bound]
    exact Nat.zero_le nanos

/-- Two spans have no sum if it is longer than the longest span. -/
theorem add?_eq_none_iff (left right : Duration) :
    left.add? right = none ↔ nanosPerSecond * 2 ^ 64 ≤ left.nanos + right.nanos := by
  rw [add?, ofNanos?]
  by_cases bound : left.nanos + right.nanos < nanosPerSecond * 2 ^ 64
  · rw [dif_pos bound]
    exact ⟨nofun, fun large => absurd bound (Nat.not_lt_of_le large)⟩
  · rw [dif_neg bound]
    exact ⟨fun _ => Nat.le_of_not_lt bound, fun _ => rfl⟩

theorem nanos_of_add?_eq_some {left right sum : Duration} (fits : left.add? right = some sum) :
    sum.nanos = left.nanos + right.nanos := by
  rw [add?, ofNanos?] at fits
  split at fits
  next =>
    cases fits
    rfl
  next => cases fits

end Duration

/-! ## Days -/

theorem sum_take_add_le {lengths : List Nat} {index length : Nat}
    (found : lengths[index]? = some length) : (lengths.take index).sum + length ≤ lengths.sum := by
  obtain ⟨inRange, rfl⟩ := List.getElem?_eq_some_iff.mp found
  have parts := congrArg List.sum (List.take_append_drop index lengths)
  rw [List.sum_append, List.drop_eq_getElem_cons inRange, List.sum_cons] at parts
  omega

theorem sum_monthLengths_le (year : Nat) : (monthLengths year).sum ≤ 366 := by
  rw [monthLengths]
  by_cases leap : isLeapYear year
  · rw [if_pos leap]
    decide
  · rw [if_neg leap]
    decide

/-- Counting 366 days for every year leaves no date out. -/
theorem Date.dayNumber_lt {year month day : Nat} {date : Date}
    (made : ofParts? year month day = some date) : date.dayNumber < 366 * (year + 1) := by
  cases month with
  | zero => cases made
  | succ index =>
      simp only [ofParts?] at made
      cases found : (monthLengths year)[index]? with
      | none =>
          rw [found] at made
          cases made
      | some length =>
          simp only [found] at made
          by_cases inMonth : 1 ≤ day ∧ day ≤ length
          · rw [if_pos inMonth] at made
            cases made
            have before := sum_take_add_le found
            have all := sum_monthLengths_le year
            show daysBeforeYear year + ((monthLengths year).take index).sum + (day - 1) < _
            rw [daysBeforeYear]
            omega
          · rw [if_neg inMonth] at made
            cases made

/-! ## Dates -/

namespace HttpDate

theorem readNumber_lt {width n : Nat} {text rest : List Char}
    (read : readNumber width text = some (n, rest)) : n < 10 ^ width := by
  rw [readNumber] at read
  obtain ⟨value, known, same⟩ := Option.map_eq_some_iff.mp read
  cases same
  refine Nat.lt_of_lt_of_le (Text.Numeral.value?_lt known) (Nat.pow_le_pow_right (by decide) ?_)
  exact Nat.le_trans (List.takeWhile_prefix _).length_le (List.length_take_le _ _)

theorem readUpTo_le {largest n : Nat} {text rest : List Char}
    (read : readUpTo largest text = some (n, rest)) : n ≤ largest := by
  rw [readUpTo, Option.filter_eq_some_iff] at read
  exact of_decide_eq_true read.2

theorem readYear_le {year : Nat} {text rest : List Char}
    (read : readYear text = some (year, rest)) : year ≤ lastYear := by
  rw [readYear] at read
  split at read
  next =>
    obtain ⟨value, known, same⟩ := Option.map_eq_some_iff.mp read
    cases same
    exact of_decide_eq_true (Option.filter_eq_some_iff.mp known).2
  next => exact Nat.le_trans (Nat.le_of_lt (readNumber_lt read)) (by decide)

theorem dayNumber_readDate {text rest : List Char} {date : Date}
    (read : readDate text = some (date, rest)) : date.dayNumber < 366 * (lastYear + 1) := by
  simp only [readDate, Option.bind_eq_bind, Option.bind_eq_some_iff, Prod.exists] at read
  obtain ⟨day, _, _, month, _, _, year, _, inYears, _, made, same⟩ := read
  cases same
  have before := Date.dayNumber_lt made
  have years := readYear_le inYears
  omega

theorem readTime_le {text rest : List Char} {secondOfDay : Nat}
    (read : readTime text = some (secondOfDay, rest)) : secondOfDay ≤ secondsPerDay := by
  simp only [readTime, Option.bind_eq_bind, Option.bind_eq_some_iff, Prod.exists] at read
  obtain ⟨hour, _, hours, _, _, minute, _, minutes, _, _, second, _, seconds, same⟩ := read
  cases same
  have hours := readUpTo_le hours
  have minutes := readUpTo_le minutes
  have seconds := readUpTo_le seconds
  rw [secondsPerDay]
  omega

/-- The last year ends less than `2 ^ 43` seconds after the start of year zero. -/
theorem secondNumber_parse?_lt {text : List Char} {moment : Moment}
    (parsed : parse? text = some moment) : moment.secondNumber < 2 ^ 43 := by
  simp only [parse?, Option.bind_eq_bind, Option.bind_eq_some_iff, Prod.exists] at parsed
  obtain ⟨weekday, _, _, _, _, date, _, dated, secondOfDay, _, timed, _, _, made⟩ := parsed
  split at made
  next =>
    cases made
    have days := dayNumber_readDate dated
    have seconds := readTime_le timed
    show secondsPerDay * date.dayNumber + secondOfDay < 2 ^ 43
    rw [secondsPerDay] at seconds ⊢
    rw [lastYear] at days
    omega
  next => cases made

/-- A date starts with a weekday, so with a letter, and letters come after the
digits. -/
theorem parse?_eq_none_of_head {c : Char} {rest : List Char} (low : c.toNat < 58) :
    parse? (c :: rest) = none := by
  have notUpper : ¬ (c.val ≥ 'A'.val ∧ c.val ≤ 'Z'.val) :=
    fun upper => absurd upper.1 (Nat.not_le_of_lt (Nat.lt_trans low (by decide)))
  have unchanged : c.toLower = c := dif_neg notUpper
  have letters : ∀ name ∈ Weekday.all.map Weekday.abbreviation,
      (name.toList.map Char.toLower).head?.all (fun letter => 58 ≤ letter.toNat) = true := by
    decide
  have unnamed : readName (Weekday.all.map Weekday.abbreviation) (c :: rest) = none := by
    rw [readName, Option.map_eq_none_iff, List.findIdx?_eq_none_iff]
    intro name member
    refine decide_eq_false fun same => ?_
    have letter := letters name member
    rw [same, List.take_succ_cons, List.map_cons, unchanged, List.head?_cons] at letter
    exact absurd (of_decide_eq_true letter) (Nat.not_le_of_lt low)
  rw [parse?, unnamed]
  rfl

end HttpDate
end Time

/-! ## Hints -/

namespace RetryAfter

/-- The seconds of a hint that is a numeral below `2 ^ 64`. -/
def seconds? (text : String) : Option UInt64 :=
  Text.Numeral.parseUInt64? (Text.trim text.toList)

theorem delay_of_seconds? {text : String} {seconds : UInt64}
    (numeral : seconds? text = some seconds) (now : Time.Duration) :
    delay now text = .ofSeconds seconds := by
  obtain ⟨n, read, _⟩ := Option.map_eq_some_iff.mp numeral
  obtain ⟨c, rest, starts, low⟩ := Text.Numeral.toNat_head_parse? read
  have noDate : Time.HttpDate.parse? (Text.trim text.toList) = none := by
    rw [starts, Time.HttpDate.parse?_eq_none_of_head low]
  rw [seconds?] at numeral
  simp only [delay, delayAt, noDate, numeral]

/-- Every other hint stands for less than `2 ^ 43` seconds. -/
theorem nanos_delay_lt {text : String} (other : seconds? text = none) (now : Time.Duration) :
    (delay now text).nanos < Time.nanosPerSecond * 2 ^ 43 := by
  rw [seconds?] at other
  rw [delay, delayAt]
  cases parsed : Time.HttpDate.parse? (Text.trim text.toList) with
  | none =>
      simp only [other]
      decide
  | some moment =>
      have bound := Time.HttpDate.secondNumber_parse?_lt parsed
      refine Nat.lt_of_le_of_lt (Time.Duration.nanos_getD_ofNanos?_le _) ?_
      rw [Time.nanosPerSecond, Time.secondsPerDay]
      omega

end RetryAfter
end RemoteWrite
