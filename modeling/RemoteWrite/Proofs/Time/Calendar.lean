import Mathlib.Algebra.Order.BigOperators.Group.List
import Mathlib.Algebra.Order.Group.Nat
import RemoteWrite.Time.Calendar

/-!
Contract: the numbers of days count them.

Here the calendar is told the way it is kept: one day follows another, in the
month, in the year, and in the week.

Owns:
- the days that there are, and the day after a date or a weekday;
- the date and the weekday of so many days after the first of January 1970,
  which was a Thursday;
- that the number and the weekday of a date agree with this count;
- the days of the years that four digits can write.

Does not own: times of day, or the text of dates.
-/

namespace RemoteWrite.Time

/-! ## Days -/

/-- The number of days of a month, and none for a month that is not one of the
twelve. -/
def monthLength (year month : Nat) : Nat :=
  ((monthLengths year)[month - 1]?).getD 0

/-- There is such a day. -/
structure Date.IsDay (date : Date) : Prop where
  month_pos : 1 ≤ date.month
  day_pos : 1 ≤ date.day
  day_le : date.day ≤ monthLength date.year date.month

instance (date : Date) : Decidable date.IsDay :=
  decidable_of_iff (1 ≤ date.month ∧ 1 ≤ date.day ∧ date.day ≤ monthLength date.year date.month)
    ⟨fun ⟨month, first, last⟩ => ⟨month, first, last⟩,
      fun ⟨month, first, last⟩ => ⟨month, first, last⟩⟩

/-- The day after a date. -/
def Date.next (date : Date) : Date :=
  if date.day < monthLength date.year date.month then { date with day := date.day + 1 }
  else if date.month < 12 then ⟨date.year, date.month + 1, 1⟩
  else ⟨date.year + 1, 1, 1⟩

def Weekday.next : Weekday → Weekday
  | sunday => monday
  | monday => tuesday
  | tuesday => wednesday
  | wednesday => thursday
  | thursday => friday
  | friday => saturday
  | saturday => sunday

/-- The date so many days after the first of January 1970. -/
def Date.afterEpoch : Nat → Date
  | 0 => ⟨1970, 1, 1⟩
  | days + 1 => (afterEpoch days).next

/-- The weekday so many days after the first of January 1970. -/
def Weekday.afterEpoch : Nat → Weekday
  | 0 => thursday
  | days + 1 => (afterEpoch days).next

theorem length_monthLengths (year : Nat) : (monthLengths year).length = 12 := rfl

theorem monthLength_eq (year : Nat) {month : Nat} (positive : 1 ≤ month) (within : month ≤ 12) :
    (monthLengths year)[month - 1]? = some (monthLength year month) := by
  have inRange : month - 1 < (monthLengths year).length := by
    rw [length_monthLengths]
    omega
  rw [monthLength, List.getElem?_eq_getElem inRange, Option.getD_some]

theorem monthLength_bounds (year : Nat) {month : Nat} (positive : 1 ≤ month) (within : month ≤ 12) :
    1 ≤ monthLength year month ∧ monthLength year month ≤ 31 := by
  have all : ∀ length ∈ monthLengths year, 1 ≤ length ∧ length ≤ 31 := by
    rw [monthLengths]
    by_cases leap : isLeapYear year
    · rw [if_pos leap]
      decide
    · rw [if_neg leap]
      decide
  exact all _ (List.mem_of_getElem? (monthLength_eq year positive within))

theorem Date.IsDay.month_le {date : Date} (isDay : date.IsDay) : date.month ≤ 12 := by
  refine Nat.le_of_not_lt fun beyond => ?_
  have outside : (monthLengths date.year)[date.month - 1]? = none :=
    List.getElem?_eq_none (by rw [length_monthLengths]; omega)
  have first := isDay.day_pos
  have last := isDay.day_le
  rw [monthLength, outside, Option.getD_none] at last
  omega

theorem Date.IsDay.day_le_31 {date : Date} (isDay : date.IsDay) : date.day ≤ 31 :=
  Nat.le_trans isDay.day_le (monthLength_bounds date.year isDay.month_pos isDay.month_le).2

/-- Exactly the days that there are can be made from their parts. -/
theorem Date.ofParts?_of_isDay {date : Date} (isDay : date.IsDay) :
    ofParts? date.year date.month date.day = some date := by
  have found := monthLength_eq date.year isDay.month_pos isDay.month_le
  have inMonth := And.intro isDay.day_pos isDay.day_le
  obtain ⟨year, month, day⟩ := date
  cases month with
  | zero => cases isDay.month_pos
  | succ index =>
      rw [Nat.add_sub_cancel] at found
      simp only [ofParts?, found, if_pos inMonth]

theorem Date.isDay_of_ofParts? {year month day : Nat} {date : Date}
    (made : ofParts? year month day = some date) : date.IsDay ∧ date = ⟨year, month, day⟩ := by
  cases month with
  | zero => cases made
  | succ index =>
      simp only [ofParts?] at made
      cases found : (monthLengths year)[index]? with
      | none =>
          rw [found] at made
          cases made
      | some length =>
          simp only [found, Option.ite_none_right_eq_some, Option.some.injEq] at made
          obtain ⟨⟨first, last⟩, rfl⟩ := made
          refine ⟨⟨Nat.le_add_left 1 index, first, ?_⟩, rfl⟩
          rw [monthLength, Nat.add_sub_cancel, found]
          exact last

/-! ## One day later -/

/-- Of the years that have every fourth leap day, those that end a century have
none, but for every fourth of them. -/
theorem sum_monthLengths (year : Nat) :
    (monthLengths year).sum + (if year % 100 = 0 then 1 else 0) =
      365 + (if year % 4 = 0 then 1 else 0) + if year % 400 = 0 then 1 else 0 := by
  have length : (monthLengths year).sum = if isLeapYear year then 366 else 365 := by
    rw [monthLengths]
    cases isLeapYear year <;> rfl
  rw [length, isLeapYear]
  by_cases four : year % 4 = 0
  · by_cases century : year % 100 = 0
    · by_cases cycle : year % 400 = 0 <;> simp [four, century, cycle]
    · have cycle : year % 400 ≠ 0 := by omega
      simp [four, century, cycle]
  · have century : year % 100 ≠ 0 := by omega
    have cycle : year % 400 ≠ 0 := by omega
    simp [four, century, cycle]

/-- A year is as long as its months. -/
theorem daysBeforeYear_succ (year : Nat) :
    daysBeforeYear (year + 1) = daysBeforeYear year + (monthLengths year).sum := by
  -- A year that is a multiple begins one more period.
  have fours : (year + 1 + 3) / 4 = (year + 3) / 4 + if year % 4 = 0 then 1 else 0 := by
    split <;> omega
  have centuries : (year + 1 + 99) / 100 = (year + 99) / 100 + if year % 100 = 0 then 1 else 0 := by
    split <;> omega
  have cycles : (year + 1 + 399) / 400 = (year + 399) / 400 + if year % 400 = 0 then 1 else 0 := by
    split <;> omega
  have fewer : (year + 99) / 100 ≤ 365 * year + (year + 3) / 4 := by omega
  have months := sum_monthLengths year
  rw [daysBeforeYear, daysBeforeYear, fours, centuries, cycles]
  omega

/-- A month starts where the one before it ends. -/
theorem sum_take_month (year : Nat) {month : Nat} (positive : 1 ≤ month) (within : month ≤ 12) :
    ((monthLengths year).take month).sum =
      ((monthLengths year).take (month - 1)).sum + monthLength year month := by
  have parts : (monthLengths year).take (month - 1 + 1) = _ := List.take_add_one
  rw [monthLength_eq year positive within, Nat.sub_add_cancel positive] at parts
  rw [parts, List.sum_append, Option.toList_some, List.sum_singleton]

theorem Date.dayNumber_next {date : Date} (isDay : date.IsDay) :
    date.next.dayNumber = date.dayNumber + 1 := by
  obtain ⟨year, month, day⟩ := date
  have positive : 1 ≤ month := isDay.month_pos
  have within : month ≤ 12 := isDay.month_le
  have first : 1 ≤ day := isDay.day_pos
  have last : day ≤ monthLength year month := isDay.day_le
  have monthEnd := sum_take_month year positive within
  rw [next]
  by_cases inMonth : day < monthLength year month
  · rw [if_pos inMonth]
    show daysBeforeYear year + ((monthLengths year).take (month - 1)).sum + (day + 1 - 1) =
      daysBeforeYear year + ((monthLengths year).take (month - 1)).sum + (day - 1) + 1
    omega
  · rw [if_neg inMonth]
    by_cases inYear : month < 12
    · rw [if_pos inYear]
      show daysBeforeYear year + ((monthLengths year).take (month + 1 - 1)).sum + 0 =
        daysBeforeYear year + ((monthLengths year).take (month - 1)).sum + (day - 1) + 1
      rw [Nat.add_sub_cancel]
      omega
    · rw [if_neg inYear]
      have whole : (monthLengths year).take month = monthLengths year :=
        List.take_of_length_le (by rw [length_monthLengths]; omega)
      have yearEnd := daysBeforeYear_succ year
      rw [whole] at monthEnd
      show daysBeforeYear (year + 1) + 0 + 0 =
        daysBeforeYear year + ((monthLengths year).take (month - 1)).sum + (day - 1) + 1
      omega

theorem Date.IsDay.next {date : Date} (isDay : date.IsDay) : date.next.IsDay := by
  have positive := isDay.month_pos
  have within := isDay.month_le
  rw [Date.next]
  split
  next inMonth => exact ⟨positive, Nat.le_add_left 1 date.day, inMonth⟩
  next =>
    split
    next inYear =>
      have later : 1 ≤ date.month + 1 := Nat.le_add_left 1 date.month
      exact ⟨later, Nat.le_refl 1, (monthLength_bounds date.year later inYear).1⟩
    next =>
      have january := monthLength_bounds (date.year + 1) (Nat.le_refl 1) (Nat.le_add_left 1 11)
      exact ⟨Nat.le_refl 1, Nat.le_refl 1, january.1⟩

theorem Date.weekday_next {date : Date} (isDay : date.IsDay) :
    date.next.weekday = date.weekday.next := by
  have cycle : ∀ place < 7, (Weekday.all[(place + 1) % 7]?).getD .saturday =
      ((Weekday.all[place]?).getD .saturday).next := by decide
  have place := cycle ((date.dayNumber + 6) % 7) (Nat.mod_lt _ (by decide))
  have later : (date.dayNumber + 1 + 6) % 7 = ((date.dayNumber + 6) % 7 + 1) % 7 := by omega
  rw [weekday, dayNumber_next isDay, later, place, weekday]

/-! ## The order of days -/

theorem daysBeforeYear_mono {year later : Nat} (after : year ≤ later) :
    daysBeforeYear year ≤ daysBeforeYear later := by
  induction after with
  | refl => exact Nat.le_refl _
  | step _ inductionHypothesis =>
      rw [daysBeforeYear_succ]
      exact Nat.le_add_right_of_le inductionHypothesis

/-- A day comes before the end of its month. -/
theorem Date.IsDay.dayNumber_lt {date : Date} (isDay : date.IsDay) :
    date.dayNumber < daysBeforeYear date.year + ((monthLengths date.year).take date.month).sum := by
  have first := isDay.day_pos
  have last := isDay.day_le
  rw [dayNumber, sum_take_month date.year isDay.month_pos isDay.month_le]
  omega

theorem Date.dayNumber_lt_of_year {date other : Date} (isDay : date.IsDay)
    (earlier : date.year < other.year) : date.dayNumber < other.dayNumber := by
  have inYear : ((monthLengths date.year).take date.month).sum ≤ (monthLengths date.year).sum :=
    List.monotone_sum_take (monthLengths date.year) isDay.month_le
  calc date.dayNumber
      < daysBeforeYear date.year + ((monthLengths date.year).take date.month).sum :=
        isDay.dayNumber_lt
    _ ≤ daysBeforeYear date.year + (monthLengths date.year).sum := Nat.add_le_add_left inYear _
    _ = daysBeforeYear (date.year + 1) := (daysBeforeYear_succ date.year).symm
    _ ≤ daysBeforeYear other.year := daysBeforeYear_mono earlier
    _ ≤ other.dayNumber := by
        rw [dayNumber, Nat.add_assoc]
        exact Nat.le_add_right _ _

theorem Date.dayNumber_lt_of_month {date other : Date} (isDay : date.IsDay)
    (year : date.year = other.year) (earlier : date.month < other.month) :
    date.dayNumber < other.dayNumber := by
  have inMonth := isDay.dayNumber_lt
  have months := (List.monotone_sum_take (monthLengths date.year)) (Nat.le_sub_one_of_lt earlier)
  refine Nat.lt_of_lt_of_le inMonth ?_
  rw [dayNumber, ← year, Nat.add_assoc]
  exact Nat.add_le_add_left (Nat.le_add_right_of_le months) _

/-- No two days have the same number. -/
theorem Date.eq_of_dayNumber_eq {date other : Date} (isDay : date.IsDay) (isOther : other.IsDay)
    (same : date.dayNumber = other.dayNumber) : date = other := by
  have year : date.year = other.year := by
    rcases Nat.lt_trichotomy date.year other.year with earlier | year | later
    · exact absurd same (Nat.ne_of_lt (dayNumber_lt_of_year isDay earlier))
    · exact year
    · exact absurd same.symm (Nat.ne_of_lt (dayNumber_lt_of_year isOther later))
  have month : date.month = other.month := by
    rcases Nat.lt_trichotomy date.month other.month with earlier | month | later
    · exact absurd same (Nat.ne_of_lt (dayNumber_lt_of_month isDay year earlier))
    · exact month
    · exact absurd same.symm (Nat.ne_of_lt (dayNumber_lt_of_month isOther year.symm later))
  obtain ⟨_, _, day⟩ := date
  obtain ⟨_, _, otherDay⟩ := other
  cases year
  cases month
  have first : 1 ≤ day := isDay.day_pos
  have otherFirst : 1 ≤ otherDay := isOther.day_pos
  have days : day - 1 = otherDay - 1 := Nat.add_left_cancel same
  congr 1
  omega

/-! ## Days since 1970 -/

theorem Date.isDay_afterEpoch (days : Nat) : (afterEpoch days).IsDay := by
  induction days with
  | zero => exact ⟨by decide, by decide, by decide⟩
  | succ days inductionHypothesis => exact inductionHypothesis.next

theorem Date.dayNumber_afterEpoch (days : Nat) :
    (afterEpoch days).dayNumber = epochDayNumber + days := by
  induction days with
  | zero => rfl
  | succ days inductionHypothesis =>
      rw [afterEpoch, dayNumber_next (isDay_afterEpoch days), inductionHypothesis, Nat.add_assoc]

theorem Date.weekday_afterEpoch (days : Nat) :
    (afterEpoch days).weekday = Weekday.afterEpoch days := by
  induction days with
  | zero => decide
  | succ days inductionHypothesis =>
      rw [afterEpoch, weekday_next (isDay_afterEpoch days), inductionHypothesis,
        Weekday.afterEpoch]

/-- Every day from 1970 on comes after as many days as its number says. -/
theorem Date.afterEpoch_of_dayNumber {date : Date} (isDay : date.IsDay) {days : Nat}
    (number : date.dayNumber = epochDayNumber + days) : afterEpoch days = date :=
  eq_of_dayNumber_eq (isDay_afterEpoch days) isDay
    ((dayNumber_afterEpoch days).trans number.symm)

/-- The number of days from 1970 to the end of the year 9999. -/
def daysBefore10000 : Nat := 2932897

/-- All these days are in years that four digits can write. -/
theorem Date.year_afterEpoch_lt {days : Nat} (before : days < daysBefore10000) :
    (afterEpoch days).year < 10000 := by
  have number := dayNumber_afterEpoch days
  rw [dayNumber, daysBeforeYear, epochDayNumber] at number
  rw [daysBefore10000] at before
  omega

end RemoteWrite.Time
