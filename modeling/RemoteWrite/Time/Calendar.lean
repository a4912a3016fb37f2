import RemoteWrite.Natural

/-!
Contract: the Gregorian calendar, extended to all years from zero on.

Owns:
- leap years and the lengths of years and months;
- dates, and their numbers as days since the first day of year zero;
- the days of the week.

Does not own: times of day, or the text of dates.
-/

namespace RemoteWrite.Time

/-- Every fourth year has a leap day, but of the years that end a century only
every fourth one. -/
def isLeapYear (year : Nat) : Bool :=
  year % 4 = 0 && (year % 100 ≠ 0 || year % 400 = 0)

def monthLengths (year : Nat) : List Nat :=
  [31, if isLeapYear year then 29 else 28, 31, 30, 31, 30, 31, 31, 30, 31, 30, 31]

/-- A day. Months and days of a month count from one. -/
structure Date where
  year : Nat
  month : Nat
  day : Nat
deriving DecidableEq, Repr

inductive Weekday where
  | sunday
  | monday
  | tuesday
  | wednesday
  | thursday
  | friday
  | saturday
deriving DecidableEq, Repr

namespace Weekday

def all : List Weekday :=
  [sunday, monday, tuesday, wednesday, thursday, friday, saturday]

def abbreviation : Weekday → String
  | sunday => "Sun"
  | monday => "Mon"
  | tuesday => "Tue"
  | wednesday => "Wed"
  | thursday => "Thu"
  | friday => "Fri"
  | saturday => "Sat"

end Weekday

/-- The first three letters of the names of the months, in order. -/
def monthAbbreviations : List String :=
  ["Jan", "Feb", "Mar", "Apr", "May", "Jun", "Jul", "Aug", "Sep", "Oct", "Nov", "Dec"]

def daysBeforeYear (year : Nat) : Nat :=
  365 * year + (year + 3) / 4 - (year + 99) / 100 + (year + 399) / 400

namespace Date

/-- The date of a year, a month, and a day, if there is such a day. -/
def ofParts? (year month day : Nat) : Option Date :=
  match month with
  | 0 => none
  | index + 1 =>
    match (monthLengths year)[index]? with
    | none => none
    | some length => if 1 ≤ day ∧ day ≤ length then some ⟨year, month, day⟩ else none

def dayNumber (date : Date) : Nat :=
  daysBeforeYear date.year + ((monthLengths date.year).take (date.month - 1)).sum +
    (date.day - 1)

/-- The day of the week. Year zero starts with a Saturday. -/
def weekday (date : Date) : Weekday :=
  (Weekday.all[(date.dayNumber + 6) % 7]?).getD .saturday

end Date

/-- The day number of the first day of 1970, from which times count. -/
def epochDayNumber : Nat := 719528

def secondsPerDay : Nat := 86400

end RemoteWrite.Time
