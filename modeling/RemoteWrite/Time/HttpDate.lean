import RemoteWrite.Text.Numeral
import RemoteWrite.Text.WhiteSpace
import RemoteWrite.Time.Calendar

/-!
Contract: dates in HTTP headers, such as `Wed, 21 Oct 2015 07:28:00 GMT`.

The reading is lenient. Any white space will do between the parts, also none;
numbers may be preceded by white space and shorter than usual; names may be in
any case. The weekday must be that of the date. A second 60 counts as one
more than second 59.

Owns: the text of a moment, and the reading of it.

Does not own: other date formats, or what the dates are for.
-/

namespace RemoteWrite.Time

/-- A moment: a date and the seconds since its start. -/
structure Moment where
  date : Date
  secondOfDay : Nat
deriving DecidableEq, Repr

namespace Moment

/-- The seconds from the first day of year zero to a moment. -/
def secondNumber (moment : Moment) : Nat :=
  secondsPerDay * moment.date.dayNumber + moment.secondOfDay

end Moment

namespace HttpDate

/-! ## Writing -/

/-- A number in at least so many digits. -/
def padded (width n : Nat) : List Char :=
  let digits := Text.Numeral.digits n
  List.replicate (width - digits.length) '0' ++ digits

/-- The text of a moment with any day of the week. -/
def renderAs (weekday : Weekday) (moment : Moment) : List Char :=
  weekday.abbreviation.toList ++ [',', ' '] ++ padded 2 moment.date.day ++ [' '] ++
    ((monthAbbreviations[moment.date.month - 1]?).getD "").toList ++ [' '] ++
    padded 4 moment.date.year ++ [' '] ++
    padded 2 (moment.secondOfDay / 3600) ++ [':'] ++
    padded 2 (moment.secondOfDay / 60 % 60) ++ [':'] ++
    padded 2 (moment.secondOfDay % 60) ++ [' ', 'G', 'M', 'T']

def render (moment : Moment) : List Char :=
  renderAs moment.date.weekday moment

/-! ## Reading -/

def skipSpace (text : List Char) : List Char := text.dropWhile Text.isWhiteSpace

def expect (expected : List Char) (text : List Char) : Option (List Char) :=
  if expected.isPrefixOf text then some (text.drop expected.length) else none

/-- Read one of several names of three letters in any case; the result is its
place among them. -/
def readName (names : List String) (text : List Char) : Option (Nat × List Char) :=
  let name := (text.take 3).map Char.toLower
  (names.findIdx? fun candidate => candidate.toList.map Char.toLower = name).map
    fun index => (index, text.drop 3)

/-- Read a number of one to `width` digits after any white space. -/
def readNumber (width : Nat) (text : List Char) : Option (Nat × List Char) :=
  let text := skipSpace text
  let digits := (text.take width).takeWhile Char.isDigit
  (Text.Numeral.value? digits).map fun n => (n, text.drop digits.length)

def readUpTo (largest : Nat) (text : List Char) : Option (Nat × List Char) :=
  (readNumber 2 text).filter fun result => result.1 ≤ largest

/-- The last year that dates can have. -/
def lastYear : Nat := 262142

/-- Read a year of up to four digits, or of any number of digits after a plus
sign. Years before year zero are not read; they are past in any case. -/
def readYear (text : List Char) : Option (Nat × List Char) :=
  let text := skipSpace text
  match text with
  | '+' :: rest =>
    let digits := rest.takeWhile Char.isDigit
    ((Text.Numeral.value? digits).filter (· ≤ lastYear)).map
      fun year => (year, rest.drop digits.length)
  | _ => readNumber 4 text

/-- Read a date without the weekday in front. -/
def readDate (text : List Char) : Option (Date × List Char) := do
  let (day, text) ← readNumber 2 text
  let (month, text) ← readName monthAbbreviations (skipSpace text)
  let (year, text) ← readYear (skipSpace text)
  let date ← Date.ofParts? year (month + 1) day
  pure (date, text)

def readTime (text : List Char) : Option (Nat × List Char) := do
  let (hour, text) ← readUpTo 23 text
  let text ← expect [':'] text
  let (minute, text) ← readUpTo 59 text
  let text ← expect [':'] text
  let (second, text) ← readUpTo 60 text
  pure (3600 * hour + 60 * minute + second, text)

def parse? (text : List Char) : Option Moment := do
  let (weekday, text) ← readName (Weekday.all.map Weekday.abbreviation) text
  let text ← expect [','] text
  let (date, text) ← readDate (skipSpace text)
  let (secondOfDay, text) ← readTime (skipSpace text)
  let text ← expect ['G', 'M', 'T'] (skipSpace text)
  if text.isEmpty ∧ Weekday.all[weekday]? = some date.weekday then
    pure ⟨date, secondOfDay⟩
  else none

end HttpDate
end RemoteWrite.Time
