import Mathlib.Data.List.TakeWhile
import RemoteWrite.Proofs.Text.Numeral
import RemoteWrite.Proofs.Time.Calendar
import RemoteWrite.Time.HttpDate

/-!
Contract: dates are read as they are written.

Owns:
- numbers with zeros in front, names, and marks in front of any other text;
- the reading of a written date: the date if there is such a day and the
  weekday is its own, and nothing otherwise.

Does not own: dates that are written in another way.
-/

namespace RemoteWrite.Time.HttpDate

open Text.Numeral

/-! ## Numbers -/

theorem length_digits_le {width n : Nat} (positive : 0 < width) (fits : n < 10 ^ width) :
    (digits n).length ≤ width := by
  induction n using digits.induct generalizing width with
  | case1 n small =>
      rw [digits, if_pos small]
      exact positive
  | case2 n large inductionHypothesis =>
      rw [digits, if_neg large, List.length_append, List.length_singleton]
      cases width with
      | zero => cases positive
      | succ width =>
          have shorter : n / 10 < 10 ^ width := Nat.div_lt_of_lt_mul (by rwa [Nat.pow_succ'] at fits)
          have more : 0 < width := by
            refine Nat.pos_of_ne_zero fun none => ?_
            rw [none, Nat.pow_zero] at shorter
            omega
          exact Nat.succ_le_succ (inductionHypothesis more shorter)

theorem length_padded {width n : Nat} (positive : 0 < width) (fits : n < 10 ^ width) :
    (padded width n).length = width := by
  have short := length_digits_le positive fits
  rw [padded, List.length_append, List.length_replicate]
  omega

theorem padded_ne_nil (width n : Nat) : padded width n ≠ [] :=
  List.append_ne_nil_of_right_ne_nil _ (digits_ne_nil n)

theorem mem_padded {width n : Nat} : ∀ c ∈ padded width n, 48 ≤ c.toNat ∧ c.toNat ≤ 57 := by
  intro c member
  rw [padded, List.mem_append] at member
  rcases member with zero | digit
  · rw [List.eq_of_mem_replicate zero]
    decide
  · exact mem_digits c digit

/-- Zeros in front do not change a number. -/
theorem valueFrom_padded (width n : Nat) : valueFrom 0 (padded width n) = some n := by
  have zeros : ∀ count : Nat, valueFrom 0 (List.replicate count '0') = some 0 := by
    intro count
    induction count with
    | zero => rfl
    | succ count inductionHypothesis =>
        rw [List.replicate_succ, valueFrom]
        exact inductionHypothesis
  rw [padded, valueFrom_append, zeros, Option.bind_some]
  exact valueFrom_digits n

theorem value?_padded (width n : Nat) : value? (padded width n) = some n := by
  rw [value?]
  · exact valueFrom_padded width n
  · exact padded_ne_nil width n

/-! ## Parts -/

theorem skipSpace_space (rest : List Char) : skipSpace (' ' :: rest) = skipSpace rest := rfl

theorem skipSpace_append {text : List Char} (nonempty : text ≠ []) (solid : Text.Solid text)
    (rest : List Char) : skipSpace (text ++ rest) = text ++ rest := by
  cases text with
  | nil => exact absurd rfl nonempty
  | cons c others =>
      rw [List.cons_append, skipSpace, List.dropWhile_cons, solid c List.mem_cons_self]
      rfl

theorem skipSpace_padded (width n : Nat) (rest : List Char) :
    skipSpace (padded width n ++ rest) = padded width n ++ rest :=
  skipSpace_append (padded_ne_nil width n)
    (fun c member => isWhiteSpace_of_digit (mem_padded c member)) rest

theorem isDigit_of_decimal {c : Char} (decimal : 48 ≤ c.toNat ∧ c.toNat ≤ 57) :
    c.isDigit = true := by
  rw [Char.isDigit, Bool.and_eq_true, decide_eq_true_eq, decide_eq_true_eq]
  exact ⟨UInt32.le_iff_toNat_le.mpr decimal.1, UInt32.le_iff_toNat_le.mpr decimal.2⟩

/-- A number is read in front of any text if it has all the digits that it may
have. -/
theorem readNumber_padded {width n : Nat} (positive : 0 < width) (fits : n < 10 ^ width)
    (rest : List Char) : readNumber width (padded width n ++ rest) = some (n, rest) := by
  have length := length_padded positive fits
  have front : (padded width n ++ rest).take width = padded width n := List.take_left' length
  have digits : (padded width n).takeWhile Char.isDigit = padded width n :=
    List.takeWhile_eq_self_iff.mpr fun c member => isDigit_of_decimal (mem_padded c member)
  simp only [readNumber, skipSpace_padded, front, digits, value?_padded, Option.map_some, List.drop_left]

theorem readUpTo_padded {largest n : Nat} (fits : n ≤ largest) (small : largest < 100)
    (rest : List Char) : readUpTo largest (padded 2 n ++ rest) = some (n, rest) := by
  rw [readUpTo, readNumber_padded (by decide) (by omega), Option.filter_some, decide_eq_true fits]
  rfl

theorem expect_append (expected rest : List Char) :
    expect expected (expected ++ rest) = some rest := by
  rw [expect, if_pos (List.isPrefixOf_iff_prefix.mpr (List.prefix_append _ _)), List.drop_left]

/-- A name is read as the first one that is the same in small letters. -/
theorem readName_append {names : List String} {name : List Char} {index : Nat}
    (short : name.length = 3)
    (found : (names.findIdx? fun candidate =>
      candidate.toList.map Char.toLower = name.map Char.toLower) = some index)
    (rest : List Char) : readName names (name ++ rest) = some (index, rest) := by
  have front : (name ++ rest).take 3 = name := List.take_left' short
  have behind : (name ++ rest).drop 3 = rest := List.drop_left' short
  simp only [readName, front, behind, found, Option.map_some]

theorem readName_month {month : Nat} (positive : 1 ≤ month) (within : month ≤ 12)
    (rest : List Char) :
    readName monthAbbreviations (((monthAbbreviations[month - 1]?).getD "").toList ++ rest) =
      some (month - 1, rest) := by
  have names : ∀ index < 12,
      let name := ((monthAbbreviations[index]?).getD "").toList
      name.length = 3 ∧ (monthAbbreviations.findIdx? fun candidate =>
        candidate.toList.map Char.toLower = name.map Char.toLower) = some index := by decide
  obtain ⟨short, found⟩ := names (month - 1) (by omega)
  exact readName_append short found rest

/-- The weekdays come in the order of their list. -/
theorem readName_weekday (weekday : Weekday) (rest : List Char) :
    ∃ index, readName (Weekday.all.map Weekday.abbreviation)
        (weekday.abbreviation.toList ++ rest) = some (index, rest) ∧
      Weekday.all[index]? = some weekday := by
  cases weekday with
  | sunday => exact ⟨0, readName_append rfl (by decide) rest, rfl⟩
  | monday => exact ⟨1, readName_append rfl (by decide) rest, rfl⟩
  | tuesday => exact ⟨2, readName_append rfl (by decide) rest, rfl⟩
  | wednesday => exact ⟨3, readName_append rfl (by decide) rest, rfl⟩
  | thursday => exact ⟨4, readName_append rfl (by decide) rest, rfl⟩
  | friday => exact ⟨5, readName_append rfl (by decide) rest, rfl⟩
  | saturday => exact ⟨6, readName_append rfl (by decide) rest, rfl⟩

/-- A year of four digits has no sign. -/
theorem readYear_padded {year : Nat} (fits : year < 10 ^ 4) (rest : List Char) :
    readYear (padded 4 year ++ rest) = some (year, rest) := by
  rw [readYear, skipSpace_padded]
  split
  next others plus =>
    obtain ⟨c, digits, written⟩ := List.exists_cons_of_ne_nil (padded_ne_nil 4 year)
    have decimal := mem_padded c (written ▸ List.mem_cons_self)
    rw [written, List.cons_append] at plus
    rw [(List.cons.inj plus).1] at decimal
    exact absurd decimal.1 (by decide)
  next => exact readNumber_padded (by decide) fits rest

/-! ## Dates and times -/

/-- A date without its weekday, in numbers but for the month. -/
def dateText (date : Date) : List Char :=
  padded 2 date.day ++ ' ' :: (((monthAbbreviations[date.month - 1]?).getD "").toList ++
    ' ' :: padded 4 date.year)

/-- A time of day in hours, minutes, and seconds. -/
def timeText (second : Nat) : List Char :=
  padded 2 (second / 3600) ++ ':' :: (padded 2 (second / 60 % 60) ++
    ':' :: padded 2 (second % 60))

theorem renderAs_eq (weekday : Weekday) (moment : Moment) :
    renderAs weekday moment = weekday.abbreviation.toList ++ ([','] ++
      ' ' :: (dateText moment.date ++ ' ' :: (timeText moment.secondOfDay ++
        ' ' :: ['G', 'M', 'T']))) := by
  simp only [renderAs, dateText, timeText, List.append_assoc, List.cons_append, List.nil_append]

theorem skipSpace_dateText (date : Date) (rest : List Char) :
    skipSpace (dateText date ++ rest) = dateText date ++ rest := by
  rw [dateText, List.append_assoc, skipSpace_padded]

theorem skipSpace_timeText (second : Nat) (rest : List Char) :
    skipSpace (timeText second ++ rest) = timeText second ++ rest := by
  rw [timeText, List.append_assoc, skipSpace_padded]

/-- A written day is read if there is such a day. -/
theorem readDate_dateText {year month day : Nat} (years : year < 10 ^ 4) (positive : 1 ≤ month)
    (within : month ≤ 12) (days : day < 10 ^ 2) (rest : List Char) :
    readDate (dateText ⟨year, month, day⟩ ++ rest) =
      (Date.ofParts? year month day).map fun date => (date, rest) := by
  have names : ∀ index < 12,
      let name := ((monthAbbreviations[index]?).getD "").toList
      name ≠ [] ∧ Text.Solid name := by decide
  obtain ⟨named, solid⟩ := names (month - 1) (by omega)
  have place : month - 1 + 1 = month := Nat.sub_add_cancel positive
  simp only [readDate, dateText, List.append_assoc, List.cons_append,
    readNumber_padded Nat.two_pos days, skipSpace_space, skipSpace_append named solid,
    readName_month positive within, skipSpace_padded, readYear_padded years, Option.bind_eq_bind,
    Option.bind_some, place]
  cases Date.ofParts? year month day <;> rfl

theorem readTime_timeText {second : Nat} (inDay : second < secondsPerDay) (rest : List Char) :
    readTime (timeText second ++ rest) = some (second, rest) := by
  rw [secondsPerDay] at inDay
  have hours := readUpTo_padded (by omega : second / 3600 ≤ 23) (by decide)
  have minutes := readUpTo_padded (by omega : second / 60 % 60 ≤ 59) (by decide)
  have seconds := readUpTo_padded (by omega : second % 60 ≤ 60) (by decide)
  have colon := expect_append [':']
  have sum : 3600 * (second / 3600) + 60 * (second / 60 % 60) + second % 60 = second := by omega
  simp only [List.singleton_append] at colon
  simp only [readTime, timeText, List.append_assoc, List.cons_append, hours, minutes, seconds,
    colon, Option.bind_eq_bind, Option.bind_some, sum]
  rfl

/-- A written date is read if there is such a day and the weekday is its own.
Nothing else that is written in this way is read. -/
theorem parse?_renderAs (weekday : Weekday) {year month day second : Nat} (years : year < 10 ^ 4)
    (positive : 1 ≤ month) (within : month ≤ 12) (days : day < 10 ^ 2)
    (inDay : second < secondsPerDay) :
    parse? (renderAs weekday ⟨⟨year, month, day⟩, second⟩) =
      ((Date.ofParts? year month day).filter (weekday = ·.weekday)).map (⟨·, second⟩) := by
  obtain ⟨index, named, place⟩ := readName_weekday weekday ([','] ++
    ' ' :: (dateText ⟨year, month, day⟩ ++ ' ' :: (timeText second ++ ' ' :: ['G', 'M', 'T'])))
  have zone : skipSpace ['G', 'M', 'T'] = ['G', 'M', 'T'] := by decide
  have ended : expect ['G', 'M', 'T'] ['G', 'M', 'T'] = some [] := by decide
  rw [renderAs_eq, parse?, named]
  simp only [Option.bind_eq_bind, Option.bind_some, expect_append, skipSpace_space,
    skipSpace_dateText, readDate_dateText years positive within days]
  cases Date.ofParts? year month day with
  | none => rfl
  | some date =>
      simp only [Option.map_some, Option.bind_some, skipSpace_space, skipSpace_timeText,
        readTime_timeText inDay, zone, ended, place, List.isEmpty_nil, true_and, Option.some.injEq]
      by_cases own : weekday = date.weekday
      · rw [if_pos own, Option.filter_some, decide_eq_true own]
        rfl
      · rw [if_neg own, Option.filter_some, decide_eq_false own]
        rfl

/-- A written date starts with the first letter of its weekday, which is neither
white space nor a digit. -/
theorem exists_letter (weekday : Weekday) (moment : Moment) :
    ∃ letter rest, renderAs weekday moment = letter :: rest ∧
      Text.isWhiteSpace letter = false ∧ 58 ≤ letter.toNat := by
  have named : ∃ letter others, weekday.abbreviation.toList = letter :: others ∧
      Text.isWhiteSpace letter = false ∧ 58 ≤ letter.toNat := by
    cases weekday <;> exact ⟨_, _, rfl, by decide, by decide⟩
  obtain ⟨letter, others, written, solid, high⟩ := named
  rw [renderAs_eq, written]
  exact ⟨letter, _, rfl, solid, high⟩

theorem trimmed_renderAs (weekday : Weekday) (moment : Moment) :
    Text.Trimmed (renderAs weekday moment) where
  starts c first := by
    obtain ⟨letter, rest, written, solid, _⟩ := exists_letter weekday moment
    rw [written, List.head?_cons] at first
    cases first
    exact solid
  ends c last := by
    rw [renderAs, List.getLast?_append] at last
    cases last
    decide

theorem parseUInt64?_renderAs (weekday : Weekday) (moment : Moment) :
    parseUInt64? (renderAs weekday moment) = none := by
  obtain ⟨letter, rest, written, _, high⟩ := exists_letter weekday moment
  rw [parseUInt64?, Option.map_eq_none_iff]
  cases read : Text.Numeral.parse? (2 ^ 64) (renderAs weekday moment) with
  | none => rfl
  | some n =>
      obtain ⟨first, others, starts, low⟩ := toNat_head_parse? read
      rw [written] at starts
      cases starts
      exact absurd low (Nat.not_lt_of_le high)

end RemoteWrite.Time.HttpDate
