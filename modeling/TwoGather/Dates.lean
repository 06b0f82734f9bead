import TwoGather.Documents
import TwoGather.Lib.Calendar

/-!
# Dates

The date of an instant, and durations in whole days, as Dart counts them. The calendar is the
proleptic Gregorian one: `civilDate_of_dayNumber` says that `civilDate` finds the date whose
number is that of the day.

A phone shows dates in local time (`LocalTime.date`). Two of them are the same exactly when their
days have the same number (`dateShown_eq_iff`), and the same day of two months is at least four
weeks away (`dateShown_far_of_same_day`).
-/

namespace TwoGather

open Calendar

/-- A date of the Gregorian calendar. -/
structure CivilDate where
  year : Int
  month : Int
  day : Int
  deriving DecidableEq

/-- `DateTime.fromMicrosecondsSinceEpoch(t, isUtc: true)`, without the time of day. The years
that are counted here begin in March, so that a leap day is the last one of its year. -/
def civilDate (t : Timestamp) : CivilDate :=
  let day := t.micros / 86400000000 + 719468
  let era := day / 146097
  let dayOfEra := day - era * 146097
  let yearOfEra := (dayOfEra - dayOfEra / 1460 + dayOfEra / 36524 - dayOfEra / 146096) / 365
  let dayOfYear := dayOfEra - (365 * yearOfEra + yearOfEra / 4 - yearOfEra / 100)
  let fromMarch := (5 * dayOfYear + 2) / 153
  { year := yearOfEra + era * 400 + if fromMarch < 10 then 0 else 1
    month := if fromMarch < 10 then fromMarch + 3 else fromMarch - 9
    day := dayOfYear - (153 * fromMarch + 2) / 5 + 1 }

example : civilDate .epoch = ⟨1970, 1, 1⟩ := by decide

example : civilDate ⟨1709164800000000, by decide, by decide⟩ = ⟨2024, 2, 29⟩ := by decide

/-- `duration.inDays`, for a duration in microseconds. -/
def inDays (duration : Int) : Int :=
  duration.tdiv 86400000000

/-! ## Dates at midnight -/

namespace CivilDate

/-- The date is one of the calendar. -/
def Valid (d : CivilDate) : Prop :=
  IsDate d.year d.month d.day

def dayNumber (d : CivilDate) : Int :=
  Calendar.dayNumber d.year d.month d.day

/-- The microseconds from the epoch to the beginning of the day. -/
def midnight (d : CivilDate) : Int :=
  d.dayNumber * 86400000000

end CivilDate

/-- The number of a day in the year that begins with its March. -/
def dayFromMarch (month day : Int) : Int :=
  if month ≤ 2 then daysBefore month + day + 305 else daysBefore month + day - 60

/-- What `civilDate` takes from a day of such a year, it can read the date from. -/
theorem fromMarch_dayFromMarch {year month day : Int} (date : IsDate year month day) :
    let fromMarch := (5 * dayFromMarch month day + 2) / 153
    (if fromMarch < 10 then fromMarch + 3 else fromMarch - 9) = month ∧
      dayFromMarch month day - (153 * fromMarch + 2) / 5 + 1 = day ∧
      (fromMarch < 10 ↔ ¬ month ≤ 2) := by
  obtain ⟨firstMonth, lastMonth, firstDay, lastDay⟩ := date
  have short : day ≤ if month = 2 then 29 else monthDays month := by
    unfold daysInMonth at lastDay
    split at lastDay
    case isTrue february => rwa [if_pos february.1]
    case isFalse =>
        split
        case isTrue february =>
            rw [february] at lastDay
            exact lastDay.trans (by decide)
        case isFalse => exact lastDay
  intro fromMarch
  unfold fromMarch dayFromMarch
  interval_cases month
  all_goals
    simp only [monthDays, daysBefore] at short ⊢
    simp at short ⊢
    omega

/-- The number of a day is 365 for each year from March on, the leap days before it and the
day of its year. -/
theorem dayNumber_eq_fromMarch (year month day : Int) :
    Calendar.dayNumber year month day =
      365 * leapYearBefore year month + leapDays (leapYearBefore year month) +
        dayFromMarch month day - 719468 := by
  unfold Calendar.dayNumber dayFromMarch leapYearBefore
  split
  · omega
  · omega

/-- A year from March on has 366 days only when the February at its end has a leap day. -/
theorem dayFromMarch_bounds {year month day : Int} (date : IsDate year month day) :
    0 ≤ dayFromMarch month day ∧
      (dayFromMarch month day ≤ 364 ∨
        dayFromMarch month day = 365 ∧ IsLeap (leapYearBefore year month + 1)) := by
  obtain ⟨firstMonth, lastMonth, firstDay, lastDay⟩ := date
  unfold daysInMonth at lastDay
  unfold dayFromMarch leapYearBefore
  by_cases early : month ≤ 2
  · rw [if_pos early, if_pos early, sub_add_cancel]
    by_cases january : month = 1
    · subst january
      have : daysBefore 1 = 0 := rfl
      have : monthDays 1 = 31 := rfl
      rw [if_neg fun february => absurd february.1 (by decide)] at lastDay
      omega
    · obtain rfl : month = 2 := by omega
      have : daysBefore 2 = 31 := rfl
      have : monthDays 2 = 28 := rfl
      split at lastDay
      case isTrue february =>
          refine ⟨by omega, ?_⟩
          by_cases last : day = 29
          · exact .inr ⟨by omega, february.2⟩
          · exact .inl (by omega)
      case isFalse => omega
  · have months := daysBefore_bounds firstMonth lastMonth
    have march : daysBefore 2 + monthDays 2 ≤ daysBefore month :=
      daysBefore_add_le (by decide) (by omega) lastMonth
    have : daysBefore 2 + monthDays 2 = 59 := rfl
    rw [if_neg early, if_neg early]
    rw [if_neg fun february => early february.1.le] at lastDay
    omega

/-- `civilDate` finds the year of an era of 400 years, and the day of this year. -/
theorem yearOfEra_eq {year day : Int} (first : 0 ≤ year) (last : year < 400) (firstDay : 0 ≤ day)
    (lastDay : day ≤ 364 ∨ day = 365 ∧ IsLeap (year + 1)) :
    let dayOfEra := 365 * year + leapDays year + day
    0 ≤ dayOfEra ∧ dayOfEra < 146097 ∧
      (dayOfEra - dayOfEra / 1460 + dayOfEra / 36524 - dayOfEra / 146096) / 365 = year := by
  -- the year as centuries, leap years of the century and the years after the last one
  obtain ⟨c, a, b, centuries, leapYears, years, rfl⟩ : ∃ c a b : Int, (0 ≤ c ∧ c ≤ 3) ∧
      (0 ≤ a ∧ a ≤ 24) ∧ (0 ≤ b ∧ b ≤ 3) ∧ year = 100 * c + 4 * a + b :=
    ⟨year / 100, year % 100 / 4, year % 100 % 4, by omega, by omega, by omega, by omega⟩
  have leap : leapDays (100 * c + 4 * a + b) = 24 * c + a := by
    unfold leapDays
    omega
  have complete : day = 365 → b = 3 ∧ (a = 24 → c = 3) := by
    intro last
    have isLeap := (lastDay.resolve_left (by omega)).2
    unfold IsLeap at isLeap
    omega
  intro dayOfEra
  have eq : dayOfEra = 36524 * c + 1461 * a + 365 * b + day := by
    simp only [dayOfEra, leap]
    ring
  clear_value dayOfEra
  have inCentury : dayOfEra < 36524 * c + 36524 ∨ c = 3 ∧ dayOfEra = 146096 := by
    by_cases last : day = 365
    · obtain ⟨rfl, fourth⟩ := complete last
      by_cases final : a = 24
      · exact .inr ⟨fourth final, by omega⟩
      · exact .inl (by omega)
    · exact .inl (by omega)
  have centuryDays : dayOfEra / 36524 - dayOfEra / 146096 = c := by
    rcases inCentury with below | ⟨rfl, rfl⟩
    · have : dayOfEra / 36524 = c := by omega
      have : dayOfEra / 146096 = 0 := by omega
      omega
    · decide
  have leapYearDays : dayOfEra / 1460 = 25 * c + a ∧ 24 * c + a + 365 * b + day < 1460 ∨
      dayOfEra / 1460 = 25 * c + a + 1 ∧ 1460 ≤ 24 * c + a + 365 * b + day := by omega
  have yearDays : dayOfEra - dayOfEra / 1460 + dayOfEra / 36524 - dayOfEra / 146096 =
      365 * (100 * c + 4 * a + b) + (day - (dayOfEra / 1460 - 25 * c - a)) := by omega
  refine ⟨by omega, by omega, ?_⟩
  rw [yearDays]
  omega

/-- On the day of a date, that is the date. -/
theorem civilDate_of_dayNumber {t : Timestamp} {d : CivilDate} (valid : d.Valid)
    (today : t.micros / 86400000000 = d.dayNumber) : civilDate t = d := by
  obtain ⟨year, month, day⟩ := d
  obtain ⟨month_eq, day_eq, late⟩ := fromMarch_dayFromMarch valid
  obtain ⟨first, last⟩ := dayFromMarch_bounds valid
  have number := dayNumber_eq_fromMarch year month day
  have year_eq : year = leapYearBefore year month + if month ≤ 2 then 1 else 0 := by
    unfold leapYearBefore
    split
    · omega
    · omega
  simp only at month_eq day_eq late first last number
  generalize leapYearBefore year month = fromMarch at last number year_eq
  generalize dayFromMarch month day = dayOfYear at month_eq day_eq late first last number
  -- the year as eras of 400 years and the years after the last one
  obtain ⟨era, rest, lower, upper, rfl⟩ : ∃ era rest : Int, 0 ≤ rest ∧ rest < 400 ∧
      fromMarch = rest + 400 * era :=
    ⟨fromMarch / 400, fromMarch % 400, by omega, by omega, by omega⟩
  rw [leapDays_era] at number
  rw [add_right_comm, isLeap_era] at last
  obtain ⟨lowerDay, upperDay, yearOfEra⟩ := yearOfEra_eq lower upper first last
  have days : t.micros / 86400000000 + 719468 =
      era * 146097 + (365 * rest + leapDays rest + dayOfYear) := by
    rw [today, CivilDate.dayNumber, number]
    omega
  generalize dayOfEra_eq : 365 * rest + leapDays rest + dayOfYear = dayOfEra at *
  have whole : (era * 146097 + dayOfEra) / 146097 = era := by omega
  have remains : era * 146097 + dayOfEra - era * 146097 = dayOfEra := by omega
  have restDays : 365 * rest + rest / 4 - rest / 100 = 365 * rest + leapDays rest := by
    unfold leapDays
    omega
  have dayOfYear_eq : dayOfEra - (365 * rest + rest / 4 - rest / 100) = dayOfYear := by omega
  unfold civilDate
  simp only [days, whole, remains, yearOfEra, dayOfYear_eq, month_eq, day_eq]
  rw [CivilDate.mk.injEq, year_eq, mul_comm era]
  refine ⟨?_, rfl, rfl⟩
  congr 1
  by_cases early : month ≤ 2
  · rw [if_pos early, if_neg fun before => late.mp before early]
  · rw [if_neg early, if_pos (late.mpr early)]

theorem civilDate_midnight {t : Timestamp} {d : CivilDate} (valid : d.Valid)
    (midnight : t.micros = d.midnight) : civilDate t = d := by
  apply civilDate_of_dayNumber valid
  rw [midnight]
  exact Int.mul_ediv_cancel _ (by decide)

/-! ## Local dates -/

/-- The date that a clock shows after so many microseconds of its own time. The calendar comes
back after 400 years, so any of these eras will do to find the day. -/
def dateShown (shows : Int) : CivilDate :=
  let day := shows / 86400000000
  let date := civilDate ⟨day % 146097 * 86400000000, by omega, by omega⟩
  { date with year := date.year + 400 * (day / 146097) }

/-- What the clocks of a phone show at an instant, in microseconds. -/
structure LocalTime where
  shows : Int → Int
  /-- They are a day behind universal time at most. -/
  behind : ∀ t, t - 86400000000 ≤ shows t
  /-- They are a day ahead at most. -/
  ahead : ∀ t, shows t ≤ t + 86400000000
  /-- In two days they go on by one at least: they are never put back by more. -/
  goesOn : ∀ t t', t + 2 * 86400000000 ≤ t' → shows t + 86400000000 ≤ shows t'

namespace LocalTime

/-- The date of a `DateTime` that is not in universal time. -/
def date (zone : LocalTime) (t : Timestamp) : CivilDate :=
  dateShown (zone.shows t.micros)

/-- Clocks that are always the same time ahead. -/
def fixed (offset : Int) (behind : -86400000000 ≤ offset) (ahead : offset ≤ 86400000000) :
    LocalTime where
  shows t := t + offset
  behind := by omega
  ahead := by omega
  goesOn := by omega

def utc : LocalTime :=
  fixed 0 (by decide) (by decide)

end LocalTime

theorem CivilDate.exists_valid (number : Int) : ∃ d : CivilDate, d.Valid ∧ d.dayNumber = number :=
  have ⟨year, month, day, date, eq⟩ := exists_date number
  ⟨⟨year, month, day⟩, date, eq⟩

/-- `dateShown` finds the date of a day, however far away. -/
theorem dateShown_of_dayNumber {shows : Int} {d : CivilDate} (valid : d.Valid)
    (today : shows / 86400000000 = d.dayNumber) : dateShown shows = d := by
  obtain ⟨year, month, day⟩ := d
  change shows / 86400000000 = Calendar.dayNumber year month day at today
  -- the date of the first era that it comes back as
  let era := shows / 86400000000 / 146097
  let first : CivilDate := ⟨year + 400 * -era, month, day⟩
  have inEra : first.Valid := IsDate.inEra valid (-era)
  have number : shows / 86400000000 % 146097 = first.dayNumber := by
    rw [CivilDate.dayNumber, dayNumber_era, ← today]
    omega
  unfold dateShown
  simp only
  rw [civilDate_of_dayNumber inEra ((Int.mul_ediv_cancel _ (by decide)).trans number),
    CivilDate.mk.injEq]
  refine ⟨?_, rfl, rfl⟩
  change year + 400 * -era + 400 * era = year
  omega

theorem dateShown_eq_iff (shows shows' : Int) :
    dateShown shows = dateShown shows' ↔ shows / 86400000000 = shows' / 86400000000 := by
  obtain ⟨d, valid, number⟩ := CivilDate.exists_valid (shows / 86400000000)
  obtain ⟨d', valid', number'⟩ := CivilDate.exists_valid (shows' / 86400000000)
  rw [dateShown_of_dayNumber valid number.symm, dateShown_of_dayNumber valid' number'.symm,
    ← number, ← number']
  refine ⟨fun same => by rw [same], fun same => ?_⟩
  obtain ⟨year, month, day⟩ := d
  obtain ⟨year', month', day'⟩ := d'
  obtain ⟨rfl, rfl, rfl⟩ := valid.eq_of_dayNumber valid' same
  rfl

/-- The same day of another month or year is at least four weeks away. -/
theorem dateShown_far_of_same_day {shows shows' : Int}
    (day : (dateShown shows).day = (dateShown shows').day)
    (differ : dateShown shows ≠ dateShown shows') :
    shows / 86400000000 + 28 ≤ shows' / 86400000000 ∨
      shows' / 86400000000 + 28 ≤ shows / 86400000000 := by
  have numbers := mt (dateShown_eq_iff shows shows').mpr differ
  obtain ⟨d, valid, number⟩ := CivilDate.exists_valid (shows / 86400000000)
  obtain ⟨d', valid', number'⟩ := CivilDate.exists_valid (shows' / 86400000000)
  rw [dateShown_of_dayNumber valid number.symm, dateShown_of_dayNumber valid' number'.symm] at day
  rw [← number, ← number'] at numbers ⊢
  obtain ⟨year, month, day₁⟩ := d
  obtain ⟨year', month', day₂⟩ := d'
  obtain rfl : day₁ = day₂ := day
  rcases lt_or_gt_of_ne numbers with earlier | later
  · exact .inl (dayNumber_add_le_of_same_day valid valid' earlier)
  · exact .inr (dayNumber_add_le_of_same_day valid' valid later)

end TwoGather
