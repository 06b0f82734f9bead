import Mathlib.Tactic.IntervalCases
import Mathlib.Algebra.Order.Ring.Int

/-!
# Days of the Gregorian calendar

The proleptic calendar: every year divisible by four is a leap year, except the centuries
that are not divisible by 400. The days before a date are 365 for each year and one for
each leap day (`leapDays`); the number of a date is their sum, counted from 1970.

The year has a fixed shape but for its leap day, so a day of the year comes back after
`365 * n` days and the leap days in between (`dayNumber_sub`), and no other date lies
between the last of these returns and a date (`dayNumber_le_of_before`).
-/

namespace Calendar

def IsLeap (year : Int) : Prop :=
  year % 4 = 0 ∧ (year % 100 ≠ 0 ∨ year % 400 = 0)

instance (year : Int) : Decidable (IsLeap year) :=
  inferInstanceAs (Decidable (_ ∧ _))

/-- The leap days of the years from 1 to `year`; before year 1 they count as negative. -/
def leapDays (year : Int) : Int :=
  year / 4 - year / 100 + year / 400

/-- The days of a month outside leap years. -/
def monthDays (month : Int) : Int :=
  if month = 2 then 28 else if month = 4 ∨ month = 6 ∨ month = 9 ∨ month = 11 then 30 else 31

def daysInMonth (year month : Int) : Int :=
  if month = 2 ∧ IsLeap year then 29 else monthDays month

/-- The days of a year before a month, outside leap years. -/
def daysBefore (month : Int) : Int :=
  [0, 31, 59, 90, 120, 151, 181, 212, 243, 273, 304, 334].getD (month - 1).toNat 0

/-- The last year whose leap day, if it has one, is over when the month begins. -/
def leapYearBefore (year month : Int) : Int :=
  if month ≤ 2 then year - 1 else year

/-- The number of a day, from 1970-01-01 on. The day may be one that the month does not have:
then it is one of the next month. -/
def dayNumber (year month day : Int) : Int :=
  365 * year + leapDays (leapYearBefore year month) + daysBefore month + day - 719528

/-- The date is one of the calendar. -/
structure IsDate (year month day : Int) : Prop where
  firstMonth : 1 ≤ month
  lastMonth : month ≤ 12
  firstDay : 1 ≤ day
  lastDay : day ≤ daysInMonth year month

example : dayNumber 1970 1 1 = 0 := by decide

example : dayNumber 2024 2 29 = 19782 := by decide

/-! ## Leap days and months -/

section Shape

variable {year year' month month' day day' : Int}

theorem leapDays_mono (le : year ≤ year') : leapDays year ≤ leapDays year' := by
  unfold leapDays
  omega

theorem leapDays_succ (year : Int) :
    leapDays (year + 1) = leapDays year + if IsLeap (year + 1) then 1 else 0 := by
  by_cases leap : IsLeap (year + 1)
  · rw [if_pos leap]
    unfold IsLeap at leap
    unfold leapDays
    omega
  · rw [if_neg leap]
    unfold IsLeap at leap
    unfold leapDays
    omega

theorem leapDays_leapYearBefore_le (le : year < year') (month month' : Int) :
    leapDays (leapYearBefore year month) ≤ leapDays (leapYearBefore year' month') := by
  apply leapDays_mono
  unfold leapYearBefore
  split
  · split
    · omega
    · omega
  · split
    · omega
    · omega

/-- The months follow one another. -/
theorem daysBefore_succ (first : 1 ≤ month) (last : month < 12) :
    daysBefore (month + 1) = daysBefore month + monthDays month := by
  interval_cases month
  all_goals decide

theorem daysBefore_bounds (first : 1 ≤ month) (last : month ≤ 12) :
    0 ≤ daysBefore month ∧ daysBefore month + monthDays month ≤ 365 := by
  interval_cases month
  all_goals decide

theorem daysBefore_add_le (first : 1 ≤ month) (lt : month < month') (last : month' ≤ 12) :
    daysBefore month + monthDays month ≤ daysBefore month' := by
  have next : month + 1 ≤ month' := lt
  induction month', next using Int.leInduction with
  | base => rw [daysBefore_succ first (by omega)]
  | succ later le ih =>
      rw [daysBefore_succ (by omega) (by omega)]
      have days : 0 ≤ monthDays later := by
        unfold monthDays
        split_ifs
        · decide
        · decide
        · decide
      have := ih (by omega) (by omega)
      omega

end Shape

/-! ## The order of dates -/

section Order

variable {year year' month month' day day' : Int}

/-- One day of the calendar later, in the same month or on the first of the next one. -/
theorem dayNumber_nextMonth (first : 1 ≤ month) (last : month < 12) :
    dayNumber year (month + 1) 1 = dayNumber year month (daysInMonth year month) + 1 := by
  have months := daysBefore_succ first last
  have leap := leapDays_succ (year - 1)
  rw [sub_add_cancel] at leap
  unfold dayNumber leapYearBefore daysInMonth
  rw [months]
  by_cases february : month = 2
  · subst february
    rw [if_neg (by decide), if_pos le_rfl, leap]
    by_cases isLeap : IsLeap year
    · rw [if_pos isLeap, if_pos ⟨rfl, isLeap⟩]
      have : monthDays 2 = 28 := rfl
      omega
    · rw [if_neg isLeap, if_neg fun both => isLeap both.2]
      omega
  · rw [if_neg fun both : month = 2 ∧ IsLeap year => february both.1]
    have same : month + 1 ≤ 2 ↔ month ≤ 2 := by omega
    simp only [same]
    omega

theorem dayNumber_nextYear (year : Int) : dayNumber (year + 1) 1 1 = dayNumber year 12 31 + 1 := by
  have january : daysBefore 1 = 0 := rfl
  have december : daysBefore 12 = 334 := rfl
  unfold dayNumber leapYearBefore
  rw [if_pos (by decide), if_neg (by decide), january, december, add_sub_cancel_right]
  omega

/-- A day of the year comes back after `365` days for each year and the leap days between. -/
theorem dayNumber_sub (year year' month day : Int) :
    dayNumber year' month day - dayNumber year month day =
      365 * (year' - year) +
        (leapDays (leapYearBefore year' month) - leapDays (leapYearBefore year month)) := by
  unfold dayNumber
  omega

/-- The month and the day of a date come before those of another one. -/
def Before (month day month' day' : Int) : Prop :=
  month < month' ∨ month = month' ∧ day < day'

instance (month day month' day' : Int) : Decidable (Before month day month' day') :=
  inferInstanceAs (Decidable (_ ∨ _))

/-- In one year, where the first date need not be in the calendar of that year. -/
theorem dayNumber_le_of_not_before (date : IsDate year month day)
    (date' : IsDate year' month' day') (notBefore : ¬ Before month' day' month day) :
    dayNumber year' month day ≤ dayNumber year' month' day' := by
  unfold Before at notBefore
  by_cases same : month = month'
  · subst same
    unfold dayNumber
    omega
  · have later : month < month' := by omega
    have months := daysBefore_add_le date.firstMonth later date'.lastMonth
    have days := date.lastDay
    have first := date'.firstDay
    have leap : leapDays (leapYearBefore year' month) ≤ leapDays (leapYearBefore year' month') := by
      apply leapDays_mono
      unfold leapYearBefore
      split
      · split
        · exact le_rfl
        · omega
      · rw [if_neg (by omega)]
    have short : day ≤ monthDays month + 1 := by
      unfold daysInMonth at days
      split at days
      case isTrue february =>
          rw [february.1]
          exact days
      case isFalse => omega
    unfold dayNumber
    omega

theorem IsDate.day_le (date : IsDate year month day) : daysBefore month + day ≤ 365 := by
  have days := date.lastDay
  have months := daysBefore_bounds date.firstMonth date.lastMonth
  unfold daysInMonth at days
  split at days
  case isTrue february =>
      have january : daysBefore month = 31 := by rw [february.1]; rfl
      omega
  case isFalse => omega

/-- The dates of a year come before those of a later one. -/
theorem dayNumber_lt_of_year (date : IsDate year month day) (date' : IsDate year' month' day')
    (lt : year < year') : dayNumber year month day < dayNumber year' month' day' := by
  have leap := leapDays_leapYearBefore_le lt month month'
  have last := date.day_le
  have months := daysBefore_bounds date'.firstMonth date'.lastMonth
  have first := date'.firstDay
  unfold dayNumber
  omega

theorem dayNumber_lt_of_before (date : IsDate year month day) (date' : IsDate year month' day')
    (before : Before month day month' day') :
    dayNumber year month day < dayNumber year month' day' := by
  rcases before with earlier | ⟨rfl, earlier⟩
  · have months := daysBefore_add_le date.firstMonth earlier date'.lastMonth
    have days := date.lastDay
    have first := date'.firstDay
    have leap := leapDays_succ (year - 1)
    rw [sub_add_cancel] at leap
    unfold daysInMonth at days
    unfold dayNumber leapYearBefore
    split at days
    case isTrue february =>
        obtain ⟨rfl, isLeap⟩ := february
        rw [if_pos isLeap] at leap
        rw [if_pos le_rfl, if_neg (not_le.mpr earlier)]
        have : monthDays 2 = 28 := rfl
        omega
    case isFalse =>
        have grows := leapDays_mono (sub_one_lt year).le
        split
        · split
          · omega
          · omega
        · rw [if_neg (by omega)]
          omega
  · unfold dayNumber
    omega

/-- The day of the year before a date lies in the year before it. -/
theorem dayNumber_le_of_before (date : IsDate year month day) (date' : IsDate year' month' day') :
    dayNumber (year' - 1) month day ≤ dayNumber year' month' day' := by
  have leap := leapDays_leapYearBefore_le (sub_one_lt year') month month'
  have last := date.day_le
  have first := date'.firstDay
  have months := daysBefore_bounds date'.firstMonth date'.lastMonth
  unfold dayNumber
  omega

theorem dayNumber_lt (date : IsDate year month day) (date' : IsDate year' month' day')
    (earlier : year < year' ∨ year = year' ∧ Before month day month' day') :
    dayNumber year month day < dayNumber year' month' day' := by
  rcases earlier with earlier | ⟨rfl, before⟩
  · exact dayNumber_lt_of_year date date' earlier
  · exact dayNumber_lt_of_before date date' before

/-- A day has one date. -/
theorem IsDate.eq_of_dayNumber (date : IsDate year month day) (date' : IsDate year' month' day')
    (same : dayNumber year month day = dayNumber year' month' day') :
    year = year' ∧ month = month' ∧ day = day' := by
  have notEarlier := mt (dayNumber_lt date date') same.not_lt
  have notLater := mt (dayNumber_lt date' date) same.not_gt
  unfold Before at notEarlier notLater
  omega

/-! ## All days -/

theorem dayNumber_add (year month day days : Int) :
    dayNumber year month (day + days) = dayNumber year month day + days := by
  unfold dayNumber
  omega

theorem le_daysInMonth (first : 1 ≤ month) (last : month ≤ 12) : 28 ≤ daysInMonth year month := by
  unfold daysInMonth
  split
  · decide
  · interval_cases month
    all_goals decide

theorem isDate_first (first : 1 ≤ month) (last : month ≤ 12) : IsDate year month 1 :=
  ⟨first, last, le_rfl, le_trans (by decide) (le_daysInMonth first last)⟩

theorem isDate_last (first : 1 ≤ month) (last : month ≤ 12) :
    IsDate year month (daysInMonth year month) :=
  ⟨first, last, le_trans (by decide) (le_daysInMonth first last), le_rfl⟩

theorem daysInMonth_december (year : Int) : daysInMonth year 12 = 31 :=
  if_neg fun february => absurd february.1 (by decide)

theorem IsDate.tomorrow (date : IsDate year month day) :
    ∃ year' month' day', IsDate year' month' day' ∧
      dayNumber year' month' day' = dayNumber year month day + 1 := by
  have lastDay := date.lastDay
  by_cases inMonth : day < daysInMonth year month
  · refine ⟨year, month, day + 1, ?_, dayNumber_add ..⟩
    exact ⟨date.firstMonth, date.lastMonth, le_trans date.firstDay (lt_add_one day).le, inMonth⟩
  · obtain rfl : day = daysInMonth year month := by omega
    by_cases inYear : month < 12
    · have later : 1 ≤ month + 1 := by
        have := date.firstMonth
        omega
      exact ⟨year, month + 1, 1, isDate_first later inYear,
        dayNumber_nextMonth date.firstMonth inYear⟩
    · obtain rfl : month = 12 := by
        have := date.lastMonth
        omega
      rw [daysInMonth_december]
      exact ⟨year + 1, 1, 1, isDate_first le_rfl (by decide), dayNumber_nextYear year⟩

theorem IsDate.yesterday (date : IsDate year month day) :
    ∃ year' month' day', IsDate year' month' day' ∧
      dayNumber year' month' day' = dayNumber year month day - 1 := by
  have firstDay := date.firstDay
  have firstMonth := date.firstMonth
  have lastDay := date.lastDay
  by_cases inMonth : 1 < day
  · refine ⟨year, month, day - 1, ?_, dayNumber_add ..⟩
    exact ⟨firstMonth, date.lastMonth, by omega, by omega⟩
  · obtain rfl : day = 1 := by omega
    by_cases inYear : 1 < month
    · have first : 1 ≤ month - 1 := by omega
      have last : month - 1 < 12 := by
        have := date.lastMonth
        omega
      have next : dayNumber year (month - 1 + 1) 1 =
          dayNumber year (month - 1) (daysInMonth year (month - 1)) + 1 :=
        dayNumber_nextMonth first last
      rw [sub_add_cancel] at next
      exact ⟨year, month - 1, _, isDate_last first last.le, by omega⟩
    · obtain rfl : month = 1 := by omega
      have next := dayNumber_nextYear (year - 1)
      rw [sub_add_cancel] at next
      have last : IsDate (year - 1) 12 (daysInMonth (year - 1) 12) :=
        isDate_last (by decide) le_rfl
      rw [daysInMonth_december] at last
      exact ⟨year - 1, 12, 31, last, by omega⟩

/-- Every day has a date. -/
theorem exists_date (number : Int) :
    ∃ year month day, IsDate year month day ∧ dayNumber year month day = number := by
  induction number using Int.induction_on with
  | zero => exact ⟨1970, 1, 1, isDate_first le_rfl (by decide), by decide⟩
  | succ n ih =>
      obtain ⟨year, month, day, date, number⟩ := ih
      obtain ⟨year', month', day', date', next⟩ := date.tomorrow
      exact ⟨year', month', day', date', by rw [next, number]⟩
  | pred n ih =>
      obtain ⟨year, month, day, date, number⟩ := ih
      obtain ⟨year', month', day', date', before⟩ := date.yesterday
      exact ⟨year', month', day', date', by rw [before, number]⟩

/-- The same day of another month is at least four weeks away. -/
theorem dayNumber_add_le_of_same_day (date : IsDate year month day)
    (date' : IsDate year' month' day)
    (later : dayNumber year month day < dayNumber year' month' day) :
    dayNumber year month day + 28 ≤ dayNumber year' month' day := by
  have differ : ¬ (year = year' ∧ month = month') := by
    rintro ⟨rfl, rfl⟩
    exact lt_irrefl _ later
  have notEarlier := mt (dayNumber_lt date' date) later.not_gt
  have order : year < year' ∨ year = year' ∧ month < month' := by
    unfold Before at notEarlier
    omega
  have months := dayNumber_lt (isDate_last date.firstMonth date.lastMonth)
    (isDate_first date'.firstMonth date'.lastMonth)
    (order.imp_right fun both => ⟨both.1, .inl both.2⟩)
  have long : 28 ≤ daysInMonth year month := le_daysInMonth date.firstMonth date.lastMonth
  have inFirst := dayNumber_add year month (daysInMonth year month) (day - daysInMonth year month)
  have inSecond := dayNumber_add year' month' 1 (day - 1)
  rw [add_sub_cancel] at inFirst inSecond
  omega

/-! ## Eras -/

theorem isLeap_era (year era : Int) : IsLeap (year + 400 * era) ↔ IsLeap year := by
  unfold IsLeap
  omega

theorem leapDays_era (year era : Int) :
    leapDays (year + 400 * era) = leapDays year + 97 * era := by
  unfold leapDays
  omega

/-- The calendar comes back after 400 years. -/
theorem dayNumber_era (year month day era : Int) :
    dayNumber (year + 400 * era) month day = dayNumber year month day + 146097 * era := by
  unfold dayNumber leapYearBefore
  split
  · rw [add_sub_right_comm year, leapDays_era]
    omega
  · rw [leapDays_era]
    omega

theorem IsDate.inEra (date : IsDate year month day) (era : Int) :
    IsDate (year + 400 * era) month day := by
  refine ⟨date.firstMonth, date.lastMonth, date.firstDay, ?_⟩
  have lastDay := date.lastDay
  unfold daysInMonth at lastDay ⊢
  simpa only [isLeap_era] using lastDay

end Order

end Calendar
