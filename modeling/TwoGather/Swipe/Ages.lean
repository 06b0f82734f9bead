import TwoGather.Swipe.UserCardService

/-!
# The age on a card and the age of the filter

`birthday.dart` divides the days between two dates by 365, and `_calculateAge` compares
their years, months and days. The first counts the leap days of a life as part of the
current year: `cardAge_eq_iff` says that the two ages agree exactly while these and the
days since the last birthday stay below 365.
-/

namespace TwoGather

open Calendar Docs

/-! ## The two ages -/

def formatToGetAge (duration : Int) : String :=
  toString ((inDays duration).tdiv 365)

/-- The age on a card: `DateTime.now().difference(birthday ?? DateTime.now())`. -/
def cardAge (now : Int) (birthday : Option Int) : String :=
  formatToGetAge (now - birthday.getD now)

namespace CivilDate

/-- The year of the last birthday; where it has no 29 February, a birthday on that day is
one on 1 March. -/
def lastBirthday (today birth : CivilDate) : Int :=
  if Before today.month today.day birth.month birth.day then today.year - 1 else today.year

/-- The days since the last birthday. -/
def daysSince (today birth : CivilDate) : Int :=
  today.dayNumber - Calendar.dayNumber (today.lastBirthday birth) birth.month birth.day

/-- The leap days from the birth to the last birthday. -/
def leapDaysLived (today birth : CivilDate) : Int :=
  leapDays (leapYearBefore (today.lastBirthday birth) birth.month) -
    leapDays (leapYearBefore birth.year birth.month)

variable {today birth : CivilDate}

theorem calculateAge_eq (today birth : CivilDate) :
    calculateAge today birth = today.lastBirthday birth - birth.year := by
  have before : (today.month - birth.month < 0 ∨
      today.month - birth.month = 0 ∧ today.day < birth.day) ↔
        Before today.month today.day birth.month birth.day := by
    unfold Before
    omega
  unfold calculateAge lastBirthday
  simp only [before]
  split
  · ring
  · rfl

/-- The days of a life are 365 for each year of the age, the leap days and the days since
the last birthday. -/
theorem dayNumber_sub_eq (today birth : CivilDate) :
    today.dayNumber - birth.dayNumber =
      365 * calculateAge today birth + (today.leapDaysLived birth + today.daysSince birth) := by
  have lived := dayNumber_sub birth.year (today.lastBirthday birth) birth.month birth.day
  rw [calculateAge_eq]
  unfold leapDaysLived daysSince dayNumber
  omega

theorem daysSince_nonneg (valid : birth.Valid) (valid' : today.Valid) :
    0 ≤ today.daysSince birth := by
  refine sub_nonneg.mpr ?_
  unfold lastBirthday
  split
  case isTrue => exact dayNumber_le_of_before valid valid'
  case isFalse notBefore => exact dayNumber_le_of_not_before valid valid' notBefore

/-- The last birthday of a life that has begun is no earlier than the birth. -/
theorem birth_le_lastBirthday (valid : birth.Valid) (valid' : today.Valid)
    (later : birth.dayNumber ≤ today.dayNumber) : birth.year ≤ today.lastBirthday birth := by
  have noEarlierYear : birth.year ≤ today.year := by
    by_contra earlier
    exact absurd later (not_le.mpr (dayNumber_lt_of_year valid' valid (not_le.mp earlier)))
  unfold lastBirthday
  split
  case isTrue before =>
      have otherYear : today.year ≠ birth.year := by
        intro same
        have valid'' : IsDate birth.year today.month today.day := same ▸ valid'
        have lt : today.dayNumber < birth.dayNumber := by
          unfold dayNumber
          rw [same]
          exact dayNumber_lt_of_before valid'' valid before
        exact absurd later (not_le.mpr lt)
      omega
  case isFalse => exact noEarlierYear

theorem leapDaysLived_nonneg (le : birth.year ≤ today.lastBirthday birth) :
    0 ≤ today.leapDaysLived birth := by
  refine sub_nonneg.mpr (leapDays_mono ?_)
  unfold leapYearBefore
  split
  · omega
  · omega

end CivilDate

/-- A number that is not negative can be read from its text. -/
theorem toString_eq_iff {a b : Int} (first : 0 ≤ a) (second : 0 ≤ b) :
    toString a = toString b ↔ a = b := by
  obtain ⟨n, rfl⟩ := Int.eq_ofNat_of_zero_le first
  obtain ⟨m, rfl⟩ := Int.eq_ofNat_of_zero_le second
  refine ⟨fun same => ?_, fun same => congrArg _ same⟩
  have digits : Nat.toDigits 10 n = Nat.toDigits 10 m := String.ofList_injective same
  have values := congrArg (Nat.ofDigitChars 10 · 0) digits
  simp only [Nat.ofDigitChars_ten_toDigits] at values
  exact congrArg _ values

/-- The number that is shown for the days of a life. -/
theorem shownAge_eq {days : Int} (lived : 0 ≤ days) :
    (inDays (days * 86400000000)).tdiv 365 = days / 365 := by
  unfold inDays
  rw [Int.mul_tdiv_cancel days (by decide), Int.tdiv_eq_ediv_of_nonneg lived]

/-- **For every birth date and every later date, at midnight, the age on the card is the age
of the filter if and only if fewer than 365 days have passed since the last birthday, where
each leap day between the birth and this birthday counts as one more.** -/
theorem cardAge_eq_iff {birth today : CivilDate} (valid : birth.Valid) (valid' : today.Valid)
    (later : birth.dayNumber ≤ today.dayNumber) :
    cardAge today.midnight (some birth.midnight) = toString (calculateAge today birth) ↔
      today.leapDaysLived birth + today.daysSince birth < 365 := by
  have order := CivilDate.birth_le_lastBirthday valid valid' later
  have leap := CivilDate.leapDaysLived_nonneg order
  have since := CivilDate.daysSince_nonneg valid valid'
  have days := CivilDate.dayNumber_sub_eq today birth
  have age : 0 ≤ calculateAge today birth := by
    rw [CivilDate.calculateAge_eq]
    exact sub_nonneg.mpr order
  have difference : today.midnight - (some birth.midnight).getD today.midnight =
      (today.dayNumber - birth.dayNumber) * 86400000000 := by
    simp only [Option.getD_some, CivilDate.midnight]
    ring
  have shown := shownAge_eq (sub_nonneg.mpr later)
  unfold cardAge formatToGetAge
  rw [difference, shown, toString_eq_iff (by omega) age]
  omega

/-- A friend in the age range of the viewer has a card with an age of this range, when the
two ages agree. -/
theorem card_in_range {metadata : Option UserMetadata} {now birthday : Timestamp} {data : User}
    {birth today : CivilDate} (valid : birth.Valid) (valid' : today.Valid)
    (stored : data.birthday = .value birthday) (midnight : birthday.micros = birth.midnight)
    (midnight' : now.micros = today.midnight)
    (agree : cardAge today.midnight (some birth.midnight) = toString (calculateAge today birth))
    (inRange : UserCardService.ageInRange metadata now data) :
    ∃ age : Int, cardAge now.micros (some birthday.micros) = toString age ∧
      (metadata.bind UserMetadata.ageMin).getD 18 ≤ age ∧
        age ≤ (metadata.bind UserMetadata.ageMax).getD 70 := by
  refine ⟨calculateAge today birth, by rw [midnight, midnight', agree], ?_⟩
  have range := inRange
  unfold UserCardService.ageInRange at range
  rw [stored] at range
  simp only [Stored.get?_value, decide_eq_true_eq] at range
  rwa [civilDate_midnight valid midnight, civilDate_midnight valid' midnight'] at range

/-- Three days before the 24th birthday the card says 24, and the filter takes 23. -/
theorem card_three_days_early :
    let birth : CivilDate := ⟨2000, 6, 15⟩
    let today : CivilDate := ⟨2024, 6, 12⟩
    birth.Valid ∧ today.Valid ∧ birth.dayNumber ≤ today.dayNumber ∧
      calculateAge today birth = 23 ∧ cardAge today.midnight (some birth.midnight) = "24" ∧
      cardAge today.midnight (some birth.midnight) ≠ toString (calculateAge today birth) := by
  intro birth today
  have valid : birth.Valid := ⟨by decide, by decide, by decide, by decide⟩
  have valid' : today.Valid := ⟨by decide, by decide, by decide, by decide⟩
  exact ⟨valid, valid', by decide, by decide, by decide, by decide⟩

/-- On the 24th birthday both say 24. -/
theorem card_on_birthday :
    let birth : CivilDate := ⟨2000, 6, 15⟩
    let today : CivilDate := ⟨2024, 6, 15⟩
    cardAge today.midnight (some birth.midnight) = toString (calculateAge today birth) :=
  (cardAge_eq_iff ⟨by decide, by decide, by decide, by decide⟩
    ⟨by decide, by decide, by decide, by decide⟩ (by decide)).mpr (by decide)

end TwoGather
