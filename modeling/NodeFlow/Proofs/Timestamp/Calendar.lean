import NodeFlow.Timestamp

/-! # The calendar

    The date of a day is one of the calendar, and the day is that of its date
    (`dateOf_spec`).  Years are counted from March here, so that the leap day
    comes last; four hundred of them make an era of 146097 days. -/

namespace NodeFlow.Timestamp

/-- The year of an era, counted from March, that a day of it lies in. -/
def yearOfEra (day : Int) : Int :=
  (day - day / 1460 + day / 36524 - day / 146096) / 365

/-- The days of an era before a year of it. -/
def daysBefore (year : Int) : Int := 365 * year + year / 4 - year / 100

variable {era day : Int}

/-- An era has 400 years. -/
theorem yearOfEra_mem (h0 : 0 ≤ day) (h1 : day < 146097) :
    0 ≤ yearOfEra day ∧ yearOfEra day < 400 := by
  unfold yearOfEra
  omega

/-- An era has four centuries and one more day. -/
theorem century_cases (h0 : 0 ≤ day) (h1 : day < 146097) :
    (∃ c, 0 ≤ c ∧ c < 4 ∧ day / 36524 = c ∧ yearOfEra day / 100 = c)
      ∨ day = 146096 ∧ yearOfEra day = 399 := by
  unfold yearOfEra
  have h : day / 36524 < 4 ∨ day = 146096 := by omega
  rcases h with h | rfl
  · exact Or.inl ⟨_, by omega, h, rfl, by omega⟩
  · exact Or.inr (by decide)

/-- A year has at most 366 days. -/
theorem dayOfYear_mem (h0 : 0 ≤ day) (h1 : day < 146097) :
    0 ≤ day - daysBefore (yearOfEra day)
      ∧ day - daysBefore (yearOfEra day) ≤ 365 := by
  have hc := century_cases h0 h1
  unfold daysBefore yearOfEra at *
  rcases hc with ⟨c, hc0, hc4, hday, hyear⟩ | ⟨hday, hyear⟩
  · have hc : c = 0 ∨ c = 1 ∨ c = 2 ∨ c = 3 := by omega
    rcases hc with rfl | rfl | rfl | rfl <;> omega
  · omega

/-- Only a leap year of an era, counted from March, has a 366th day. -/
theorem leap_of_last (h0 : 0 ≤ day) (h1 : day < 146097)
    (h : day - daysBefore (yearOfEra day) = 365) :
    (yearOfEra day + 1) % 4 = 0
      ∧ ((yearOfEra day + 1) % 100 ≠ 0 ∨ yearOfEra day = 399) := by
  have hc := century_cases h0 h1
  unfold daysBefore yearOfEra at *
  generalize hy : (day - day / 1460 + day / 36524 - day / 146096) / 365 = y
    at *
  rcases hc with ⟨c, hc0, hc4, hday, hyear⟩ | ⟨hday, hyear⟩
  · -- four years end with this one, and so do not all centuries
    have hzero : day / 146096 = 0 := by omega
    have hlast : day = 365 * y + y / 4 - c + 365 := by omega
    have hfour : y / 4 < day / 1460 := by omega
    have hlater : 1460 * (y / 4) + 1460 ≤ day := by omega
    have hthree : y % 4 = 3 := by omega
    refine ⟨by omega, ?_⟩
    by_cases hcentury : (y + 1) % 100 = 0
    · have hy : y = 100 * c + 99 := by omega
      have hc : y / 4 = 25 * c + 24 := by omega
      omega
    · exact Or.inl hcentury
  · omega

/-- The month that a day of a year, counted from March, lies in. -/
def monthOf (day : Int) : Nat :=
  let monthFromMarch := (5 * day + 2) / 153
  (if monthFromMarch < 10 then monthFromMarch + 3
    else monthFromMarch - 9).toNat

/-- Its place in the month. -/
def dayOf (day : Int) : Nat :=
  (day - (153 * ((5 * day + 2) / 153) + 2) / 5 + 1).toNat

/-- The rule of leap years, by remainders only. -/
theorem isLeap_iff (year : Int) :
    isLeap year = true ↔
      year % 4 = 0 ∧ (year % 100 ≠ 0 ∨ year % 400 = 0) := by
  unfold isLeap
  simp (disch := decide) only [Int.fmod_eq_emod_of_nonneg]
  simp

/-- What is known of month and day of month. -/
structure MonthDay (year day : Int) (month dayOfMonth : Nat) : Prop where
  /-- There is a month. -/
  one_le_month : 1 ≤ month
  /-- There are twelve. -/
  month_le : month ≤ 12
  /-- There is a day. -/
  one_le_day : 1 ≤ dayOfMonth
  /-- The month has so many. -/
  day_le : dayOfMonth ≤ daysIn (year + (if month ≤ 2 then 1 else 0)) month
  /-- The days of the months before, and of this one, make up the day. -/
  sum : (153 * (((month + 9) % 12 : Nat) : Int) + 2) / 5 + dayOfMonth - 1 = day

/-- Month and day of the month from the day of a year that begins in March. -/
theorem monthDay {year day : Int} (h0 : 0 ≤ day)
    (h : day ≤ 364 ∨ day = 365 ∧ isLeap (year + 1) = true) :
    MonthDay year day (monthOf day) (dayOf day) := by
  rcases h with h | ⟨rfl, hleap⟩
  · unfold monthOf dayOf
    generalize hmonth : (5 * day + 2) / 153 = k
    have hcases : k = 0 ∨ k = 1 ∨ k = 2 ∨ k = 3 ∨ k = 4 ∨ k = 5 ∨ k = 6
        ∨ k = 7 ∨ k = 8 ∨ k = 9 ∨ k = 10 ∨ k = 11 := by omega
    rcases hcases with rfl | rfl | rfl | rfl | rfl | rfl | rfl | rfl | rfl
        | rfl | rfl | rfl
    all_goals constructor <;> simp [daysIn] <;> grind
  · -- the leap day
    constructor <;> simp [monthOf, dayOf, daysIn, hleap]

/-- The days before a year and in it make up the era. -/
theorem dateOf_eq (h0 : 0 ≤ day) (h1 : day < 146097) (era : Int) :
    dateOf (era * 146097 + day - 719468) =
      let year := yearOfEra day
      let ofYear := day - daysBefore year
      (year + era * 400 + (if monthOf ofYear ≤ 2 then 1 else 0),
        monthOf ofYear, dayOf ofYear) := by
  have hera : (era * 146097 + day - 719468 + 719468).fdiv 146097 = era := by
    rw [Int.fdiv_eq_ediv_of_nonneg _ (by decide)]
    omega
  have hday : era * 146097 + day - 719468 + 719468 - era * 146097 = day := by
    omega
  unfold dateOf
  simp only [hera, hday]
  simp (disch := decide) only [Int.fdiv_eq_ediv_of_nonneg]
  simp only [monthOf, dayOf, Int.toNat_le]
  rfl

theorem dayNumber_eq {year : Int} (h0 : 0 ≤ year) (h1 : year < 400)
    (era : Int) (month dayOfMonth : Nat) :
    dayNumber (year + era * 400 + (if month ≤ 2 then 1 else 0)) month
        dayOfMonth
      = era * 146097 + (daysBefore year
          + ((153 * (((month + 9) % 12 : Nat) : Int) + 2) / 5 + dayOfMonth - 1))
          - 719468 := by
  have hyear : (if month ≤ 2 then
      year + era * 400 + (if month ≤ 2 then 1 else 0) - 1
      else year + era * 400 + (if month ≤ 2 then 1 else 0))
        = year + era * 400 := by
    split <;> omega
  have hera : (year + era * 400).fdiv 400 = era := by
    rw [Int.fdiv_eq_ediv_of_nonneg _ (by decide)]
    omega
  have hrest : year + era * 400 - era * 400 = year := by omega
  unfold dayNumber daysBefore
  simp only [hyear, hera, hrest]
  simp (disch := decide) only [Int.fdiv_eq_ediv_of_nonneg]
  omega

/-- Whether a date is one of the calendar. -/
structure IsDate (year : Int) (month day : Nat) : Prop where
  /-- There is a month. -/
  one_le_month : 1 ≤ month
  /-- There are twelve. -/
  month_le : month ≤ 12
  /-- There is a day. -/
  one_le_day : 1 ≤ day
  /-- The month has so many. -/
  day_le : day ≤ daysIn year month

/-- Every day is a day of some era. -/
theorem exists_era (days : Int) :
    ∃ era day : Int, 0 ≤ day ∧ day < 146097
      ∧ days = era * 146097 + day - 719468 :=
  ⟨(days + 719468) / 146097, (days + 719468) % 146097, by omega, by omega,
    by omega⟩

/-- A day has a date, and is the day of that date. -/
theorem dateOf_spec (days : Int) :
    IsDate (dateOf days).1 (dateOf days).2.1 (dateOf days).2.2
      ∧ dayNumber (dateOf days).1 (dateOf days).2.1 (dateOf days).2.2
        = days := by
  obtain ⟨era, day, h0, h1, rfl⟩ := exists_era days
  obtain ⟨hy0, hy1⟩ := yearOfEra_mem h0 h1
  obtain ⟨hd0, hd1⟩ := dayOfYear_mem h0 h1
  -- the last day of a year that begins in March is there in leap years only
  have hlast : day - daysBefore (yearOfEra day) ≤ 364
      ∨ day - daysBefore (yearOfEra day) = 365
        ∧ isLeap (yearOfEra day + era * 400 + 1) = true := by
    rw [isLeap_iff]
    by_cases h : day - daysBefore (yearOfEra day) = 365
    · have hleap := leap_of_last h0 h1 h
      right
      omega
    · left
      omega
  have hmonth := monthDay hd0 hlast
  rw [dateOf_eq h0 h1]
  refine ⟨⟨hmonth.one_le_month, hmonth.month_le, hmonth.one_le_day,
    hmonth.day_le⟩, ?_⟩
  simp only
  rw [dayNumber_eq hy0 hy1, hmonth.sum]
  omega

/-- January and February end the year. -/
theorem monthOf_le_two_iff (h0 : 0 ≤ day) (h1 : day ≤ 365) :
    monthOf day ≤ 2 ↔ 306 ≤ day := by
  unfold monthOf
  simp only
  split <;> omega

/-- A time that there is lies in a year that there is. -/
theorem year_mem {seconds : Int} (h0 : firstSecond ≤ seconds)
    (h1 : seconds ≤ lastSecond) :
    firstYear ≤ (dateOf (seconds.fdiv 86400)).1
      ∧ (dateOf (seconds.fdiv 86400)).1 ≤ lastYear := by
  have hfirst : firstSecond = -8334601228800 := by decide
  have hlast : lastSecond = 8210266876799 := by decide
  rw [hfirst] at h0
  rw [hlast] at h1
  rw [Int.fdiv_eq_ediv_of_nonneg _ (by decide)]
  obtain ⟨era, day, hd0, hd1, heq⟩ := exists_era (seconds / 86400)
  obtain ⟨hy0, hy1⟩ := yearOfEra_mem hd0 hd1
  obtain ⟨hr0, hr1⟩ := dayOfYear_mem hd0 hd1
  have hmonth := monthOf_le_two_iff hr0 hr1
  rw [heq, dateOf_eq hd0 hd1]
  simp only [hmonth, firstYear, lastYear]
  unfold daysBefore at *
  generalize yearOfEra day = year at *
  -- only in the first and the last era the years are not all there
  have hera : era = -656 ∨ (-655 ≤ era ∧ era ≤ 654) ∨ era = 655 := by omega
  rcases hera with rfl | hera | rfl
  · split <;> omega
  · split <;> omega
  · split <;> omega

end NodeFlow.Timestamp
