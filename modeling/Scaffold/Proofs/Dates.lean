import Scaffold.Instant

/-!
# Dates of instants

The date that is made from a day number is one that the calendar has. The days on which there are
instants lie in the years that instants may have.

* `isValid_ofDayNumber`: every day number makes a date of the calendar.
* `year_ofDayNumber`: which years the days of instants lie in.
-/

namespace Scaffold.Calendar

/-! ### Days of a year and days of a month -/

theorem isLeap_eq_true_iff {year : Int} :
    isLeap year = true ↔ year % 4 = 0 ∧ (year % 100 ≠ 0 ∨ year % 400 = 0) := by
  simp [isLeap]

theorem isLeap_add_period (year period : Int) : isLeap (year + period * 400) = isLeap year := by
  have h₄ : (year + period * 400) % 4 = year % 4 := by omega
  have h₁₀₀ : (year + period * 400) % 100 = year % 100 := by omega
  have h₄₀₀ : (year + period * 400) % 400 = year % 400 := by omega
  rw [isLeap, isLeap, h₄, h₁₀₀, h₄₀₀]

/-- A year that begins in March has a 366th day only before a March of a leap year. -/
theorem isLeap_of_lastDay {d : Int} (h₀ : 0 ≤ d) (h₁ : d < 146097)
    (h : 365 ≤ d - daysBeforeYear (yearOfDay d)) : isLeap (yearOfDay d + 1) = true := by
  rw [isLeap_eq_true_iff]
  simp only [yearOfDay] at h ⊢
  rw [daysBeforeYear_eq (by omega) (by omega) (by omega) (by omega)] at h
  have hcentury : 0 ≤ min 3 (d / 36524) ∧ min 3 (d / 36524) ≤ 3 := by omega
  have hday : 0 ≤ d - min 3 (d / 36524) * 36524 ∧
      d - min 3 (d / 36524) * 36524 ≤ 36523 + min 3 (d / 36524) / 3 := by omega
  generalize min 3 (d / 36524) = century at *
  generalize heq : d - century * 36524 = day at *
  -- The year is the last of four, and all but one of the days of these four have passed.
  have hyear : min 3 ((day - day / 1461 * 1461) / 365) = 3 := by omega
  have hfour : day = day / 1461 * 1461 + 1460 := by omega
  rw [hyear]
  -- A century ends with the last four years only if it is the last one of its period.
  have hlast : day / 1461 < 24 ∨ day / 1461 = 24 ∧ century = 3 := by omega
  generalize day / 1461 = four at *
  rcases hlast with hlt | ⟨rfl, rfl⟩
  · omega
  · decide

/-- The days of a month do not exceed its length. -/
theorem day_le_daysInMonth {t : Int} (year : Int) (h₀ : 0 ≤ t) (h₁ : t ≤ 365)
    (h : 365 ≤ t → isLeap (year + 1) = true) :
    (t - daysBeforeMonth (monthOfDay t) + 1).toNat ≤
      daysInMonth (if monthAfterMarch (monthOfDay t) ≤ 2 then year + 1 else year)
        (monthAfterMarch (monthOfDay t)) := by
  obtain ⟨m₀, m₁⟩ := monthOfDay_bounds h₀ h₁
  have hm : monthOfDay t = (5 * t + 2) / 153 := rfl
  generalize monthOfDay t = m at *
  unfold daysBeforeMonth
  have hmonth : m = 0 ∨ m = 1 ∨ m = 2 ∨ m = 3 ∨ m = 4 ∨ m = 5 ∨ m = 6 ∨ m = 7 ∨ m = 8 ∨ m = 9 ∨
      m = 10 ∨ m = 11 := by omega
  rcases hmonth with
    rfl | rfl | rfl | rfl | rfl | rfl | rfl | rfl | rfl | rfl | rfl | rfl
  case inr.inr.inr.inr.inr.inr.inr.inr.inr.inr.inr =>
    -- February is the last month of the year, and its last day need not be there.
    change _ ≤ if isLeap (year + 1) = true then 29 else 28
    split
    · omega
    · next hshort =>
      have ht : t < 365 := Int.not_le.mp fun hlong => hshort (h hlong)
      omega
  all_goals
    simp only [monthAfterMarch, daysInMonth]
    simp
    omega

theorem monthAfterMarch_bounds {m : Int} (h₀ : 0 ≤ m) (h₁ : m ≤ 11) :
    1 ≤ monthAfterMarch m ∧ monthAfterMarch m ≤ 12 := by
  unfold monthAfterMarch
  split <;> omega

/-- Every day number makes a date of the calendar. -/
theorem isValid_ofDayNumber (n : Int) : (Date.ofDayNumber n).isValid = true := by
  have h₀ : 0 ≤ (n + epochOffset) % daysInPeriod := Int.emod_nonneg _ (by decide)
  have h₁ : (n + epochOffset) % daysInPeriod < 146097 := Int.emod_lt_of_pos _ (by decide)
  obtain ⟨t₀, t₁⟩ := dayOfYear_bounds h₀ h₁
  have hlast := isLeap_of_lastDay h₀ h₁
  unfold Date.ofDayNumber
  generalize (n + epochOffset) % daysInPeriod = d at *
  generalize (n + epochOffset) / daysInPeriod = period
  obtain ⟨m₀, m₁⟩ := monthOfDay_bounds t₀ t₁
  obtain ⟨hmonth₀, hmonth₁⟩ := monthAfterMarch_bounds m₀ m₁
  obtain ⟨hday₀, _⟩ := daysBeforeMonth_monthOfDay (d - daysBeforeYear (yearOfDay d))
  have hday := day_le_daysInMonth (yearOfDay d + period * 400) t₀ t₁ fun hle => by
    rw [Int.add_right_comm, isLeap_add_period]
    exact hlast hle
  simp only [Date.isValid, Bool.and_eq_true, decide_eq_true_eq]
  exact ⟨⟨⟨hmonth₀, hmonth₁⟩, by omega⟩, hday⟩

/-- Two digits are enough for the month and the day of a date of the calendar. -/
theorem Date.two_digits_of_isValid {d : Date} (h : d.isValid = true) :
    d.month < 100 ∧ d.day < 100 := by
  simp only [Date.isValid, Bool.and_eq_true, decide_eq_true_eq] at h
  obtain ⟨⟨⟨-, hmonth⟩, -⟩, hday⟩ := h
  have hlength : daysInMonth d.year d.month ≤ 31 := by
    unfold daysInMonth
    split
    · split <;> decide
    all_goals decide
  omega

/-! ### Years with instants -/

/-- The days on which there are instants lie in the years that instants may have. -/
theorem year_ofDayNumber {n : Int} (hfirst : (Date.mk firstYear 1 1).dayNumber ≤ n)
    (hlast : n ≤ (Date.mk lastYear 12 31).dayNumber) :
    firstYear ≤ (Date.ofDayNumber n).year ∧ (Date.ofDayNumber n).year ≤ lastYear := by
  have h₀ : 0 ≤ (n + epochOffset) % daysInPeriod := Int.emod_nonneg _ (by decide)
  have h₁ : (n + epochOffset) % daysInPeriod < 146097 := Int.emod_lt_of_pos _ (by decide)
  have hz := Int.mul_ediv_add_emod (n + epochOffset) daysInPeriod
  obtain ⟨y₀, y₁⟩ := yearOfDay_bounds h₀ h₁
  obtain ⟨t₀, t₁⟩ := dayOfYear_bounds h₀ h₁
  have hfirst' : (Date.mk firstYear 1 1).dayNumber = -96465292 := by decide
  have hlast' : (Date.mk lastYear 12 31).dayNumber = 95026236 := by decide
  rw [hfirst'] at hfirst
  rw [hlast'] at hlast
  have hmonth : ∀ t : Int, 0 ≤ t → t ≤ 365 → (monthAfterMarch (monthOfDay t) ≤ 2 ↔ 306 ≤ t) := by
    intro t _ _
    unfold monthAfterMarch monthOfDay
    split <;> omega
  unfold Date.ofDayNumber
  simp only [hmonth _ t₀ t₁, firstYear, lastYear]
  unfold daysBeforeYear epochOffset daysInPeriod at *
  generalize (n + 719468) % 146097 = d at *
  generalize (n + 719468) / 146097 = period at *
  generalize yearOfDay d = y at *
  -- Only the first period and the last one are not taken whole.
  have hperiod : period = -656 ∨ period = 655 ∨ -655 ≤ period ∧ period ≤ 654 := by omega
  rcases hperiod with rfl | rfl | ⟨_, _⟩
  · split <;> omega
  · split <;> omega
  · split <;> omega

end Scaffold.Calendar
