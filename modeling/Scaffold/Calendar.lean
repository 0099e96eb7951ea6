/-!
# The calendar

Dates of the Gregorian calendar, extended without end in both directions, and the count of days
from the first of January 1970. Years are counted astronomically: before the year 1 comes the
year 0.

The count goes by periods of 400 years, which all have 146097 days, and by years that begin in
March, so that the day that not every year has comes last.

* `dayNumber_ofDayNumber`: a date made from a day number has that day number.
-/

namespace Scaffold.Calendar

/-- A date. -/
structure Date where
  year : Int
  month : Nat
  day : Nat
  deriving DecidableEq, Repr

/-- Whether a year has a 29th of February. -/
def isLeap (year : Int) : Bool := year % 4 == 0 && (year % 100 != 0 || year % 400 == 0)

/-- The length of a month. -/
def daysInMonth (year : Int) (month : Nat) : Nat :=
  match month with
  | 2 => if isLeap year then 29 else 28
  | 4 | 6 | 9 | 11 => 30
  | _ => 31

/-- Whether the calendar has the date. -/
def Date.isValid (d : Date) : Bool :=
  1 ≤ d.month && d.month ≤ 12 && 1 ≤ d.day && d.day ≤ daysInMonth d.year d.month

/-- The number of days from the first of March of the year 0 to the first of January 1970. -/
def epochOffset : Int := 719468

/-- The number of days in 400 years. -/
def daysInPeriod : Int := 146097

/-- The number of months since March. -/
def monthsSinceMarch (month : Nat) : Int := if month ≤ 2 then month + 9 else month - 3

/-- The month that comes a number of months after March. -/
def monthAfterMarch (m : Int) : Nat := if m < 10 then (m + 3).toNat else (m - 9).toNat

/-- The number of days before a year that begins in March, from the beginning of its period. -/
def daysBeforeYear (yearOfPeriod : Int) : Int :=
  yearOfPeriod * 365 + yearOfPeriod / 4 - yearOfPeriod / 100

/-- The number of days before a month, from the beginning of March. -/
def daysBeforeMonth (m : Int) : Int := (153 * m + 2) / 5

/-- The number of days from the first of January 1970 to a date. -/
def Date.dayNumber (d : Date) : Int :=
  let year := if d.month ≤ 2 then d.year - 1 else d.year
  year / 400 * daysInPeriod + daysBeforeYear (year % 400) +
    daysBeforeMonth (monthsSinceMarch d.month) + (d.day - 1) - epochOffset

/-- The year of its period in which a day of the period lies. A period has four centuries and a
century has years in fours; the last century and the last of four years can be a day longer. -/
def yearOfDay (dayOfPeriod : Int) : Int :=
  let century := min 3 (dayOfPeriod / 36524)
  let dayOfCentury := dayOfPeriod - century * 36524
  let four := dayOfCentury / 1461
  let year := min 3 ((dayOfCentury - four * 1461) / 365)
  century * 100 + four * 4 + year

/-- The number of months since March when a day of the year comes. -/
def monthOfDay (dayOfYear : Int) : Int := (5 * dayOfYear + 2) / 153

/-- The date with a given day number. -/
def Date.ofDayNumber (n : Int) : Date :=
  let period := (n + epochOffset) / daysInPeriod
  let dayOfPeriod := (n + epochOffset) % daysInPeriod
  let yearOfPeriod := yearOfDay dayOfPeriod
  let dayOfYear := dayOfPeriod - daysBeforeYear yearOfPeriod
  let m := monthOfDay dayOfYear
  let year := yearOfPeriod + period * 400
  ⟨if monthAfterMarch m ≤ 2 then year + 1 else year, monthAfterMarch m,
    (dayOfYear - daysBeforeMonth m + 1).toNat⟩

theorem yearOfDay_bounds {d : Int} (h₀ : 0 ≤ d) (h₁ : d < 146097) :
    0 ≤ yearOfDay d ∧ yearOfDay d < 400 := by
  simp only [yearOfDay]; omega

theorem daysBeforeYear_eq {c q r : Int} (hq₀ : 0 ≤ q) (hq₁ : q ≤ 24) (hr₀ : 0 ≤ r)
    (hr₁ : r ≤ 3) :
    daysBeforeYear (c * 100 + q * 4 + r) = c * 36524 + q * 1461 + r * 365 := by
  unfold daysBeforeYear
  have e₁ : (c * 100 + q * 4 + r) / 4 = c * 25 + q := by omega
  have e₂ : (c * 100 + q * 4 + r) / 100 = c := by omega
  rw [e₁, e₂]; omega

theorem dayOfYear_bounds {d : Int} (h₀ : 0 ≤ d) (h₁ : d < 146097) :
    0 ≤ d - daysBeforeYear (yearOfDay d) ∧ d - daysBeforeYear (yearOfDay d) ≤ 365 := by
  simp only [yearOfDay]
  rw [daysBeforeYear_eq (by omega) (by omega) (by omega) (by omega)]
  omega

theorem monthOfDay_bounds {t : Int} (h₀ : 0 ≤ t) (h₁ : t ≤ 365) :
    0 ≤ monthOfDay t ∧ monthOfDay t ≤ 11 := by
  unfold monthOfDay; omega

theorem daysBeforeMonth_monthOfDay (t : Int) :
    0 ≤ t - daysBeforeMonth (monthOfDay t) ∧ t - daysBeforeMonth (monthOfDay t) ≤ 30 := by
  unfold daysBeforeMonth monthOfDay; omega

theorem monthsSinceMarch_monthAfterMarch {m : Int} (h₀ : 0 ≤ m) (h₁ : m ≤ 11) :
    monthsSinceMarch (monthAfterMarch m) = m := by
  unfold monthsSinceMarch monthAfterMarch
  split <;> split <;> omega

theorem year_of_march {month : Nat} (year : Int) :
    (if month ≤ 2 then (if month ≤ 2 then year + 1 else year) - 1
      else if month ≤ 2 then year + 1 else year) = year := by
  split <;> omega

theorem dayNumber_mk (year : Int) (month day : Nat) :
    (Date.mk year month day).dayNumber =
      (if month ≤ 2 then year - 1 else year) / 400 * daysInPeriod +
        daysBeforeYear ((if month ≤ 2 then year - 1 else year) % 400) +
        daysBeforeMonth (monthsSinceMarch month) + (day - 1) - epochOffset := rfl

/-- A date made from a day number has that day number. -/
theorem dayNumber_ofDayNumber (n : Int) : (Date.ofDayNumber n).dayNumber = n := by
  have h₀ : 0 ≤ (n + epochOffset) % daysInPeriod := Int.emod_nonneg _ (by decide)
  have h₁ : (n + epochOffset) % daysInPeriod < 146097 := Int.emod_lt_of_pos _ (by decide)
  have hz := Int.mul_ediv_add_emod (n + epochOffset) daysInPeriod
  obtain ⟨y₀, y₁⟩ := yearOfDay_bounds h₀ h₁
  obtain ⟨t₀, t₁⟩ := dayOfYear_bounds h₀ h₁
  obtain ⟨m₀, m₁⟩ := monthOfDay_bounds t₀ t₁
  obtain ⟨d₀, d₁⟩ := daysBeforeMonth_monthOfDay
    ((n + epochOffset) % daysInPeriod -
      daysBeforeYear (yearOfDay ((n + epochOffset) % daysInPeriod)))
  have hm := monthsSinceMarch_monthAfterMarch m₀ m₁
  have e₁ : ∀ y p : Int, 0 ≤ y → y < 400 → (y + p * 400) / 400 = p := by intros; omega
  have e₂ : ∀ y p : Int, 0 ≤ y → y < 400 → (y + p * 400) % 400 = y := by intros; omega
  rw [Date.ofDayNumber, dayNumber_mk, hm, year_of_march, e₁ _ _ y₀ y₁, e₂ _ _ y₀ y₁]
  rw [Int.mul_comm] at hz
  omega

end Scaffold.Calendar
