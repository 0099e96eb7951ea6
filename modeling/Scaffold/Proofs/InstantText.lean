import Scaffold.Proofs.Dates
import Scaffold.Proofs.Decimals

/-!
# Instants and their texts

The text of an instant is read as that instant, to the nanosecond, in every year and in leap
seconds.

* `part?_padded`, `year?_yearText`, `fraction?_fractionText`: the parts of the text, one by one.
* `atClock?_of_instant`: date and time of day make up the instant again.
* `ofText?_text`: the whole text.
-/

namespace Scaffold.Instant

open Text
open Calendar (Date)

/-! ### The parts of the text -/

theorem trimStart_padded (width n : Nat) (rest : List Char) :
    trimStart (padded width n ++ rest) = padded width n ++ rest := by
  obtain ⟨c, cs, h, hdigit⟩ := exists_padded width n
  rw [h]
  exact trimStart_cons (isBlank_of_isDigit hdigit) _

theorem part?_padded {n : Nat} (h : n < 100) (rest : List Char) :
    part? (padded 2 n ++ rest) = some (n, rest) := by
  have hlength := length_padded (by decide : 0 < 2) h
  rw [part?, trimStart_padded]
  exact number?_padded 2 rest (by unfold wordLimit; omega) (Nat.le_of_eq hlength) (.inl hlength)

theorem mark?_cons {c : Char} (h : isBlank c = false) (rest : List Char) :
    mark? c (c :: rest) = some rest := by
  simp [mark?, trimStart_cons h]

theorem year?_yearText {year : Int} (hlimit : year.natAbs < wordLimit) (rest : List Char) :
    year? (yearText year ++ '-' :: rest) = some (year, '-' :: rest) := by
  unfold yearText
  split
  case isTrue hfour =>
    obtain ⟨c, cs, h, hdigit⟩ := exists_padded 4 year.toNat
    have hminus : c ≠ '-' := by rintro rfl; cases hdigit
    have hplus : c ≠ '+' := by rintro rfl; cases hdigit
    have hlength := length_padded (n := year.toNat) (by decide : 0 < 4) (by omega)
    have hnumber := number?_padded 4 ('-' :: rest) (by omega) (Nat.le_of_eq hlength) (.inl hlength)
    rw [year?, trimStart_padded, h, List.cons_append]
    rw [h, List.cons_append] at hnumber
    split
    case h_1 hcons => exact absurd (List.cons.inj hcons).1 hminus
    case h_2 hcons => exact absurd (List.cons.inj hcons).1 hplus
    case h_3 =>
      simp only [hnumber, Option.map_some, Int.toNat_of_nonneg hfour.1]
  case isFalse hsigned =>
    -- The digits behind a sign are read up to the hyphen in front of the month.
    have hnumber := number?_padded (padded 4 year.natAbs ++ '-' :: rest).length
      ('-' :: rest) hlimit (by rw [List.length_append]; exact Nat.le_add_right _ _)
      (.inr fun c hc => by cases hc; rfl)
    split
    case isTrue hnegative =>
      rw [List.cons_append, year?, trimStart_cons (by decide)]
      simp only [hnumber, Option.map_some]
      rw [Int.ofNat_natAbs_of_nonpos (Int.le_of_lt hnegative), Int.neg_neg]
    case isFalse hpositive =>
      rw [List.cons_append, year?, trimStart_cons (by decide)]
      simp only [hnumber, Option.map_some]
      rw [Int.natAbs_of_nonneg (Int.not_lt.mp hpositive)]

/-- A fraction that is written with some digits is read as that many parts of a power of ten. -/
theorem fraction?_padded {width n : Nat} (hwidth : 0 < width) (hle : width ≤ 9)
    (hn : n < 10 ^ width) (rest : List Char) :
    fraction? ('.' :: padded width n ++ 'Z' :: rest) =
      some (n * Nat.pow 10 (9 - width), 'Z' :: rest) := by
  have hlength := length_padded hwidth hn
  have hlimit : n < wordLimit := by
    have hpower : 10 ^ width ≤ 10 ^ 9 := Nat.pow_le_pow_right (by decide) hle
    unfold wordLimit
    omega
  have hnumber := number?_padded 9 ('Z' :: rest) hlimit (hlength ▸ hle)
    (.inr fun c hc => by cases hc; rfl)
  simp [fraction?, hnumber, hlength]

theorem fraction?_fractionText {n : Nat} (h : n < nanosInSecond) (rest : List Char) :
    fraction? (fractionText n ++ 'Z' :: rest) = some (n, 'Z' :: rest) := by
  unfold nanosInSecond at h
  unfold fractionText
  split
  case isTrue hzero =>
    subst hzero
    rfl
  case isFalse =>
    split
    case isTrue hmillis =>
      rw [fraction?_padded (by decide) (by decide) (by omega)]
      have hvalue : n / 1000000 * Nat.pow 10 (9 - 3) = n :=
        Nat.div_mul_cancel (Nat.dvd_of_mod_eq_zero hmillis)
      rw [hvalue]
    case isFalse =>
      split
      case isTrue hmicros =>
        rw [fraction?_padded (by decide) (by decide) (by omega)]
        have hvalue : n / 1000 * Nat.pow 10 (9 - 6) = n :=
          Nat.div_mul_cancel (Nat.dvd_of_mod_eq_zero hmicros)
        rw [hvalue]
      case isFalse =>
        rw [fraction?_padded (by decide) (by decide) h]
        have hvalue : n * Nat.pow 10 (9 - 9) = n := Nat.mul_one n
        rw [hvalue]

/-! ### Date and time of day -/

/-- The date and the time of day of an instant make it up again. The second 60 gives the leap
second back. -/
theorem atClock?_of_instant (t : Instant) :
    atClock? (Date.ofDayNumber (t.seconds / secondsInDay))
      ((t.seconds % secondsInDay).toNat / 3600) ((t.seconds % secondsInDay).toNat / 60 % 60)
      ((t.seconds % secondsInDay).toNat % 60 + t.nanos / nanosInSecond)
      (t.nanos % nanosInSecond) 0 = some t := by
  obtain ⟨hfirst, hlast, hnanos, hleap⟩ := t.representable
  obtain ⟨hyear₀, hyear₁⟩ := Calendar.year_ofDayNumber hfirst hlast
  have hvalid := Calendar.isValid_ofDayNumber (t.seconds / secondsInDay)
  have hday := Calendar.dayNumber_ofDayNumber (t.seconds / secondsInDay)
  have hsplit := Int.mul_ediv_add_emod t.seconds secondsInDay
  have h₀ : 0 ≤ t.seconds % secondsInDay := Int.emod_nonneg _ (by decide)
  have h₁ : t.seconds % secondsInDay < 86400 := Int.emod_lt_of_pos _ (by decide)
  have hsecond : (t.seconds % secondsInDay).toNat % 60 = (t.seconds % 60).toNat := by
    unfold secondsInDay
    omega
  have hlast60 : nanosInSecond ≤ t.nanos → (t.seconds % secondsInDay).toNat % 60 = 59 := by
    intro hle
    rw [hsecond, hleap hle]
    rfl
  have heq := of?_eq_self t
  generalize Date.ofDayNumber (t.seconds / secondsInDay) = date at *
  generalize hs : (t.seconds % secondsInDay).toNat = s at *
  have hcarry : (s % 60 + t.nanos / nanosInSecond) / 60 = t.nanos / nanosInSecond := by
    unfold nanosInSecond at *
    omega
  have htime : isTimeOfDay (s / 3600) (s / 60 % 60) (s % 60 + t.nanos / nanosInSecond) = true := by
    simp only [isTimeOfDay, Bool.and_eq_true, decide_eq_true_eq]
    unfold nanosInSecond at *
    omega
  have hseconds : date.dayNumber * secondsInDay +
      (((s / 3600 : Nat) : Int) * 3600 + ((s / 60 % 60 : Nat) : Int) * 60 +
        (((s % 60 + t.nanos / nanosInSecond : Nat) : Int) -
          ((t.nanos / nanosInSecond : Nat) : Int))) - 0 = t.seconds := by
    rw [hday, Int.mul_comm]
    omega
  have hnanos' : t.nanos % nanosInSecond + t.nanos / nanosInSecond * nanosInSecond = t.nanos :=
    Nat.mod_add_div' _ _
  unfold atClock?
  rw [if_pos]
  · simp only [hcarry]
    rw [hseconds, hnanos', heq]
  · simp [hyear₀, hyear₁, hvalid, htime]

/-! ### The whole text -/

/-- The text of an instant is read as that instant. -/
theorem ofText?_text (t : Instant) : ofText? t.text = some t := by
  obtain ⟨hfirst, hlast, hnanos, -⟩ := t.representable
  obtain ⟨hyear₀, hyear₁⟩ := Calendar.year_ofDayNumber hfirst hlast
  have hvalid := Calendar.isValid_ofDayNumber (t.seconds / secondsInDay)
  have hclock := atClock?_of_instant t
  have hyear : (Date.ofDayNumber (t.seconds / secondsInDay)).year.natAbs < wordLimit := by
    unfold firstYear at hyear₀
    unfold lastYear at hyear₁
    unfold wordLimit
    omega
  obtain ⟨hmonth, hday⟩ := Date.two_digits_of_isValid hvalid
  have h₁ : t.seconds % secondsInDay < 86400 := Int.emod_lt_of_pos _ (by decide)
  have hfraction : t.nanos % nanosInSecond < nanosInSecond := Nat.mod_lt _ (by decide)
  unfold text
  generalize Date.ofDayNumber (t.seconds / secondsInDay) = date at *
  generalize hs : (t.seconds % secondsInDay).toNat = s at *
  have hhour : s / 3600 < 100 := by omega
  have hminute : s / 60 % 60 < 100 := by omega
  have hsecond : s % 60 + t.nanos / nanosInSecond < 100 := by
    unfold nanosInSecond at *
    omega
  have hdash (rest : List Char) : mark? '-' ('-' :: rest) = some rest := mark?_cons (by decide) rest
  have hcolon (rest : List Char) : mark? ':' (':' :: rest) = some rest :=
    mark?_cons (by decide) rest
  simp only [ofText?, String.toList_ofList, List.append_assoc, List.cons_append]
  refine Option.bind_eq_some_iff.mpr ⟨_, year?_yearText hyear _, ?_⟩
  refine Option.bind_eq_some_iff.mpr ⟨_, hdash _, ?_⟩
  refine Option.bind_eq_some_iff.mpr ⟨_, part?_padded hmonth _, ?_⟩
  refine Option.bind_eq_some_iff.mpr ⟨_, hdash _, ?_⟩
  refine Option.bind_eq_some_iff.mpr ⟨_, part?_padded hday _, ?_⟩
  refine Option.bind_eq_some_iff.mpr ⟨('T', _), rfl, ?_⟩
  refine Option.bind_eq_some_iff.mpr ⟨_, part?_padded hhour _, ?_⟩
  refine Option.bind_eq_some_iff.mpr ⟨_, hcolon _, ?_⟩
  refine Option.bind_eq_some_iff.mpr ⟨_, part?_padded hminute _, ?_⟩
  refine Option.bind_eq_some_iff.mpr ⟨_, hcolon _, ?_⟩
  refine Option.bind_eq_some_iff.mpr ⟨_, part?_padded hsecond _, ?_⟩
  refine Option.bind_eq_some_iff.mpr ⟨_, fraction?_fractionText hfraction _, ?_⟩
  exact hclock

end Scaffold.Instant
