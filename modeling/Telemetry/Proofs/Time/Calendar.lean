import Telemetry.Time.Calendar

/-!
# The calendar counts every day once

Every count of days is the count of its date (`Date.toDays_ofDays`), which is a date of the calendar
(`Date.isValid_ofDays`).

A count is taken apart into the years of 400, the year among them and the day of the year, which
begins in March. The year is found by leaving out the leap days that went by before it, one in four
years but for three of four centuries (`dayOfYear_bounds`).
-/

namespace Telemetry.Date

/-- The year that a day of 400 years falls into. -/
def yearOfEra (day : Int) : Int := (day - day / 1460 + day / 36524 - day / 146096) / 365

/-- The days since the year began. -/
def dayOfYear (day : Int) : Int :=
  day - (365 * yearOfEra day + yearOfEra day / 4 - yearOfEra day / 100)

/-- The month that a day of a year falls into, from March on. -/
def monthOfYear (day : Int) : Int := (5 * day + 2) / 153

/-- The date of a day of a year that begins in March. -/
def ofYear (year day : Int) : Date :=
  let month := monthOfYear day
  let dayOfMonth := day - (153 * month + 2) / 5 + 1
  if month < 10 then ⟨year, (month + 3).toNat, dayOfMonth.toNat⟩
  else ⟨year + 1, (month - 9).toNat, dayOfMonth.toNat⟩

theorem ofDays_eq (days : Int) : ofDays days =
    ofYear (yearOfEra ((days + epoch) % era) + (days + epoch) / era * 400)
      (dayOfYear ((days + epoch) % era)) := rfl

/-- A year has 365 days, and one more before a leap year begins. -/
theorem dayOfYear_bounds {day : Int} (h : 0 ≤ day) (hday : day < era) :
    0 ≤ yearOfEra day ∧ yearOfEra day ≤ 399 ∧ 0 ≤ dayOfYear day ∧ dayOfYear day ≤ 365 ∧
      (dayOfYear day = 365 →
        yearOfEra day % 4 = 3 ∧ (yearOfEra day % 100 ≠ 99 ∨ yearOfEra day = 399)) := by
  have hera : era = 146097 := rfl
  generalize hd : dayOfYear day = d
  generalize hy : yearOfEra day = y at *
  rw [dayOfYear, hy] at hd
  rw [yearOfEra] at hy
  by_cases hlast : day = 146096
  · subst hlast
    omega
  · have hlater : day / 146096 = 0 := by omega
    -- within a century every fourth year is a leap year
    have hcentury : day / 36524 = 0 ∨ day / 36524 = 1 ∨ day / 36524 = 2 ∨ day / 36524 = 3 := by omega
    have hyear : y % 4 = 0 ∨ y % 4 = 1 ∨ y % 4 = 2 ∨ y % 4 = 3 := by omega
    rcases hcentury with h | h | h | h
    · have : y / 100 = 0 := by omega
      rcases hyear with h' | h' | h' | h' <;> omega
    · have : y / 100 = 1 := by omega
      rcases hyear with h' | h' | h' | h' <;> omega
    · have : y / 100 = 2 := by omega
      rcases hyear with h' | h' | h' | h' <;> omega
    · have : y / 100 = 3 := by omega
      rcases hyear with h' | h' | h' | h' <;> omega

theorem emod_era_bounds (n : Int) : 0 ≤ n % era ∧ n % era < era :=
  ⟨Int.emod_nonneg n (by decide), Int.emod_lt_of_pos n (by decide)⟩

theorem toDays_ofYear {year day : Int} (hday : 0 ≤ day) (hday' : day ≤ 365) :
    (ofYear year day).toDays =
      year / 400 * era + (year % 400 * 365 + year % 400 / 4 - year % 400 / 100 + day) - epoch := by
  have hmonth : 0 ≤ monthOfYear day ∧ monthOfYear day ≤ 11 := by
    unfold monthOfYear
    omega
  have hfirst : (153 * monthOfYear day + 2) / 5 ≤ day := by
    unfold monthOfYear
    omega
  unfold ofYear
  generalize monthOfYear day = month at *
  unfold toDays
  dsimp only
  split
  · have hmarch : ¬ (month + 3).toNat ≤ 2 := by omega
    simp only [if_neg hmarch]
    have hback : ((month + 3).toNat : Int) - 3 = month := by omega
    have hdays : ((day - (153 * month + 2) / 5 + 1).toNat : Int) = day - (153 * month + 2) / 5 + 1 := by
      omega
    rw [hback, hdays]
    omega
  · have hmarch : (month - 9).toNat ≤ 2 := by omega
    simp only [if_pos hmarch]
    have hback : ((month - 9).toNat : Int) + 9 = month := by omega
    have hdays : ((day - (153 * month + 2) / 5 + 1).toNat : Int) = day - (153 * month + 2) / 5 + 1 := by
      omega
    rw [hback, hdays, Int.add_sub_cancel]
    omega

/-- **Every day has a date that it is the count of.** -/
theorem toDays_ofDays (days : Int) : (ofDays days).toDays = days := by
  obtain ⟨hday, hday'⟩ := emod_era_bounds (days + epoch)
  obtain ⟨hyear, hyear', hnonneg, hle, -⟩ := dayOfYear_bounds hday hday'
  have hsplit := Int.mul_ediv_add_emod (days + epoch) era
  have hyears : (yearOfEra ((days + epoch) % era) + (days + epoch) / era * 400) / 400 =
      (days + epoch) / era := by omega
  have hyearOf : (yearOfEra ((days + epoch) % era) + (days + epoch) / era * 400) % 400 =
      yearOfEra ((days + epoch) % era) := by omega
  rw [ofDays_eq, toDays_ofYear hnonneg hle, hyears, hyearOf, dayOfYear, Int.mul_comm _ era]
  omega

theorem isValid_ofYear {year day : Int} (hday : 0 ≤ day) (hday' : day ≤ 365)
    (hleap : day = 365 → isLeapYear (year + 1) = true) : (ofYear year day).isValid = true := by
  have hmonth : monthOfYear day = 0 ∨ monthOfYear day = 1 ∨ monthOfYear day = 2 ∨
      monthOfYear day = 3 ∨ monthOfYear day = 4 ∨ monthOfYear day = 5 ∨ monthOfYear day = 6 ∨
      monthOfYear day = 7 ∨ monthOfYear day = 8 ∨ monthOfYear day = 9 ∨ monthOfYear day = 10 ∨
      monthOfYear day = 11 := by
    unfold monthOfYear
    omega
  have hdays : (153 * monthOfYear day + 2) / 5 ≤ day ∧ day < (153 * (monthOfYear day + 1) + 2) / 5 := by
    unfold monthOfYear
    omega
  unfold ofYear isValid
  generalize monthOfYear day = month at *
  simp only [Bool.and_eq_true, decide_eq_true_eq]
  rcases hmonth with rfl | rfl | rfl | rfl | rfl | rfl | rfl | rfl | rfl | rfl | rfl | rfl
  case inr.inr.inr.inr.inr.inr.inr.inr.inr.inr.inr =>
    -- February has a day more in a leap year
    cases hyear : isLeapYear (year + 1) <;> simp [daysInMonth, hyear] at hleap ⊢ <;> omega
  all_goals
    simp [daysInMonth]
    omega

theorem isValid_ofDays (days : Int) : (ofDays days).isValid = true := by
  obtain ⟨hday, hday'⟩ := emod_era_bounds (days + epoch)
  obtain ⟨hyear, hyear', hnonneg, hle, hlast⟩ := dayOfYear_bounds hday hday'
  rw [ofDays_eq]
  refine isValid_ofYear hnonneg hle fun hday => ?_
  obtain ⟨hfour, hcentury⟩ := hlast hday
  simp only [isLeapYear, Bool.and_eq_true, Bool.or_eq_true, beq_iff_eq, bne_iff_ne]
  omega

theorem year_ofDays_bounds {days : Int} (h : (Date.mk (-262143) 1 1).toDays ≤ days)
    (h' : days ≤ (Date.mk 262142 12 31).toDays) :
    -262143 ≤ (ofDays days).year ∧ (ofDays days).year ≤ 262142 := by
  have hfirst : (Date.mk (-262143) 1 1).toDays = -96465292 := by decide
  have hlast : (Date.mk 262142 12 31).toDays = 95026236 := by decide
  have hepoch : epoch = 719468 := rfl
  have hera : era = 146097 := rfl
  obtain ⟨hday, hday'⟩ := emod_era_bounds (days + epoch)
  obtain ⟨hyear, hyear', hnonneg, hle, -⟩ := dayOfYear_bounds hday hday'
  have hsplit := Int.mul_ediv_add_emod (days + epoch) era
  have hdoy : (days + epoch) % era = 365 * yearOfEra ((days + epoch) % era) +
      yearOfEra ((days + epoch) % era) / 4 - yearOfEra ((days + epoch) % era) / 100 +
      dayOfYear ((days + epoch) % era) := by
    unfold dayOfYear
    omega
  rw [ofDays_eq]
  generalize yearOfEra ((days + epoch) % era) = year at *
  generalize dayOfYear ((days + epoch) % era) = day at *
  generalize (days + epoch) / era = eras at *
  generalize (days + epoch) % era = rest at *
  rw [hera] at hsplit
  -- only in the first and the last 400 years the year among them matters
  have heras : eras = -656 ∨ (-656 < eras ∧ eras < 655) ∨ eras = 655 := by omega
  have hfirst' : eras = -656 → year = 256 ∨ 256 < year := by omega
  have hlast' : eras = 655 → year = 142 ∨ year < 142 := by omega
  unfold ofYear monthOfYear
  dsimp only
  split <;> dsimp only <;> omega

end Telemetry.Date
