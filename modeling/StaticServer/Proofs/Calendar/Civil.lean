import Mathlib.Tactic.SplitIfs
import StaticServer.Calendar.Civil

/-!
# Dates are dates

However far a day is from the start of 1970, its month is one of twelve and its day one of
thirty-one (`isDate_ofSeconds`). The years are counted from March, so that the day of the year is
all that these depend on; that it lies within a year is where the leap years come in
(`dayOfYear_bounds`).
-/

namespace StaticServer.Calendar

/-- The fields below the year are within their bounds. -/
structure DateTime.IsDate (d : DateTime) : Prop where
  /-- One of twelve months. -/
  month : 1 ≤ d.month ∧ d.month ≤ 12
  /-- One of the days that a month can have. -/
  day : 1 ≤ d.day ∧ d.day ≤ 31
  /-- One of the hours. -/
  hour : 0 ≤ d.hour ∧ d.hour ≤ 23
  /-- One of the minutes. -/
  minute : 0 ≤ d.minute ∧ d.minute ≤ 59
  /-- One of the seconds. -/
  second : 0 ≤ d.second ∧ d.second ≤ 59

/-- A day of 400 years, counted from 1 March, lies within the year that is told for it. -/
theorem dayOfYear_bounds {day year : Int} (hday : 0 ≤ day) (hera : day < 146097)
    (hyear : year = (day - day / 1460 + day / 36524 - day / 146096) / 365) :
    0 ≤ day - (365 * year + year / 4 - year / 100) ∧
      day - (365 * year + year / 4 - year / 100) ≤ 365 := by
  -- the years end with the centuries, of which the last has a day more
  have hcentury : year / 100 = day / 36524 - day / 146096 := by
    have hfive : day / 36524 = 0 ∨ day / 36524 = 1 ∨ day / 36524 = 2 ∨ day / 36524 = 3 ∨
        day / 36524 = 4 := by omega
    rcases hfive with h | h | h | h | h <;> omega
  have hle : year / 4 ≤ day / 1460 := by omega
  have hge : day / 1460 - 1 ≤ year / 4 := by omega
  omega

/-- The date of a day, told from the 400 years that it lies in and the day of these. -/
theorem civilOfDays_eq (days : Int) : ∃ era day year dayOfYear month : Int,
    era = (days + 719468) / 146097 ∧ day = (days + 719468) % 146097 ∧
    year = (day - day / 1460 + day / 36524 - day / 146096) / 365 ∧
    dayOfYear = day - (365 * year + year / 4 - year / 100) ∧ month = (5 * dayOfYear + 2) / 153 ∧
    civilOfDays days = (year + 400 * era + (if (if month < 10 then month + 3 else month - 9) ≤ 2
      then 1 else 0), if month < 10 then month + 3 else month - 9,
      dayOfYear - (153 * month + 2) / 5 + 1) := by
  have hfdiv : Int.fdiv (days + 719468) daysOfEra = (days + 719468) / 146097 :=
    Int.fdiv_eq_ediv_of_nonneg _ (by decide)
  have hfmod : Int.fmod (days + 719468) daysOfEra = (days + 719468) % 146097 :=
    Int.fmod_eq_emod_of_nonneg _ (by decide)
  refine ⟨_, _, _, _, _, rfl, rfl, rfl, rfl, rfl, ?_⟩
  simp only [civilOfDays, hfdiv, hfmod]

/-- The month and the day of a day counted from 1 January 1970. -/
theorem civilOfDays_bounds (days : Int) :
    (1 ≤ (civilOfDays days).2.1 ∧ (civilOfDays days).2.1 ≤ 12) ∧
      1 ≤ (civilOfDays days).2.2 ∧ (civilOfDays days).2.2 ≤ 31 := by
  obtain ⟨era, day, year, dayOfYear, month, -, hday, hyear, hdayOfYear, hmonth, heq⟩ :=
    civilOfDays_eq days
  have hbounds := dayOfYear_bounds (by omega) (by omega) hyear
  rw [← hdayOfYear] at hbounds
  have hmonths : 0 ≤ month ∧ month ≤ 11 := by omega
  rw [heq]
  refine ⟨?_, by dsimp only; omega⟩
  dsimp only
  split_ifs <;> omega

/-- The years that a date can show are not negative and not far beyond the last. -/
theorem year_bounds {days : Int} (hfirst : -719162 ≤ days) (hlast : days ≤ 2932896) :
    0 ≤ (civilOfDays days).1 ∧ (civilOfDays days).1 ≤ 10000 := by
  obtain ⟨era, day, year, dayOfYear, month, hera, hday, hyear, -, -, heq⟩ := civilOfDays_eq days
  have heras : 0 ≤ era ∧ era ≤ 24 := by omega
  have hyears : 0 ≤ year ∧ year ≤ 399 := by omega
  rw [heq]
  dsimp only
  split_ifs <;> omega

/-- **Every second has a date.** -/
theorem isDate_ofSeconds (seconds : Int) : (ofSeconds seconds).IsDate := by
  obtain ⟨hmonth, hday⟩ := civilOfDays_bounds (Int.fdiv seconds 86400)
  have hfmod : Int.fmod seconds 86400 = seconds % 86400 :=
    Int.fmod_eq_emod_of_nonneg _ (by decide)
  refine ⟨hmonth, hday, ?_, ?_, ?_⟩ <;> simp only [ofSeconds, hfmod] <;> omega

end StaticServer.Calendar
