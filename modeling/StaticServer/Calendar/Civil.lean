/-!
# Calendar dates

Days counted from 1 January 1970 and the dates of the Gregorian calendar, carried on before
its introduction. Years are counted from 1 March, so that the leap day is the last of its
year and the months have a fixed pattern.
-/

namespace StaticServer.Calendar

/-- A date and a time of day. -/
structure DateTime where
  /-- The year. -/
  year : Int
  /-- The month, from 1. -/
  month : Int
  /-- The day of the month, from 1. -/
  day : Int
  /-- The hour, from 0. -/
  hour : Int
  /-- The minute, from 0. -/
  minute : Int
  /-- The second, from 0. -/
  second : Int
  deriving Repr, DecidableEq

/-- Days in 400 years. -/
def daysOfEra : Int :=
  146097

/-- The year, month and day of a day counted from 1 January 1970. -/
def civilOfDays (days : Int) : Int × Int × Int :=
  -- days from 1 March of the year 0
  let shifted := days + 719468
  let era := Int.fdiv shifted daysOfEra
  let dayOfEra := Int.fmod shifted daysOfEra
  let yearOfEra := (dayOfEra - dayOfEra / 1460 + dayOfEra / 36524 - dayOfEra / 146096) / 365
  let dayOfYear := dayOfEra - (365 * yearOfEra + yearOfEra / 4 - yearOfEra / 100)
  let monthFromMarch := (5 * dayOfYear + 2) / 153
  let day := dayOfYear - (153 * monthFromMarch + 2) / 5 + 1
  let month := if monthFromMarch < 10 then monthFromMarch + 3 else monthFromMarch - 9
  (yearOfEra + 400 * era + (if month ≤ 2 then 1 else 0), month, day)

/-- The day of the week of a day counted from 1 January 1970, Monday being 0. -/
def weekday (days : Int) : Nat :=
  (Int.fmod (days + 3) 7).toNat

/-- The date and time of a second counted from the start of 1970. -/
def ofSeconds (seconds : Int) : DateTime :=
  let days := Int.fdiv seconds 86400
  let rest := Int.fmod seconds 86400
  let (year, month, day) := civilOfDays days
  ⟨year, month, day, rest / 3600, rest % 3600 / 60, rest % 60⟩

end StaticServer.Calendar
