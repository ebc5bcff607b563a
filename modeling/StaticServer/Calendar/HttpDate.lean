import StaticServer.Calendar.Civil
import StaticServer.Text.Integer
import StaticServer.Text.LetterCase

/-!
# Dates in headers

`print` writes a date the one way it is written today, `Sun, 06 Nov 1994 08:49:37 GMT`.
`parse?` reads that form and the older ones that clients still send: the day's name may be
missing, day and month may change places and so may year and time, the date may be one word
with hyphens, the year may have two digits and the zone any text. The zone does not change
the result, and no field is checked against the calendar: two dates are compared field by
field.
-/

namespace StaticServer.Calendar

/-- The names of the days as they are written, from Monday. -/
def dayNames : List Text :=
  ["Mon", "Tue", "Wed", "Thu", "Fri", "Sat", "Sun"]

/-- The names of the months as they are written. -/
def monthNames : List Text :=
  ["Jan", "Feb", "Mar", "Apr", "May", "Jun", "Jul", "Aug", "Sep", "Oct", "Nov", "Dec"]

/-- The names of the months in full, in lower case. -/
def longMonthNames : List Text :=
  ["january", "february", "march", "april", "may", "june", "july", "august", "september",
    "october", "november", "december"]

/-- A number with at least `width` digits. -/
def padded (width : Nat) (n : Int) : Text :=
  Text.padZero width (Text.ofInt n)

namespace HttpDate

/-- The date and time of a second counted from the start of 1970, as headers show it. -/
def print (seconds : Int) : Text :=
  let d := ofSeconds seconds
  dayNames.getD (weekday (Int.fdiv seconds 86400)) [] ++ ", " ++ padded 2 d.day ++ ' ' ::
    monthNames.getD (d.month - 1).toNat [] ++ ' ' :: padded 4 d.year ++ ' ' ::
    padded 2 d.hour ++ ':' :: padded 2 d.minute ++ ':' :: padded 2 d.second ++ " GMT"

/-- The words of a date by what their place says they are. -/
structure Fields where
  /-- The day of the month. -/
  day : Text
  /-- The name of the month. -/
  month : Text
  /-- The year. -/
  year : Text
  /-- The time of day. -/
  time : Text
  /-- The zone, which may be empty. -/
  zone : Text

/-- The words of a date without the day's name, which ends in a comma, stands alone, or is
glued to the word behind it. -/
def dropDayName : List Text → List Text
  | [] => []
  | first :: rest =>
    if first.getLast? = some ',' || (dayNames.map Text.asciiLower).contains (Text.asciiLower first)
    then rest
    else match Text.cutLast ',' first with
      | some (_, day) => day :: rest
      | none => first :: rest

/-- A time of day with a zone glued to it: the sign starts the zone. -/
def splitZone (t : Text) : Text × Text :=
  let sign := if t.contains '+' then '+' else '-'
  match t.span (· != sign) with
  | ([], _) => (t, [])
  | (time, zone) => (time, zone)

/-- The five fields of a date, from its words. -/
def Fields.ofWords? (ws : List Text) : Option Fields :=
  match dropDayName ws with
  | [date, time, zone] =>
    match date.splitOn '-' with
    | [day, month, year] => some ⟨day, month, year, time, zone⟩
    | _ => none
  | [day, month, year, last] =>
    let (time, zone) := splitZone last
    some ⟨day, month, year, time, zone⟩
  | day :: month :: year :: time :: zone :: _ => some ⟨day, month, year, time, zone⟩
  | _ => none

/-- The number of a month, by its short or its full name. -/
def monthNumber? (t : Text) : Option Nat :=
  let name := Text.asciiLower t
  match (monthNames.map Text.asciiLower).idxOf? name, longMonthNames.idxOf? name with
  | some i, _ => some (i + 1)
  | none, some i => some (i + 1)
  | none, none => none

/-- A word without one comma at its end. -/
def dropComma (t : Text) : Text :=
  if t.getLast? = some ',' then t.dropLast else t

/-- Does a word start with a digit? The raised digits count. -/
def startsWithDigit (t : Text) : Bool :=
  match t with
  | [] => false
  | c :: _ => Text.isDigit c || c = '\u00B2' || c = '\u00B3' || c = '\u00B9'

/-- The hour, minute and second of a time of day, which may lack the second and may have
points in place of colons. -/
def splitTime (t : Text) : Option (Text × Text × Text) :=
  match t.splitOn ':' with
  | [hour, minute] => some (hour, minute, "0")
  | [hour, minute, second] => some (hour, minute, second)
  | [_] =>
    match t.splitOn '.' with
    | [hour, minute] => some (hour, minute, "0")
    | [hour, minute, second] => some (hour, minute, second)
    | _ => none
  | _ => none

/-- A year with two digits is one of the years 1969 to 2068. -/
def fullYear (year : Int) : Int :=
  if 100 ≤ year then year else if 68 < year then year + 1900 else year + 2000

/-- The fields with day and month in their places, and the number of the month. -/
def Fields.orderMonth (f : Fields) : Option (Fields × Nat) :=
  match monthNumber? f.month, monthNumber? f.day with
  | some n, _ => some (f, n)
  | none, some n => some ({ f with day := f.month, month := f.day }, n)
  | none, none => none

/-- The fields with year, time and zone in their places: a word with a colon behind its
first character is the time, and a word that does not start with a digit is no year. A comma
alone is no word at all. -/
def Fields.orderYear (f : Fields) : Option Fields :=
  let swapped := (f.year.drop 1).contains ':' && f.year.head? != some ':'
  let year := dropComma (if swapped then f.time else f.year)
  let time := if swapped then f.year else f.time
  if year.isEmpty then none
  else if startsWithDigit year then some { f with year := year, time := time }
  else some { f with year := f.zone, time := time, zone := year }

/-- Reads a date. -/
def parse? (t : Text) : Option DateTime := do
  let f ← Fields.ofWords? (Text.words t)
  if f.day.isEmpty || f.month.isEmpty || f.year.isEmpty then none
  let (f, month) ← f.orderMonth
  let f ← f.orderYear
  let (hour, minute, second) ← splitTime (dropComma f.time)
  let year ← Text.toInt? f.year
  let day ← Text.toInt? (dropComma f.day)
  let hour ← Text.toInt? hour
  let minute ← Text.toInt? minute
  let second ← Text.toInt? second
  some ⟨fullYear year, month, day, hour, minute, second⟩

end HttpDate

namespace DateTime

/-- The fields from the year down to the second. -/
def fields (d : DateTime) : List Int :=
  [d.year, d.month, d.day, d.hour, d.minute, d.second]

/-- Is a date the same as another or later, comparing field by field from the year down? -/
def notBefore (d e : DateTime) : Bool :=
  !(List.lex d.fields e.fields (fun x y ↦ decide (x < y)))

end DateTime

end StaticServer.Calendar
