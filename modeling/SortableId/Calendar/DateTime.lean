import SortableId.Calendar.Date
import SortableId.Calendar.Zone

/-!
# Calendar times

A millisecond shown by the calendar and the clocks of a zone, and its written forms: the long form
with weekday and zone, and the form of internet timestamps. Years above 9999 carry a plus sign.
-/

namespace SortableId

/-- A date and a time of day on the clocks of a zone. -/
structure DateTime where
  /-- The date. -/
  date : Date
  /-- The weekday, from Sunday as 0. -/
  weekday : Fin 7
  /-- The hour, below 24. -/
  hour : Nat
  /-- The minute, below 60. -/
  minute : Nat
  /-- The second, below 60. -/
  second : Nat
  /-- The millisecond of the second. -/
  milli : Nat
  /-- The zone whose clocks show this. -/
  zone : Zone
  deriving DecidableEq, Repr

namespace DateTime

/-- The first year that can be shown. -/
def firstYear : Int := -262143

/-- The last year that can be shown. -/
def lastYear : Int := 262142

/-- Whether the year of this millisecond can be shown. -/
def inRange (ms : Int) : Bool :=
  let year := (Date.ofDays (ms / 86400000)).year
  firstYear ≤ year ∧ year ≤ lastYear

/-- What the clocks of a zone show a number of milliseconds after the start of 1970. -/
def ofMillis (zone : Zone) (ms : Int) : DateTime :=
  let shown := ms + zone.ahead * 1000
  let days := shown / 86400000
  let rest := (shown % 86400000).toNat
  { date := Date.ofDays days
    weekday := Date.weekday days
    hour := rest / 3600000
    minute := rest / 60000 % 60
    second := rest / 1000 % 60
    milli := rest % 1000
    zone }

/-- The milliseconds since the start of 1970 when the clocks of the zone show this. -/
def toMillis (time : DateTime) : Int :=
  ((time.date.toDays * 24 + time.hour) * 60 + time.minute) * 60000 + time.second * 1000
    + time.milli - time.zone.ahead * 1000

/-- The names of the weekdays. -/
def weekdayNames : Vector String 7 := #v["Sun", "Mon", "Tue", "Wed", "Thu", "Fri", "Sat"]

/-- The names of the months. -/
def monthNames : List String :=
  ["Jan", "Feb", "Mar", "Apr", "May", "Jun", "Jul", "Aug", "Sep", "Oct", "Nov", "Dec"]

/-- The name of a month. -/
def monthName (month : Nat) : String := monthNames[month - 1]?.getD ""

/-- A year in at least four digits, with a sign outside 0 to 9999. -/
def yearText (year : Int) : String :=
  let digits := Decimal.padded 4 year.natAbs
  if 0 ≤ year ∧ year ≤ 9999 then digits else (if year < 0 then "-" else "+") ++ digits

/-- Hours, minutes, seconds and milliseconds. -/
def clockText (time : DateTime) : String :=
  Decimal.padded 2 time.hour ++ ":" ++ Decimal.padded 2 time.minute ++ ":"
    ++ Decimal.padded 2 time.second ++ "." ++ Decimal.padded 3 time.milli

/-- The long form: weekday, month, day, time of day, zone, year. -/
def longText (time : DateTime) : String :=
  " ".intercalate [weekdayNames[time.weekday], monthName time.date.month,
    Decimal.padded 2 time.date.day, time.clockText, time.zone.name, yearText time.date.year]

/-- The form of internet timestamps. -/
def internetText (time : DateTime) : String :=
  yearText time.date.year ++ "-" ++ Decimal.padded 2 time.date.month ++ "-"
    ++ Decimal.padded 2 time.date.day ++ "T" ++ time.clockText ++ time.zone.mark

end DateTime

end SortableId
