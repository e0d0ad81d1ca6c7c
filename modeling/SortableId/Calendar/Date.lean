/-!
# Dates

The Gregorian calendar, extended to all years, before its introduction too. `Date.ofDays` splits a
count of days into cycles of 400, 100, 4 and single years and then into months; `Date.toDays` counts
the days before a date from the leap rule alone. Days are counted from the start of 1970.
-/

namespace SortableId

/-- A day of the calendar. -/
structure Date where
  /-- The year, which may be zero or negative. -/
  year : Int
  /-- The month, from 1. -/
  month : Nat
  /-- The day of the month, from 1. -/
  day : Nat
  deriving DecidableEq, Repr

namespace Date

/-- Every fourth year is a leap year, but of the full centuries only every fourth. -/
def isLeapYear (year : Int) : Bool :=
  year % 4 = 0 ∧ (year % 100 ≠ 0 ∨ year % 400 = 0)

/-- The lengths of the months of a year. -/
def monthLengths (year : Int) : List Nat :=
  [31, if isLeapYear year then 29 else 28, 31, 30, 31, 30, 31, 31, 30, 31, 30, 31]

/-- The month and the day in it, both from 1, of a day counted from the first of these months. -/
def inMonths : List Nat → Nat → Nat × Nat
  | [], day => (1, day + 1)
  | length :: rest, day =>
    if day < length then (1, day + 1)
    else
      let (month, day) := inMonths rest (day - length)
      (month + 1, day)

/-- The days from the first day of year 1 to the first day of 1970. -/
def daysBefore1970 : Int := 719162

/-- The days from the first day of year 1 to the first day of a year. -/
def daysBeforeYear (year : Int) : Int :=
  let past := year - 1
  365 * past + past / 4 - past / 100 + past / 400

/-- The date a number of days after the start of 1970. -/
def ofDays (days : Int) : Date :=
  let days := days + daysBefore1970
  let rest := (days % 146097).toNat
  let century := min (rest / 36524) 3
  let rest := rest - century * 36524
  let leap := rest / 1461
  let rest := rest % 1461
  let single := min (rest / 365) 3
  let rest := rest - single * 365
  let year := 400 * (days / 146097) + 100 * century + 4 * leap + single + 1
  let (month, day) := inMonths (monthLengths year) rest
  ⟨year, month, day⟩

/-- The days from the first day of a year to the first day of a month. -/
def daysBeforeMonth (year : Int) (month : Nat) : Nat :=
  ((monthLengths year).take (month - 1)).foldl (· + ·) 0

/-- The days from the start of 1970 to a date. -/
def toDays (date : Date) : Int :=
  daysBeforeYear date.year - daysBefore1970
    + daysBeforeMonth date.year date.month + date.day - 1

/-- The weekday of a day counted from the start of 1970, from Sunday as 0. The first was a
Thursday. -/
def weekday (days : Int) : Fin 7 := ⟨((days + 4) % 7).toNat, by omega⟩

end Date

end SortableId
