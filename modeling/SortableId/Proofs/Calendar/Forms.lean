import Mathlib
import SortableId.Calendar.DateTime
import SortableId.Proofs.Calendar.Gregorian

/-!
# Reading written times

Both written forms of a time in UTC can be read back. A reader takes one field after another off the
front of the text, each up to the mark that ends it: numbers of a fixed width, names of weekdays and
months, and a year of four digits or with a plus sign. The internet form has no weekday; there the
calendar gives it.
-/

namespace SortableId

namespace Decimal

/-- Reads a number of so many digits. -/
def fixed? (width : Nat) (text : List Char) : Option Nat :=
  if text.length = width then digits? text else none

/-- A padded number consists of digits. -/
theorem padded_digits (width value : Nat) : ∀ char ∈ (padded width value).toList,
    char.isDigit = true := by
  intro char mem
  rw [padded, String.toList_ofList, List.mem_append] at mem
  rcases mem with zero | digit
  · rw [List.eq_of_mem_replicate zero]
    rfl
  · exact Nat.isDigit_of_mem_toDigits (by decide) (by decide) digit

/-- So no other mark occurs in it. -/
theorem padded_noMark (width value : Nat) (mark : Char) (other : mark.isDigit = false) :
    mark ∉ (padded width value).toList := by
  intro mem
  rw [padded_digits width value mark mem] at other
  cases other

/-- Leading zeros do not change the value of a number. -/
theorem digits?_padded (width value : Nat) : digits? (padded width value).toList = some value := by
  have all := List.all_eq_true.mpr (padded_digits width value)
  have filled : (padded width value).toList.isEmpty = false := by
    rw [padded, String.toList_ofList, List.isEmpty_eq_false_iff]
    exact List.append_ne_nil_of_right_ne_nil _ Nat.toDigits_ne_nil
  have denoted : Nat.ofDigitChars 10 (padded width value).toList 0 = value := by
    rw [padded, String.toList_ofList, Nat.ofDigitChars_append, Nat.ofDigitChars_replicate_zero,
      Nat.mul_zero, Nat.ofDigitChars_ten_toDigits]
  rw [digits?, filled, all]
  exact congrArg some denoted

/-- A number that has no more digits than it is padded to has exactly these. -/
theorem length_padded (width value : Nat) (positive : 0 < width) (fits : value < 10 ^ width) :
    (padded width value).toList.length = width := by
  have short := (Nat.length_toDigits_le_iff (by decide) positive).mpr fits
  rw [padded, String.toList_ofList, List.length_append, List.length_replicate]
  omega

/-- It is read back. -/
theorem fixed?_padded (width value : Nat) (positive : 0 < width) (fits : value < 10 ^ width) :
    fixed? width (padded width value).toList = some value := by
  rw [fixed?, if_pos (length_padded width value positive fits), digits?_padded]

end Decimal

/-- A reader that takes its part off the front of a text. -/
abbrev Scan := StateT (List Char) Option

namespace Scan

variable {α β : Type}

/-- What stands before the next mark, and what follows it. -/
def upTo (mark : Char) : List Char → Option (List Char × List Char)
  | [] => none
  | char :: text =>
    if char = mark then some ([], text)
    else (upTo mark text).map fun cut => (char :: cut.1, cut.2)

/-- Reads what stands before the next mark, and takes off both. -/
def field (read : List Char → Option α) (mark : Char) : Scan α := fun text =>
  (upTo mark text).bind fun cut => (read cut.1).map fun value => (value, cut.2)

/-- Reads all that is left. -/
def remainder (read : List Char → Option α) : Scan α := fun text =>
  (read text).map fun value => (value, [])

/-- Reads a whole text. -/
def whole (scan : Scan α) (text : String) : Option α :=
  (scan.run text.toList).bind fun found => if found.2.isEmpty then some found.1 else none

/-- After one part the next one is read. -/
theorem bind_run {first : Scan α} {next : α → Scan β} {text rest : List Char} {value : α}
    (reads : first.run text = some (value, rest)) :
    (first >>= next).run text = (next value).run rest := by
  rw [StateT.run_bind, reads]
  rfl

/-- A text is cut at the first mark. -/
theorem upTo_append (mark : Char) (front rest : List Char) (outside : mark ∉ front) :
    upTo mark (front ++ mark :: rest) = some (front, rest) := by
  induction front with
  | nil => exact if_pos rfl
  | cons char front ih =>
    rw [List.mem_cons, not_or] at outside
    rw [List.cons_append, upTo, if_neg (Ne.symm outside.1), ih outside.2]
    rfl

/-- A field is read up to its mark. -/
theorem field_run (read : List Char → Option α) (mark : Char) (front rest : List Char) (value : α)
    (reads : read front = some value) (outside : mark ∉ front) :
    (field read mark).run (front ++ mark :: rest) = some (value, rest) := by
  change (upTo mark (front ++ mark :: rest)).bind _ = _
  rw [upTo_append mark front rest outside, Option.bind_some, reads]
  rfl

/-- A padded number is a field, as long as the mark is no digit. -/
theorem number_run (width value : Nat) (positive : 0 < width) (fits : value < 10 ^ width)
    (mark : Char) (other : mark.isDigit = false) (rest : List Char) :
    (field (Decimal.fixed? width) mark).run ((Decimal.padded width value).toList ++ mark :: rest) =
      some (value, rest) :=
  field_run _ mark _ rest value (Decimal.fixed?_padded width value positive fits)
    (Decimal.padded_noMark width value mark other)

end Scan

namespace DateTime

/-- A time that the calendar and a clock can show. -/
structure Valid (time : DateTime) : Prop where
  /-- The date names a day. -/
  date : time.date.Valid
  /-- The weekday is that of the date. -/
  weekday : time.weekday = Date.weekday time.date.toDays
  /-- A day has 24 hours. -/
  hour : time.hour < 24
  /-- An hour has 60 minutes. -/
  minute : time.minute < 60
  /-- A minute has 60 seconds. -/
  second : time.second < 60
  /-- A second has 1000 milliseconds. -/
  milli : time.milli < 1000

/-- What is shown at any millisecond is such a time. -/
theorem ofMillis_valid (zone : Zone) (ms : Int) : (ofMillis zone ms).Valid := by
  obtain ⟨valid, counted⟩ := Date.ofDays_spec ((ms + zone.ahead * 1000) / 86400000)
  refine ⟨valid, congrArg Date.weekday counted.symm, ?_, ?_, ?_, ?_⟩
  all_goals
    dsimp only [ofMillis]
    omega

/-- The millisecond at which a time is shown is the one that it is shown at. -/
theorem toMillis_ofMillis (zone : Zone) (ms : Int) : (ofMillis zone ms).toMillis = ms := by
  obtain ⟨-, counted⟩ := Date.ofDays_spec ((ms + zone.ahead * 1000) / 86400000)
  rw [toMillis, ofMillis]
  dsimp only
  rw [counted]
  omega

/-- Reads a year: four digits, or a plus sign and more. -/
def year? : List Char → Option Int
  | '+' :: text => (Decimal.digits? text).bind fun year => if 9999 < year then some year else none
  | text => (Decimal.fixed? 4 text).map Int.ofNat

/-- Reads the name of a weekday. -/
def weekday? (text : List Char) : Option (Fin 7) :=
  (List.finRange 7).find? fun weekday => weekdayNames[weekday].toList == text

/-- Reads the name of a month. -/
def month? (text : List Char) : Option Nat :=
  (monthNames.findIdx? fun name => name.toList == text).map (· + 1)

/-- Reads the name of universal time. -/
def utc? (text : List Char) : Option Zone := if text = ['U', 'T', 'C'] then some .utc else none

/-- Reads hours, minutes, seconds and milliseconds, up to the mark behind them. -/
def clock (mark : Char) : Scan (Nat × Nat × Nat × Nat) := do
  let hour ← Scan.field (Decimal.fixed? 2) ':'
  let minute ← Scan.field (Decimal.fixed? 2) ':'
  let second ← Scan.field (Decimal.fixed? 2) '.'
  let milli ← Scan.field (Decimal.fixed? 3) mark
  return (hour, minute, second, milli)

/-- Reads the form of internet timestamps in universal time. -/
def internet : Scan DateTime := do
  let year ← Scan.field year? '-'
  let month ← Scan.field (Decimal.fixed? 2) '-'
  let day ← Scan.field (Decimal.fixed? 2) 'T'
  let (hour, minute, second, milli) ← clock 'Z'
  let date : Date := ⟨year, month, day⟩
  return { date, weekday := Date.weekday date.toDays, hour, minute, second, milli, zone := .utc }

/-- Reads the long form in universal time. -/
def long : Scan DateTime := do
  let weekday ← Scan.field weekday? ' '
  let month ← Scan.field month? ' '
  let day ← Scan.field (Decimal.fixed? 2) ' '
  let (hour, minute, second, milli) ← clock ' '
  let zone ← Scan.field utc? ' '
  let year ← Scan.remainder year?
  return { date := ⟨year, month, day⟩, weekday, hour, minute, second, milli, zone }

/-- The time of day is read back. -/
theorem clock_run (time : DateTime) (valid : time.Valid) (mark : Char)
    (other : mark.isDigit = false) (rest : List Char) :
    (clock mark).run (time.clockText.toList ++ mark :: rest) =
      some ((time.hour, time.minute, time.second, time.milli), rest) := by
  obtain ⟨-, -, hour, minute, second, milli⟩ := valid
  have written : time.clockText.toList ++ mark :: rest =
      (Decimal.padded 2 time.hour).toList ++ ':' :: ((Decimal.padded 2 time.minute).toList ++
        ':' :: ((Decimal.padded 2 time.second).toList ++
          '.' :: ((Decimal.padded 3 time.milli).toList ++ mark :: rest))) := by
    simp [clockText]
  rw [written, clock, Scan.bind_run (Scan.number_run 2 time.hour (by decide) (by omega) ':' rfl _),
    Scan.bind_run (Scan.number_run 2 time.minute (by decide) (by omega) ':' rfl _),
    Scan.bind_run (Scan.number_run 2 time.second (by decide) (by omega) '.' rfl _),
    Scan.bind_run (Scan.number_run 3 time.milli (by decide) (by omega) mark other rest)]
  rfl

/-- A year from 0 on is read back. -/
theorem year?_yearText (year : Int) (positive : 0 ≤ year) :
    year? (yearText year).toList = some year := by
  obtain ⟨year, rfl⟩ := Int.eq_ofNat_of_zero_le positive
  rw [yearText, Int.natAbs_natCast]
  split
  · rename_i short
    have digits := Decimal.padded_noMark 4 year '+' rfl
    have read := Decimal.fixed?_padded 4 year (by decide) (by omega)
    rw [year?]
    · rw [read]
      rfl
    · intro text same
      rw [same] at digits
      exact digits List.mem_cons_self
  · rename_i long
    have sign : ¬ (year : Int) < 0 := by omega
    have above : 9999 < year := by omega
    rw [if_neg sign, String.toList_append]
    change year? ('+' :: (Decimal.padded 4 year).toList) = _
    rw [year?, Decimal.digits?_padded, Option.bind_some, if_pos above]

/-- A year from 0 on is written without a minus sign. -/
theorem yearText_noMinus (year : Int) (positive : 0 ≤ year) : '-' ∉ (yearText year).toList := by
  have digits := Decimal.padded_noMark 4 year.natAbs '-' rfl
  rw [yearText]
  split
  · exact digits
  · rw [if_neg (Int.not_lt.mpr positive), String.toList_append]
    simp [digits]

/-- The names of weekdays are read back. -/
theorem weekday?_name (weekday : Fin 7) :
    weekday? weekdayNames[weekday].toList = some weekday ∧ ' ' ∉ weekdayNames[weekday].toList := by
  decide +revert

/-- The names of months are read back. -/
theorem month?_name (month : Nat) (positive : 1 ≤ month) (twelve : month ≤ 12) :
    month? (monthName month).toList = some month ∧ ' ' ∉ (monthName month).toList := by
  interval_cases month <;> decide

/-- The form of internet timestamps is read back. -/
theorem internet_internetText (time : DateTime) (valid : time.Valid) (zone : time.zone = .utc)
    (year : 0 ≤ time.date.year) : internet.whole time.internetText = some time := by
  have monthPos := valid.date.month_pos
  have monthLe := valid.date.month_le
  have dayLe := valid.date.day_le_31
  have written : time.internetText.toList =
      (yearText time.date.year).toList ++ '-' :: ((Decimal.padded 2 time.date.month).toList ++
        '-' :: ((Decimal.padded 2 time.date.day).toList ++ 'T' :: (time.clockText.toList ++
          'Z' :: []))) := by
    simp [internetText, zone, Zone.mark, Zone.ahead]
  rw [Scan.whole, written, internet,
    Scan.bind_run (Scan.field_run _ '-' _ _ _ (year?_yearText _ year) (yearText_noMinus _ year)),
    Scan.bind_run (Scan.number_run 2 time.date.month (by decide) (by omega) '-' rfl _),
    Scan.bind_run (Scan.number_run 2 time.date.day (by decide) (by omega) 'T' rfl _),
    Scan.bind_run (clock_run time valid 'Z' rfl _)]
  have weekday := valid.weekday
  obtain ⟨date, weekday, hour, minute, second, milli, zone⟩ := time
  dsimp only at weekday zone
  rw [weekday, zone]
  rfl

/-- The long form is read back. -/
theorem long_longText (time : DateTime) (valid : time.Valid) (zone : time.zone = .utc)
    (year : 0 ≤ time.date.year) : long.whole time.longText = some time := by
  have dayLe := valid.date.day_le_31
  obtain ⟨weekday, weekdaySpace⟩ := weekday?_name time.weekday
  obtain ⟨month, monthSpace⟩ :=
    month?_name time.date.month valid.date.month_pos valid.date.month_le
  have written : time.longText.toList =
      weekdayNames[time.weekday].toList ++ ' ' :: ((monthName time.date.month).toList ++
        ' ' :: ((Decimal.padded 2 time.date.day).toList ++ ' ' :: (time.clockText.toList ++
          ' ' :: (['U', 'T', 'C'] ++ ' ' :: (yearText time.date.year).toList)))) := by
    simp [longText, zone, Zone.name]
  have last : (Scan.remainder year?).run (yearText time.date.year).toList =
      some (time.date.year, []) :=
    congrArg _ (year?_yearText _ year)
  rw [Scan.whole, written, long, Scan.bind_run (Scan.field_run _ ' ' _ _ _ weekday weekdaySpace),
    Scan.bind_run (Scan.field_run _ ' ' _ _ _ month monthSpace),
    Scan.bind_run (Scan.number_run 2 time.date.day (by decide) (by omega) ' ' rfl _),
    Scan.bind_run (clock_run time valid ' ' rfl _),
    Scan.bind_run (Scan.field_run utc? ' ' _ _ .utc rfl (by decide)), Scan.bind_run last, ← zone]
  rfl

end DateTime

end SortableId
