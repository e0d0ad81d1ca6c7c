import Mathlib
import SortableId.Calendar.Date

/-!
# The Gregorian calendar

A day has one date: the one that is counted as this day by the leap rule and the lengths of the
months. The cycles of 400, 100, 4 and single years that `Date.ofDays` takes off find it, whatever
the day. So the days follow each other in the way that a calendar has them: the next date is the
next day of the month, or the first day of the next month or year, and the next weekday has its
turn.
-/

namespace SortableId

namespace Date

/-! ## Years -/

/-- The number of days of a year. -/
def yearLength (year : Int) : Nat := if isLeapYear year then 366 else 365

/-- The lengths of the months add up to that of the year. -/
theorem sum_monthLengths (year : Int) : (monthLengths year).sum = yearLength year := by
  rw [monthLengths, yearLength]
  cases isLeapYear year <;> rfl

/-- A year begins when the one before it is over. -/
theorem daysBeforeYear_succ (year : Int) :
    daysBeforeYear (year + 1) = daysBeforeYear year + yearLength year := by
  rw [daysBeforeYear, daysBeforeYear, yearLength]
  by_cases leap : isLeapYear year = true
  · rw [if_pos leap]
    rw [isLeapYear, decide_eq_true_iff] at leap
    omega
  · rw [if_neg leap]
    rw [isLeapYear, decide_eq_true_iff] at leap
    omega

/-- Later years begin later. -/
theorem daysBeforeYear_mono {first second : Int} (ordered : first ≤ second) :
    daysBeforeYear first ≤ daysBeforeYear second := by
  rw [daysBeforeYear, daysBeforeYear]
  omega

/-- A day is the one after `rest` others of a year. -/
structure InYear (days year : Int) (rest : Nat) : Prop where
  /-- Its year is long enough. -/
  inside : rest < yearLength year
  /-- It is counted from the first day of the year. -/
  counted : daysBeforeYear year + rest = days + daysBefore1970

/-- A day is in no two years. -/
theorem InYear.unique {days first second : Int} {rest other : Nat} (left : InYear days first rest)
    (right : InYear days second other) : first = second ∧ rest = other := by
  have notBefore {first second : Int} {rest other : Nat} (left : InYear days first rest)
      (right : InYear days second other) : second ≤ first := by
    by_contra later
    have ended := daysBeforeYear_succ first
    have begun := daysBeforeYear_mono (Int.add_one_le_of_lt (Int.not_le.mp later))
    have inside := left.inside
    have counted := left.counted
    have counted' := right.counted
    omega
  obtain rfl : first = second := Int.le_antisymm (notBefore right left) (notBefore left right)
  have counted := left.counted
  have counted' := right.counted
  exact ⟨rfl, by omega⟩

/-- The first day of a year that is counted in cycles of 400, 100, 4 and single years. -/
theorem daysBeforeYear_of_cycles (cycles : Int) {century leap single : Nat}
    (centuries : century ≤ 3) (leaps : leap ≤ 24) (singles : single ≤ 3) :
    daysBeforeYear (400 * cycles + 100 * century + 4 * leap + single + 1) =
      146097 * cycles + 36524 * century + 1461 * leap + 365 * single := by
  generalize counted : 400 * cycles + 100 * century + 4 * leap + single + 1 = year
  have fours : (year - 1) / 4 = 100 * cycles + 25 * century + leap := by omega
  have hundreds : (year - 1) / 100 = 4 * cycles + century := by omega
  have full : (year - 1) / 400 = cycles := by omega
  rw [daysBeforeYear, fours, hundreds, full]
  omega

/-- Such a year is a leap year if it is the last of its four, but the last of its hundred only if it
is the last of its 400. -/
theorem isLeapYear_of_cycles (cycles : Int) {century leap single : Nat} (centuries : century ≤ 3)
    (leaps : leap ≤ 24) (singles : single ≤ 3) :
    isLeapYear (400 * cycles + 100 * century + 4 * leap + single + 1) = true ↔
      single = 3 ∧ (leap = 24 → century = 3) := by
  rw [isLeapYear, decide_eq_true_iff]
  omega

/-- The cycles and single years that are over on a day of a cycle of 400 years, and the days left of
its year. There are 365 others at most, and only in a leap year. -/
theorem cycles_of_rest (rest : Nat) (inside : rest < 146097) :
    let century := min (rest / 36524) 3
    let inCentury := rest - century * 36524
    let leap := inCentury / 1461
    let single := min (inCentury % 1461 / 365) 3
    let inYear := inCentury % 1461 - single * 365
    century ≤ 3 ∧ leap ≤ 24 ∧ single ≤ 3 ∧
      rest = 36524 * century + 1461 * leap + 365 * single + inYear ∧
      (inYear < 365 ∨ inYear = 365 ∧ single = 3 ∧ (leap = 24 → century = 3)) := by
  intro century inCentury leap single inYear
  have centuries : century ≤ 3 := Nat.min_le_right _ _
  have first : rest = 36524 * century + inCentury ∧
      (inCentury < 36524 ∨ inCentury = 36524 ∧ century = 3) := by
    omega
  have second : inCentury = 1461 * leap + inCentury % 1461 := (Nat.div_add_mod _ _).symm
  have fours : inCentury % 1461 < 1461 := Nat.mod_lt _ (by decide)
  have third : inCentury % 1461 = 365 * single + inYear ∧
      (inYear < 365 ∨ inYear = 365 ∧ single = 3) := by
    omega
  have singles : single ≤ 3 := Nat.min_le_right _ _
  clear_value century inCentury leap single inYear
  omega

/-- Cycles of 400, 100, 4 and single years lead to the year of a day. -/
theorem exists_ofDays (days : Int) : ∃ year rest, InYear days year rest ∧
    ofDays days = ⟨year, (inMonths (monthLengths year) rest).1,
      (inMonths (monthLengths year) rest).2⟩ := by
  refine ⟨_, _, ?_, rfl⟩
  have split : days + daysBefore1970 = 146097 * ((days + daysBefore1970) / 146097) +
      ((days + daysBefore1970) % 146097).toNat := by
    omega
  have inside : ((days + daysBefore1970) % 146097).toNat < 146097 := by omega
  generalize (days + daysBefore1970) / 146097 = cycles at split ⊢
  generalize ((days + daysBefore1970) % 146097).toNat = rest at split inside ⊢
  obtain ⟨centuries, leaps, singles, counted, short⟩ := cycles_of_rest rest inside
  constructor
  · rw [yearLength]
    split
    · omega
    · rename_i common
      rw [isLeapYear_of_cycles cycles centuries leaps singles] at common
      omega
  · rw [daysBeforeYear_of_cycles cycles centuries leaps singles]
    omega

/-- The year of a day is within 400 of the start of its cycle of 400 years. -/
theorem year_ofDays (days : Int) :
    let cycles := (days + daysBefore1970) / 146097
    400 * cycles + 1 ≤ (ofDays days).year ∧ (ofDays days).year ≤ 400 * cycles + 400 := by
  intro cycles
  have day : ((days + daysBefore1970) % 146097).toNat < 146097 := by omega
  unfold ofDays
  dsimp only
  generalize ((days + daysBefore1970) % 146097).toNat = rest at day
  omega

/-! ## Months -/

/-- The number of days of a month, none for a number that is no month. -/
def monthLength (year : Int) (month : Nat) : Nat := (monthLengths year).getD (month - 1) 0

/-- A month has 28 to 31 days. -/
theorem monthLength_bounds (year : Int) (month : Nat) (positive : 1 ≤ month) (twelve : month ≤ 12) :
    28 ≤ monthLength year month ∧ monthLength year month ≤ 31 := by
  have inside : month - 1 < (monthLengths year).length := by
    change month - 1 < 12
    omega
  have all : ∀ length ∈ monthLengths year, 28 ≤ length ∧ length ≤ 31 := by
    rw [monthLengths]
    cases isLeapYear year <;> decide
  rw [monthLength, List.getD_eq_getElem _ _ inside]
  exact all _ (List.getElem_mem inside)

/-- The days of a list of months that are over are skipped. -/
theorem inMonths_skip (lengths : List Nat) (month day : Nat) (inside : day < lengths.getD month 0) :
    inMonths lengths ((lengths.take month).sum + day) = (month + 1, day + 1) := by
  induction lengths generalizing month with
  | nil => exact absurd inside (Nat.not_lt_zero day)
  | cons length rest ih =>
    cases month with
    | zero =>
      have first : day < length := inside
      rw [List.take_zero, List.sum_nil, Nat.zero_add, inMonths, if_pos first]
    | succ month =>
      have later := ih month inside
      rw [List.take_succ_cons, List.sum_cons, Nat.add_assoc, inMonths, if_neg (by omega),
        Nat.add_sub_cancel_left, later]

/-- Every day of a list of months is in one of them. -/
theorem exists_month (lengths : List Nat) (rest : Nat) (inside : rest < lengths.sum) :
    ∃ month day, day < lengths.getD month 0 ∧ rest = (lengths.take month).sum + day := by
  induction lengths generalizing rest with
  | nil => exact absurd inside (Nat.not_lt_zero rest)
  | cons length lengths ih =>
    by_cases first : rest < length
    · exact ⟨0, rest, first, by rw [List.take_zero, List.sum_nil, Nat.zero_add]⟩
    · rw [List.sum_cons] at inside
      obtain ⟨month, day, later, counted⟩ := ih (rest - length) (by omega)
      refine ⟨month + 1, day, later, ?_⟩
      rw [List.take_succ_cons, List.sum_cons]
      omega

/-- A day of one of the months is a day of all of them. -/
theorem inside_of_month (lengths : List Nat) (month day : Nat)
    (inside : day < lengths.getD month 0) :
    (lengths.take month).sum + day < lengths.sum := by
  induction lengths generalizing month with
  | nil => exact absurd inside (Nat.not_lt_zero day)
  | cons length lengths ih =>
    cases month with
    | zero =>
      have first : day < length := inside
      rw [List.take_zero, List.sum_nil, List.sum_cons]
      omega
    | succ month =>
      have later := ih month inside
      rw [List.take_succ_cons, List.sum_cons, List.sum_cons]
      omega

/-- A date names a day of the calendar. -/
structure Valid (date : Date) : Prop where
  /-- Months are counted from 1. -/
  month_pos : 1 ≤ date.month
  /-- Days are counted from 1. -/
  day_pos : 1 ≤ date.day
  /-- The month has this day. -/
  day_le : date.day ≤ monthLength date.year date.month

/-- There are twelve months. -/
theorem Valid.month_le {date : Date} (valid : date.Valid) : date.month ≤ 12 := by
  have positive := valid.day_pos
  have inside := valid.day_le
  by_contra late
  have none : monthLength date.year date.month = 0 := by
    apply List.getD_eq_default
    change 12 ≤ date.month - 1
    omega
  omega

/-- They have 31 days at most. -/
theorem Valid.day_le_31 {date : Date} (valid : date.Valid) : date.day ≤ 31 :=
  valid.day_le.trans (monthLength_bounds _ _ valid.month_pos valid.month_le).2

/-- Every month has a first day. -/
theorem valid_first (year : Int) (month : Nat) (positive : 1 ≤ month) (twelve : month ≤ 12) :
    Valid ⟨year, month, 1⟩ := by
  have long := (monthLength_bounds year month positive twelve).1
  exact ⟨positive, Nat.le_refl 1, by dsimp only; omega⟩

/-- The days before a month are those of the months before it. -/
theorem daysBeforeMonth_eq (year : Int) (month : Nat) :
    daysBeforeMonth year month = ((monthLengths year).take (month - 1)).sum :=
  List.sum_eq_foldl.symm

/-- A month begins when the one before it is over. -/
theorem daysBeforeMonth_succ (year : Int) (month : Nat) (positive : 1 ≤ month)
    (twelve : month ≤ 12) :
    daysBeforeMonth year (month + 1) = daysBeforeMonth year month + monthLength year month := by
  have inside : month - 1 < (monthLengths year).length := by
    change month - 1 < 12
    omega
  have step : month + 1 - 1 = month - 1 + 1 := by omega
  rw [daysBeforeMonth_eq, daysBeforeMonth_eq, monthLength, step, List.sum_take_succ _ _ inside,
    List.getD_eq_getElem _ _ inside]

/-- The last month ends with its year. -/
theorem daysBeforeMonth_end (year : Int) : daysBeforeMonth year 13 = yearLength year := by
  rw [daysBeforeMonth_eq, ← sum_monthLengths]
  rfl

/-- Every day has a date. -/
theorem ofDays_spec (days : Int) : (ofDays days).Valid ∧ (ofDays days).toDays = days := by
  obtain ⟨year, rest, ⟨inside, counted⟩, found⟩ := exists_ofDays days
  rw [← sum_monthLengths] at inside
  obtain ⟨month, day, within, rfl⟩ := exists_month (monthLengths year) rest inside
  rw [inMonths_skip _ _ _ within] at found
  rw [found]
  refine ⟨⟨Nat.le_add_left 1 month, Nat.le_add_left 1 day, within⟩, ?_⟩
  rw [toDays, daysBeforeMonth_eq]
  dsimp only
  rw [Nat.add_sub_cancel]
  push_cast at counted ⊢
  omega

/-- The date of a day is the one that is counted as that day. -/
theorem ofDays_toDays (date : Date) (valid : date.Valid) : ofDays date.toDays = date := by
  obtain ⟨year, month, day⟩ := date
  obtain ⟨monthPos, dayPos, dayLe⟩ := valid
  dsimp only at monthPos dayPos dayLe
  obtain ⟨month, rfl⟩ := Nat.exists_eq_add_of_le' monthPos
  obtain ⟨day, rfl⟩ := Nat.exists_eq_add_of_le' dayPos
  have within : day < (monthLengths year).getD month 0 := dayLe
  have here : InYear (toDays ⟨year, month + 1, day + 1⟩) year
      (((monthLengths year).take month).sum + day) := by
    constructor
    · rw [← sum_monthLengths]
      exact inside_of_month _ _ _ within
    · rw [toDays, daysBeforeMonth_eq]
      dsimp only
      rw [Nat.add_sub_cancel]
      push_cast
      omega
  obtain ⟨other, rest, there, found⟩ := exists_ofDays (toDays ⟨year, month + 1, day + 1⟩)
  obtain ⟨rfl, rfl⟩ := there.unique here
  rw [found, inMonths_skip _ _ _ within]

/-! ## Days one after another -/

/-- The day after a date. -/
def tomorrow (date : Date) : Date :=
  if date.day < monthLength date.year date.month then { date with day := date.day + 1 }
  else if date.month < 12 then ⟨date.year, date.month + 1, 1⟩
  else ⟨date.year + 1, 1, 1⟩

/-- The day after a date is counted next. -/
theorem tomorrow_spec (date : Date) (valid : date.Valid) :
    date.tomorrow.Valid ∧ date.tomorrow.toDays = date.toDays + 1 := by
  obtain ⟨year, month, day⟩ := date
  obtain ⟨monthPos, dayPos, dayLe⟩ := valid
  have monthLe := Valid.month_le ⟨monthPos, dayPos, dayLe⟩
  dsimp only at monthPos dayPos dayLe monthLe
  rw [tomorrow]
  dsimp only
  split
  · rename_i more
    refine ⟨⟨monthPos, Nat.le_add_left 1 day, more⟩, ?_⟩
    rw [toDays, toDays]
    push_cast
    omega
  · rename_i last
    have full : day = monthLength year month := by omega
    have ended := daysBeforeMonth_succ year month monthPos monthLe
    split
    · rename_i early
      refine ⟨valid_first year (month + 1) (Nat.le_add_left 1 month) early, ?_⟩
      rw [toDays, toDays]
      dsimp only
      rw [ended]
      push_cast
      omega
    · rename_i december
      obtain rfl : month = 12 := by omega
      refine ⟨valid_first (year + 1) 1 (Nat.le_refl 1) (by decide), ?_⟩
      have begun : daysBeforeMonth (year + 1) 1 = 0 := rfl
      rw [daysBeforeMonth_end] at ended
      rw [toDays, toDays]
      dsimp only
      rw [begun, daysBeforeYear_succ, ended]
      push_cast
      omega

/-- The date of the next day is the day after. -/
theorem ofDays_succ (days : Int) : ofDays (days + 1) = (ofDays days).tomorrow := by
  obtain ⟨valid, counted⟩ := ofDays_spec days
  obtain ⟨next, later⟩ := tomorrow_spec (ofDays days) valid
  rw [← ofDays_toDays _ next, later, counted]

end Date

/-- A day of the calendar with its weekday. -/
structure Day where
  /-- The date. -/
  date : Date
  /-- The weekday, from Sunday as 0. -/
  weekday : Fin 7
  deriving DecidableEq

namespace Day

/-- The day after another. -/
def next (day : Day) : Day := ⟨day.date.tomorrow, day.weekday + 1⟩

/-- Thursday, the first of January 1970. -/
def first : Day := ⟨⟨1970, 1, 1⟩, 4⟩

/-- The day a number of days after the start of 1970. -/
def ofDays (days : Int) : Day := ⟨Date.ofDays days, Date.weekday days⟩

/-- The days follow each other. -/
theorem ofDays_succ (days : Int) : ofDays (days + 1) = (ofDays days).next := by
  have weekday : Date.weekday (days + 1) = Date.weekday days + 1 := by
    apply Fin.ext
    rw [Fin.val_add, Date.weekday, Date.weekday]
    change ((days + 1 + 4) % 7).toNat = (((days + 4) % 7).toNat + 1) % 7
    omega
  rw [ofDays, Date.ofDays_succ, weekday]
  rfl

/-- So the day a number of days after the first one is reached in as many steps. -/
theorem ofDays_iterate (days : Nat) : ofDays days = next^[days] first := by
  induction days with
  | zero => decide +kernel
  | succ days ih =>
    rw [Nat.cast_add_one, ofDays_succ, ih, Function.iterate_succ_apply']

end Day

end SortableId
