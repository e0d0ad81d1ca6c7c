import Mathlib
import SortableId.Proofs.Calendar.Forms
import SortableId.Proofs.Command.Inspecting

/-!
# What the formats say

In UTC the four formats show one instant. The long form and the form of internet timestamps are read
back as the same date, weekday and time of day, and these are shown at the millisecond that the
identifier was made for; the other two formats are numbers. Only whole seconds say less than the
timestamp.
-/

namespace SortableId

namespace DateTime

/-- The days from the start of 1970 to a time in UTC. -/
theorem days_utc (ms : Nat) :
    ((ms : Int) + Zone.utc.ahead * 1000) / 86400000 = ((ms / 86400000 : Nat) : Int) := by
  rw [Zone.ahead]
  omega

/-- From 1970 on, years are not negative. -/
theorem year_utc (ms : Nat) : 0 ≤ (ofMillis .utc ms).date.year := by
  have year := Date.year_ofDays (ms / 86400000 : Nat)
  rw [Date.daysBefore1970] at year
  rw [ofMillis, days_utc]
  dsimp only
  omega

/-- A time in UTC shows the day that is reached after the whole days before it. -/
theorem day_utc (ms : Nat) :
    Day.mk (ofMillis .utc ms).date (ofMillis .utc ms).weekday =
      Day.next^[ms / 86400000] Day.first := by
  rw [← Day.ofDays_iterate, ofMillis, days_utc]
  rfl

end DateTime

namespace Command

namespace TimeFormat

/-- In UTC the form of internet timestamps is read back as the time. -/
theorem read_internet (ms : Nat) :
    DateTime.internet.whole (internet.render .utc ms) = some (.ofMillis .utc ms) :=
  DateTime.internet_internetText _ (DateTime.ofMillis_valid .utc ms) rfl (DateTime.year_utc ms)

/-- And so is the long form. -/
theorem read_long (ms : Nat) :
    DateTime.long.whole (long.render .utc ms) = some (.ofMillis .utc ms) :=
  DateTime.long_longText _ (DateTime.ofMillis_valid .utc ms) rfl (DateTime.year_utc ms)

/-- Times that are shown alike in UTC are the same, but for whole seconds. -/
theorem render_injective (format : TimeFormat) (fine : format ≠ .seconds) (first second : Nat)
    (same : format.render .utc first = format.render .utc second) : first = second := by
  have ofTime (shown : DateTime.ofMillis .utc first = DateTime.ofMillis .utc second) :
      first = second := by
    have instant := congrArg DateTime.toMillis shown
    rw [DateTime.toMillis_ofMillis, DateTime.toMillis_ofMillis] at instant
    exact Int.ofNat_inj.mp instant
  cases format with
  | long =>
    have read := read_long first
    rw [same, read_long second] at read
    exact ofTime (Option.some.inj read).symm
  | internet =>
    have read := read_internet first
    rw [same, read_internet second] at read
    exact ofTime (Option.some.inj read).symm
  | seconds => exact absurd rfl fine
  | millis => exact Nat.repr_injective same

end TimeFormat

/-- The inspection of the text form of an identifier. -/
def Inspection.shown (format : TimeFormat) (localTime : Bool) (here : Zone) (id : Ulid) :
    List String × Option Failure :=
  perform ⟨[id.text], format, localTime, false⟩ here

/-- It prints the timestamp of the identifier. -/
theorem Inspection.shown_eq (format : TimeFormat) (localTime : Bool) (here : Zone) (id : Ulid) :
    shown format localTime here id =
      ([format.render (if localTime then here else .utc) id.timestamp.toNat], none) :=
  linesOf_texts ⟨[id.text], format, localTime, false⟩ here [id]

/-- The four formats show the timestamp of every identifier, that is any number of milliseconds of
48 bits. In UTC the long form and the form of internet timestamps are read back as one time: a date
of the calendar with its weekday and a time of day, which is shown at that millisecond. The date and
the weekday are those of the day that is reached from Thursday, the first of January 1970, in as
many steps as days are over. The other formats are the whole seconds and the milliseconds, and no
clocks around change them. All formats but the seconds tell identifiers with different timestamps
apart. -/
theorem formats_agree (here : Zone) (id : Ulid) :
    let ms := id.timestamp.toNat
    (∃ internet long time,
      Inspection.shown .internet false here id = ([internet], none) ∧
      Inspection.shown .long false here id = ([long], none) ∧
      DateTime.internet.whole internet = some time ∧ DateTime.long.whole long = some time ∧
      time.Valid ∧ time.zone = .utc ∧ time.toMillis = ms ∧
      Day.mk time.date time.weekday = Day.next^[ms / 86400000] Day.first) ∧
    (∀ localTime,
      Inspection.shown .seconds localTime here id = ([toString (ms / 1000)], none) ∧
      Inspection.shown .millis localTime here id = ([toString ms], none)) ∧
    ∀ format other, format ≠ .seconds →
      Inspection.shown format false here other = Inspection.shown format false here id →
      other.timestamp = id.timestamp := by
  intro ms
  refine ⟨?_, fun localTime => ?_, fun format other fine same => ?_⟩
  · refine ⟨_, _, .ofMillis .utc ms, Inspection.shown_eq .internet false here id,
      Inspection.shown_eq .long false here id, TimeFormat.read_internet ms, TimeFormat.read_long ms,
      DateTime.ofMillis_valid .utc ms, rfl, DateTime.toMillis_ofMillis .utc ms, ?_⟩
    exact DateTime.day_utc ms
  · exact ⟨Inspection.shown_eq .seconds localTime here id,
      Inspection.shown_eq .millis localTime here id⟩
  · rw [Inspection.shown_eq, Inspection.shown_eq] at same
    have line := (List.cons.inj (Prod.mk.inj same).1).1
    exact UInt64.toNat_inj.mp (format.render_injective fine _ _ line)

/-- The long form with its names of weekdays and months. -/
example : TimeFormat.long.render .utc 1508808576371 = "Tue Oct 24 01:29:36.371 UTC 2017" := by
  decide +kernel

/-- A time in the year 10889, which four digits cannot hold. -/
example : TimeFormat.internet.render .utc 281474976710655 = "+10889-08-02T05:31:50.655Z" := by
  decide +kernel

end Command

end SortableId
