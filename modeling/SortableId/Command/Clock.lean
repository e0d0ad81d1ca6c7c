/-!
# Clocks

What a run of the program reads the time from. A clock may know how many readings it gave and how
many lines the run has written by now; both counts are all that it depends on here, so that a run is
a function of its clock.
-/

namespace SortableId.Command

/-- A clock: the milliseconds it shows after some readings and lines. -/
abbrev Clock := (readings lines : Nat) → UInt64

namespace Clock

/-- The listed times in order, and after them one millisecond more at each reading. -/
def listed (times : Array UInt64) : Clock := fun readings _ =>
  match times[readings]? with
  | some time => time
  | none =>
    match times.back? with
    | some last => last + UInt64.ofNat (readings - times.size + 1)
    | none => UInt64.ofNat readings

/-- A clock that stands still while lines are written: each reading without a new line before it
moves it by one millisecond. -/
def stalled (start : UInt64) : Clock := fun readings lines =>
  start + UInt64.ofNat (readings - lines)

end Clock

end SortableId.Command
