/-!
# Instants

A point in time as whole seconds from 1970, which may be negative, and nanoseconds that are always
added. Milliseconds are the floor of that sum, cut at zero below and at the largest 64-bit number
above.
-/

namespace SortableId

/-- A point in time. -/
structure Instant where
  /-- Seconds from the start of 1970. -/
  seconds : Int64
  /-- Nanoseconds after those seconds. -/
  nanos : Fin 1000000000
  deriving DecidableEq, Repr

namespace Instant

/-- The nanoseconds from the start of 1970. -/
def toNanos (instant : Instant) : Int :=
  instant.seconds.toInt * 1000000000 + instant.nanos.val

/-- Whole milliseconds since 1970: none before it, and no more than 64 bits hold. -/
def toMillis (instant : Instant) : UInt64 :=
  if instant.seconds < 0 then 0
  else
    let ms := instant.seconds.toInt.toNat * 1000 + instant.nanos.val / 1000000
    if ms < UInt64.size then UInt64.ofNat ms else UInt64.ofNat (UInt64.size - 1)

/-- The instant a number of milliseconds after the start of 1970. -/
def ofMillis (ms : UInt64) : Instant where
  seconds := Int64.ofNat (ms.toNat / 1000)
  nanos := ⟨ms.toNat % 1000 * 1000000, by omega⟩

end Instant

end SortableId
