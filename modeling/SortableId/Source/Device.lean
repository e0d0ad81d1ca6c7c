import SortableId.Source.Plain
import SortableId.Source.SplitMix
import SortableId.Source.Wrapped

/-!
# Sources chosen at run time

One type for every kind of source that a caller can name, so that the choice can be data.
-/

namespace SortableId

/-- A source of a kind that is known only at run time. -/
inductive Device where
  | zeros (source : Zeros)
  | repeated (source : Repeated)
  | rising (source : Rising)
  | script (source : Script)
  | splitMix (source : SplitMix)
  | splitMixBytes (source : BytesOnly SplitMix)
  deriving DecidableEq, Repr

namespace Device

/-- Answer a request for bytes from the source inside. -/
def fill (size : Nat) : Device → Outcome (Vector UInt8 size) × Device
  | zeros source => Prod.map id zeros (ByteSource.fill size source)
  | repeated source => Prod.map id repeated (ByteSource.fill size source)
  | rising source => Prod.map id rising (ByteSource.fill size source)
  | script source => Prod.map id script (ByteSource.fill size source)
  | splitMix source => Prod.map id splitMix (ByteSource.fill size source)
  | splitMixBytes source => Prod.map id splitMixBytes (ByteSource.fill size source)

/-- Answer a bounded request from the source inside. -/
def below (bound : UInt64) : Device → Option UInt64 × Device
  | zeros source => Prod.map id zeros (ByteSource.below bound source)
  | repeated source => Prod.map id repeated (ByteSource.below bound source)
  | rising source => Prod.map id rising (ByteSource.below bound source)
  | script source => Prod.map id script (ByteSource.below bound source)
  | splitMix source => Prod.map id splitMix (ByteSource.below bound source)
  | splitMixBytes source => Prod.map id splitMixBytes (ByteSource.below bound source)

end Device

instance : ByteSource Device where
  fill := Device.fill
  below := Device.below

end SortableId
