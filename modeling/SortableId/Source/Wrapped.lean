import SortableId.Source.Basic

/-!
# Sources around sources

A source passed on by reference or in a box answers as the source inside. A source reduced to its
bytes has no native bounded number. A recorded source keeps the list of requests made to it.
-/

namespace SortableId

variable {σ : Type}

/-- A source passed on: both kinds of request reach the source inside. -/
structure Forwarded (σ : Type) where
  /-- The source inside. -/
  inner : σ
  deriving DecidableEq, Repr

instance [ByteSource σ] : ByteSource (Forwarded σ) where
  fill size source :=
    let (outcome, inner) := ByteSource.fill size source.inner
    (outcome, ⟨inner⟩)
  below bound source :=
    let (answer, inner) := ByteSource.below bound source.inner
    (answer, ⟨inner⟩)
  belowCrash bound source := ByteSource.belowCrash bound source.inner

/-- Only the bytes of a source. -/
structure BytesOnly (σ : Type) where
  /-- The source inside. -/
  inner : σ
  deriving DecidableEq, Repr

instance [ByteSource σ] : ByteSource (BytesOnly σ) where
  fill size source :=
    let (outcome, inner) := ByteSource.fill size source.inner
    (outcome, ⟨inner⟩)

/-- A source with the requests made to it, latest first. -/
structure Recorded (σ : Type) where
  /-- The source inside. -/
  inner : σ
  /-- What was asked, latest first. -/
  requests : List Request := []
  deriving DecidableEq, Repr

instance [ByteSource σ] : ByteSource (Recorded σ) where
  fill size source :=
    let (outcome, inner) := ByteSource.fill size source.inner
    (outcome, ⟨inner, .fill size :: source.requests⟩)
  below bound source :=
    let (answer, inner) := ByteSource.below bound source.inner
    (answer, ⟨inner, .below bound :: source.requests⟩)
  belowCrash bound source := ByteSource.belowCrash bound source.inner

/-- The requests in the order they were made, and the source with an empty record. -/
def Recorded.takeRequests (source : Recorded σ) : List Request × Recorded σ :=
  (source.requests.reverse, { source with requests := [] })

end SortableId
