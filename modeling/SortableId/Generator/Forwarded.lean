import SortableId.Generator.Basic
import SortableId.Source.Wrapped

/-!
# Monotonic sources passed on

A monotonic source passed on by reference or in a box fills as the source inside.
-/

namespace SortableId

variable {σ : Type}

instance [MonotonicSource σ] : MonotonicSource (Forwarded σ) where
  fillMonotonic attempts ms source :=
    let (outcome, inner) := MonotonicSource.fillMonotonic attempts ms source.inner
    (outcome, ⟨inner⟩)

end SortableId
