import SortableId.Outcome

/-!
# Content behind a lock

A lock owns a content that one caller at a time may change. A caller that crashes while it holds
the lock poisons it: from then on every caller gets an error instead of the content. An error that
a caller reports does not poison.
-/

namespace SortableId

/-- A content behind a lock. -/
structure Guarded (α : Type) where
  /-- What the lock owns. -/
  content : α
  /-- Whether a caller crashed while it held the lock. -/
  poisoned : Bool := false
  deriving DecidableEq, Repr

namespace Guarded

variable {α β : Type}

/-- Takes the lock for one action on the content. -/
def enter (action : α → Outcome β × α) (guarded : Guarded α) : Outcome β × Guarded α :=
  if guarded.poisoned then (.error .lockPoisoned, guarded)
  else
    let (outcome, content) := action guarded.content
    (outcome, ⟨content, outcome.isCrash⟩)

/-- Under an open lock the action happens, and poisons the lock if it crashes. -/
theorem enter_of_open (action : α → Outcome β × α) (guarded : Guarded α)
    (opened : guarded.poisoned = false) :
    guarded.enter action =
      ((action guarded.content).1,
        ⟨(action guarded.content).2, (action guarded.content).1.isCrash⟩) := by
  rw [enter, opened]
  rfl

/-- A poisoned lock refuses every action. -/
theorem enter_of_poisoned (action : α → Outcome β × α) (guarded : Guarded α)
    (poisoned : guarded.poisoned = true) :
    guarded.enter action = (.error .lockPoisoned, guarded) := by
  rw [enter, poisoned]
  rfl

end Guarded

end SortableId
