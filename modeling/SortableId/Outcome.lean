import SortableId.Error

/-!
# Outcomes of calls

A call that may run code of its caller ends in one of four ways: with a value, with an error that
the library reports, with a crash of the code it ran, or not at all. Only the first carries a
value on; the other three end every computation that they occur in.
-/

namespace SortableId

/-- How a call ends. -/
inductive Outcome (α : Type) where
  /-- It returns a value. -/
  | value (result : α)
  /-- It reports an error. -/
  | error (cause : Error)
  /-- The code it ran crashed with this text. -/
  | crash (text : String)
  /-- It did not end within the attempts it was given. -/
  | unfinished
  deriving Repr, DecidableEq, Inhabited

namespace Outcome

variable {α β : Type}

/-- Continue with a value; any other end stays. -/
def bind (outcome : Outcome α) (next : α → Outcome β) : Outcome β :=
  match outcome with
  | value result => next result
  | error cause => error cause
  | crash text => crash text
  | unfinished => unfinished

/-- Change the value. -/
def map (change : α → β) (outcome : Outcome α) : Outcome β :=
  outcome.bind fun result => value (change result)

/-- Whether the call crashed. -/
def isCrash : Outcome α → Bool
  | crash _ => true
  | _ => false

/-- Whether the call returned, with a value or an error. -/
def isReturn : Outcome α → Bool
  | value _ => true
  | error _ => true
  | _ => false

/-- A change of the value does not make or undo a crash. -/
@[simp]
theorem isCrash_map (change : α → β) (outcome : Outcome α) :
    (outcome.map change).isCrash = outcome.isCrash := by
  cases outcome <;> rfl

/-- A change of the value does not make or undo a return. -/
@[simp]
theorem isReturn_map (change : α → β) (outcome : Outcome α) :
    (outcome.map change).isReturn = outcome.isReturn := by
  cases outcome <;> rfl

section Ends

variable (change : α → β) (next : α → Outcome β) (outcome : Outcome α)

/-- An error after a continuation is one of the continuation, or was there before. -/
theorem bind_eq_error_iff (cause : Error) :
    outcome.bind next = error cause ↔
      (∃ result, outcome = value result ∧ next result = error cause) ∨ outcome = error cause := by
  cases outcome <;> simp [bind]

/-- A changed value comes from a value. -/
theorem map_eq_value_iff (result : β) :
    outcome.map change = value result ↔
      ∃ before, change before = result ∧ outcome = value before := by
  cases outcome <;> simp [map, bind]

/-- An error is not changed. -/
theorem map_eq_error_iff (cause : Error) :
    outcome.map change = error cause ↔ outcome = error cause := by
  cases outcome <;> simp [map, bind]

/-- A crash is not changed. -/
theorem map_eq_crash_iff (text : String) :
    outcome.map change = crash text ↔ outcome = crash text := by
  cases outcome <;> simp [map, bind]

/-- A call that does not end is not changed. -/
theorem map_eq_unfinished_iff : outcome.map change = unfinished ↔ outcome = unfinished := by
  cases outcome <;> simp [map, bind]

end Ends

/-- The destination after the call: overwritten by a value, untouched otherwise. -/
def into (destination : α) : Outcome α → α
  | value result => result
  | _ => destination

/-- Makes a call again and again, each time on the state the one before left, and collects the
values. The first call without a value ends the series. -/
def collect {σ : Type} (call : σ → Outcome α × σ) : Nat → σ → Outcome (List α) × σ
  | 0, state => (value [], state)
  | count + 1, state =>
    match call state with
    | (value result, state) =>
      let (rest, state) := collect call count state
      (rest.map (result :: ·), state)
    | (error cause, state) => (error cause, state)
    | (crash text, state) => (crash text, state)
    | (unfinished, state) => (unfinished, state)

end Outcome

end SortableId
