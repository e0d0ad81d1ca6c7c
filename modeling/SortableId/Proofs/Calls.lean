import Mathlib
import SortableId.Generator.Forwarded
import SortableId.Ulid.Construction

/-!
# What callers see

A caller reaches a monotonic source as a value, through a reference or by its interface alone, and
asks for entropy bytes into a destination of its own or for an identifier. An answer is what the
caller has in the end: how the call ended, and the destination. All three ways are one fill, so a
caller cannot tell them apart.
-/

namespace SortableId

/-- How a caller reaches a monotonic source. -/
inductive Access where
  /-- As the value itself. -/
  | value
  /-- Through a reference. -/
  | reference
  /-- By its interface alone. -/
  | interface
  deriving DecidableEq

/-- A call on a monotonic source. -/
inductive MonotonicCall where
  /-- Entropy bytes for a millisecond, into a destination. -/
  | fill (access : Access) (attempts : Nat) (ms : UInt64) (destination : Vector UInt8 10)
  /-- An identifier for a millisecond. -/
  | next (attempts : Nat) (ms : UInt64)

/-- A call on a monotonic source that also gives plain bytes. -/
inductive SourceCall where
  /-- One of a monotonic source. -/
  | monotonic (call : MonotonicCall)
  /-- Plain bytes, into a destination. -/
  | read (size : Nat) (destination : Vector UInt8 size)

/-- What a caller has after a call. -/
inductive Answer where
  /-- How the call ended, and the destination. -/
  | filled (ending : Outcome Unit) (destination : List UInt8)
  /-- An identifier, or how the call ended without one. -/
  | identifier (outcome : Outcome Ulid)
  deriving DecidableEq

namespace Answer

/-- The answer to a call that ended so, for a destination. -/
def ofFill {size : Nat} (destination : Vector UInt8 size) (outcome : Outcome (Vector UInt8 size)) :
    Answer :=
  filled (outcome.map fun _ => ()) (outcome.into destination).toList

/-- Whether the call crashed. -/
def isCrash : Answer → Bool
  | filled ending _ => ending.isCrash
  | identifier outcome => outcome.isCrash

/-- Whether the call returned, with a value or an error. -/
def isReturn : Answer → Bool
  | filled ending _ => ending.isReturn
  | identifier outcome => outcome.isReturn

/-- The answer to a fill crashes if the fill does. -/
@[simp]
theorem isCrash_ofFill {size : Nat} (destination : Vector UInt8 size)
    (outcome : Outcome (Vector UInt8 size)) :
    (ofFill destination outcome).isCrash = outcome.isCrash :=
  Outcome.isCrash_map _ outcome

/-- The answer to a fill returns if the fill does. -/
@[simp]
theorem isReturn_ofFill {size : Nat} (destination : Vector UInt8 size)
    (outcome : Outcome (Vector UInt8 size)) :
    (ofFill destination outcome).isReturn = outcome.isReturn :=
  Outcome.isReturn_map _ outcome

end Answer

variable {τ : Type}

/-- A fill by a caller that reaches the source so. -/
def Access.fill [MonotonicSource τ] (attempts : Nat) (ms : UInt64) (source : τ) :
    Access → Outcome (Vector UInt8 10) × τ
  | value => MonotonicSource.fillMonotonic attempts ms source
  | reference =>
    let (outcome, forwarded) := MonotonicSource.fillMonotonic attempts ms (Forwarded.mk source)
    (outcome, forwarded.inner)
  | interface =>
    let choice : MonotonicSource τ := inferInstance
    choice.fillMonotonic attempts ms source

/-- However a caller reaches the source, its fill is the same. -/
theorem Access.fill_eq [MonotonicSource τ] (access : Access) (attempts : Nat) (ms : UInt64)
    (source : τ) : access.fill attempts ms source =
      MonotonicSource.fillMonotonic attempts ms source := by
  cases access <;> rfl

/-- The answer to a call, and the source afterwards. -/
def MonotonicCall.answer [MonotonicSource τ] : MonotonicCall → τ → Answer × τ
  | fill access attempts ms destination, source =>
    let (outcome, source) := access.fill attempts ms source
    (.ofFill destination outcome, source)
  | next attempts ms, source =>
    let (outcome, source) := Ulid.withMonotonic attempts ms source
    (.identifier outcome, source)

/-- The answer to a call, and the source afterwards. -/
def SourceCall.answer [MonotonicSource τ] [ByteSource τ] : SourceCall → τ → Answer × τ
  | monotonic call, source => call.answer source
  | read size destination, source =>
    let (outcome, source) := ByteSource.fill size source
    (.ofFill destination outcome, source)

/-- The answers to calls that are made one after another, and the state they leave. -/
def answers {κ α : Type} (answer : κ → τ → α × τ) : List κ → τ → List α × τ
  | [], state => ([], state)
  | call :: calls, state =>
    let (first, state) := answer call state
    let (rest, state) := answers answer calls state
    (first :: rest, state)

/-- The first call is answered first, and the others on the state that it leaves. -/
theorem answers_cons {κ α : Type} (answer : κ → τ → α × τ) (call : κ) (calls : List κ)
    (state : τ) :
    answers answer (call :: calls) state =
      ((answer call state).1 :: (answers answer calls (answer call state).2).1,
        (answers answer calls (answer call state).2).2) := rfl

/-- Calls in front of others are answered first. -/
theorem answers_append {κ α : Type} (answer : κ → τ → α × τ) (front back : List κ) (state : τ) :
    answers answer (front ++ back) state =
      ((answers answer front state).1 ++ (answers answer back (answers answer front state).2).1,
        (answers answer back (answers answer front state).2).2) := by
  induction front generalizing state with
  | nil => rfl
  | cons call front ih => rw [List.cons_append, answers_cons, ih, answers_cons, List.cons_append]

/-- The last call is answered last. -/
theorem answers_concat {κ α : Type} (answer : κ → τ → α × τ) (calls : List κ) (last : κ)
    (state : τ) :
    answers answer (calls ++ [last]) state =
      ((answers answer calls state).1 ++ [(answer last (answers answer calls state).2).1],
        (answer last (answers answer calls state).2).2) :=
  answers_append answer calls [last] state

namespace MonotonicCall

/-- The fill that a call comes down to, with its attempts. An identifier whose time is too late
comes down to none. -/
def fill? : MonotonicCall → Option (Nat × UInt64)
  | fill _ attempts ms _ => some (attempts, ms)
  | next attempts ms => if maxTime < ms then none else some (attempts, ms)

/-- The answer that follows from the outcome of the fill. -/
def ofOutcome : MonotonicCall → Outcome (Vector UInt8 10) → Answer
  | fill _ _ _ destination, outcome => .ofFill destination outcome
  | next _ ms, outcome =>
    let dated : Ulid := ⟨Bytes.ofNat 6 ms.toNat ++ Ulid.zero.entropy⟩
    .identifier (outcome.map dated.withEntropyBytes)

/-- A call crashes if the fill that it comes down to does. -/
@[simp]
theorem isCrash_ofOutcome (call : MonotonicCall) (outcome : Outcome (Vector UInt8 10)) :
    (call.ofOutcome outcome).isCrash = outcome.isCrash := by
  cases call with
  | fill access attempts ms destination => exact Answer.isCrash_ofFill destination outcome
  | next attempts ms => exact Outcome.isCrash_map _ outcome

/-- A call returns if the fill that it comes down to does. -/
@[simp]
theorem isReturn_ofOutcome (call : MonotonicCall) (outcome : Outcome (Vector UInt8 10)) :
    (call.ofOutcome outcome).isReturn = outcome.isReturn := by
  cases call with
  | fill access attempts ms destination => exact Answer.isReturn_ofFill destination outcome
  | next attempts ms => exact Outcome.isReturn_map _ outcome

variable [MonotonicSource τ]

/-- An identifier whose time is too late is refused before the source is touched. -/
theorem answer_next_of_late (attempts : Nat) (ms : UInt64) (late : maxTime < ms) (source : τ) :
    (next attempts ms).answer source = (.identifier (.error (.bigTime ms)), source) := by
  rw [answer, Ulid.withMonotonic, Ulid.withTime, if_pos late]

/-- Every other call is answered after the fill that it comes down to. -/
theorem answer_of_fill (call : MonotonicCall) (attempts : Nat) (ms : UInt64)
    (reaches : call.fill? = some (attempts, ms)) (source : τ) :
    call.answer source =
      (call.ofOutcome (MonotonicSource.fillMonotonic attempts ms source).1,
        (MonotonicSource.fillMonotonic attempts ms source).2) := by
  cases call with
  | fill access attempts' ms' destination =>
    obtain ⟨rfl, rfl⟩ := Prod.mk.inj (Option.some.inj reaches)
    rw [answer, Access.fill_eq]
    rfl
  | next attempts' ms' =>
    rw [fill?] at reaches
    split at reaches
    · exact nomatch reaches
    · rename_i fits
      obtain ⟨rfl, rfl⟩ := Prod.mk.inj (Option.some.inj reaches)
      rw [answer, Ulid.withMonotonic, Ulid.withTime, if_neg fits]
      rfl

/-- A call that comes down to no fill is for an identifier whose time is too late. -/
theorem eq_next_of_late (call : MonotonicCall) (refused : call.fill? = none) :
    ∃ attempts ms, call = next attempts ms ∧ maxTime < ms := by
  cases call with
  | fill access attempts ms destination => exact nomatch refused
  | next attempts ms =>
    rw [fill?] at refused
    split at refused
    · rename_i late
      exact ⟨attempts, ms, rfl, late⟩
    · exact nomatch refused

end MonotonicCall

end SortableId
