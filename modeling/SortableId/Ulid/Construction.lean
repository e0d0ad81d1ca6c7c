import SortableId.Ulid.Basic
import SortableId.Generator.Basic

/-!
# New identifiers

An identifier is made for a millisecond, with entropy that is absent, read from a byte source, or
filled by a monotonic source. The time is checked before the source is asked for anything.
-/

namespace SortableId

/-- Where the entropy of a new identifier comes from. -/
inductive Entropy (σ : Type) where
  /-- It stays zero. -/
  | none
  /-- It is read like any other bytes. -/
  | random (source : ByteSource σ)
  /-- It is filled for the identifier's millisecond. -/
  | monotonic (source : MonotonicSource σ)

/-- How the choice is shown to a programmer. -/
def Entropy.describe {σ : Type} : Entropy σ → String
  | none => "Entropy::None"
  | random _ => "Entropy::Random"
  | monotonic _ => "Entropy::Monotonic"

namespace Ulid

variable {σ : Type}

/-- An identifier for a millisecond. -/
def new (attempts : Nat) (ms : UInt64) (entropy : Entropy σ) (state : σ) : Outcome Ulid × σ :=
  match zero.withTime ms with
  | .error cause => (.error cause, state)
  | .ok id =>
    match entropy with
    | .none => (.value id, state)
    | .random _ =>
      let (outcome, state) := ByteSource.fill 10 state
      (outcome.map id.withEntropyBytes, state)
    | .monotonic _ =>
      let (outcome, state) := MonotonicSource.fillMonotonic attempts ms state
      (outcome.map id.withEntropyBytes, state)

/-- An identifier whose entropy is read from a byte source. -/
def withRandom [ByteSource σ] (ms : UInt64) (source : σ) : Outcome Ulid × σ :=
  match zero.withTime ms with
  | .error cause => (.error cause, source)
  | .ok id =>
    let (outcome, source) := ByteSource.fill 10 source
    (outcome.map id.withEntropyBytes, source)

/-- An identifier whose entropy is filled by a monotonic source. -/
def withMonotonic [MonotonicSource σ] (attempts : Nat) (ms : UInt64) (source : σ) :
    Outcome Ulid × σ :=
  match zero.withTime ms with
  | .error cause => (.error cause, source)
  | .ok id =>
    let (outcome, source) := MonotonicSource.fillMonotonic attempts ms source
    (outcome.map id.withEntropyBytes, source)

end Ulid

end SortableId
