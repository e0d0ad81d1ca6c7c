import Mathlib
import SortableId.Pool.Call
import SortableId.Proofs.Calls

/-!
# Sources that know how their calls will end

A source of a pooled generator that is given the outcomes of the calls it makes on its pool is a
byte source. Over it a generator runs by itself, so what the pool has interleaved can be compared
with a sequential run. The outcomes are a stream, of which a run takes as many as it needs.
-/

namespace SortableId

variable {σ α β : Type}

/-- A source with the outcomes of the calls that it is going to make on its pool. -/
structure Foreseen (σ : Type) where
  /-- The source. -/
  source : σ
  /-- The outcomes. -/
  visits : Stream' (Outcome (Vector UInt8 10))

namespace Reply

/-- How a reply ends with these outcomes. -/
def foresee : Reply σ α → Stream' (Outcome (Vector UInt8 10)) → α × Foreseen σ
  | own answer source, visits => (answer, ⟨source, visits⟩)
  | viaPool _ next, visits => (next visits.head).foresee visits.tail

/-- A change of the answer does not change what the source hears. -/
theorem foresee_map (change : α → β) (reply : Reply σ α)
    (visits : Stream' (Outcome (Vector UInt8 10))) :
    (reply.map change).foresee visits =
      (change (reply.foresee visits).1, (reply.foresee visits).2) := by
  induction reply generalizing visits with
  | own answer source => rfl
  | viaPool ms next ih => exact ih visits.head visits.tail

end Reply

variable [PoolSource σ]

instance : ByteSource (Foreseen σ) where
  fill size state := (PoolSource.fill size state.source).foresee state.visits
  below bound state :=
    let (answer, state) := (PoolSource.below bound state.source).foresee state.visits
    (answer.toOption.join, state)
  belowCrash bound state :=
    match ((PoolSource.below bound state.source).foresee state.visits).1 with
    | .ok _ => none
    | .error text => some text

namespace Pending

/-- How a call goes on from its source to its end with these outcomes. -/
def foresee (source : σ) (visits : Stream' (Outcome (Vector UInt8 10))) :
    Pending σ → Outcome UInt80 × Foreseen σ
  | draw draws => draws.run ⟨source, visits⟩
  | answer reply =>
    let (draws, state) := reply.foresee visits
    draws.run state

/-- A call goes on after it has asked for bytes. -/
theorem foresee_read (source : σ) (visits : Stream' (Outcome (Vector UInt8 10))) (size : Nat)
    (next : Vector UInt8 size → Draws UInt80) :
    (draw (.read size next)).foresee source visits =
      (answer ((PoolSource.fill size source).map (Draws.afterRead next))).foresee source
        visits := by
  rw [foresee, foresee, Reply.foresee_map, Draws.run]
  have filled : ByteSource.fill size (Foreseen.mk source visits) =
      (PoolSource.fill size source).foresee visits := rfl
  rw [filled]
  obtain ⟨outcome, state⟩ := (PoolSource.fill size source).foresee visits
  cases outcome <;> rfl

/-- A call goes on after it has asked for a bounded number. -/
theorem foresee_pick (source : σ) (visits : Stream' (Outcome (Vector UInt8 10)))
    (bound : UInt64) (next : Option UInt64 → Draws UInt80) :
    (draw (.pick bound next)).foresee source visits =
      (answer ((PoolSource.below bound source).map (Draws.afterPick next))).foresee source
        visits := by
  rw [foresee, foresee, Reply.foresee_map, Draws.run]
  dsimp only [ByteSource.below, ByteSource.belowCrash]
  obtain ⟨answer, state⟩ := (PoolSource.below bound source).foresee visits
  cases answer <;> rfl

end Pending

section Own

variable {τ : Type} [ByteSource τ]

/-- A byte source makes no calls, so that it needs no outcomes. -/
theorem Draws.run_foreseen (draws : Draws α) (source : τ)
    (visits : Stream' (Outcome (Vector UInt8 10))) :
    draws.run (Foreseen.mk source visits) =
      ((draws.run source).1, ⟨(draws.run source).2, visits⟩) := by
  induction draws generalizing source with
  | done outcome => rfl
  | read size next ih =>
    have asked : ByteSource.fill size (Foreseen.mk source visits) =
        ((ByteSource.fill size source).1, ⟨(ByteSource.fill size source).2, visits⟩) := rfl
    rw [run, run, asked]
    obtain ⟨outcome, after⟩ := ByteSource.fill size source
    cases outcome with
    | value bytes => exact ih bytes after
    | error cause => rfl
    | crash text => rfl
    | unfinished => rfl
  | pick bound next ih =>
    rw [run, run]
    cases crashed : ByteSource.belowCrash bound source with
    | none =>
      have asked : ByteSource.pick bound source = .ok (ByteSource.below bound source).1 := by
        rw [ByteSource.pick, crashed]
      simp only [ByteSource.below, ByteSource.belowCrash, PoolSource.below, Reply.foresee, asked]
      exact ih _ _
    | some text =>
      have asked : ByteSource.pick bound source = .error text := by
        rw [ByteSource.pick, crashed]
      simp only [ByteSource.below, ByteSource.belowCrash, PoolSource.below, Reply.foresee, asked]

/-- Over a byte source the fills of a sequential run are those over the source itself. -/
theorem answers_fill_foreseen (attempts : Nat) (times : List UInt64) (counter : Counter)
    (source : τ) (visits : Stream' (Outcome (Vector UInt8 10))) :
    (answers (Generator.fill attempts) times ⟨counter, Foreseen.mk source visits⟩).1 =
      (answers (Generator.fill attempts) times ⟨counter, source⟩).1 := by
  induction times generalizing counter source with
  | nil => rfl
  | cons ms times ih =>
    rw [answers_cons, answers_cons, Generator.fill, Generator.fill, Draws.run_foreseen]
    exact congrArg _ (ih _ _)

end Own

end SortableId
