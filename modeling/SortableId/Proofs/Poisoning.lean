import Mathlib
import SortableId.Shared
import SortableId.Source.Plain
import SortableId.Source.Wrapped
import SortableId.Proofs.Calls

/-!
# One lock around a generator

As long as no call crashes, the calls of all handles are answered as if they were made on the
generator alone, in the order in which they take the lock. The call that crashes is the last one of
that kind: it poisons the lock, and every call after it is refused and finds nothing changed. A time
that is too late is found before the lock is taken, so it is reported in both states.
-/

namespace SortableId.Shared

variable {σ : Type}

/-- What happens to a shared generator, in the order in which the lock is taken. Which handle a call
comes from makes no difference. -/
inductive Event where
  /-- A call of a handle. -/
  | call (call : SourceCall)
  /-- A new handle. -/
  | clone
  /-- One handle less. -/
  | drop

/-- The calls among events. -/
def calls (events : List Event) : List SourceCall :=
  events.filterMap fun
    | .call call => some call
    | _ => none

/-- The answers to the calls among events, and the shared generator afterwards. -/
def serve [ByteSource σ] : List Event → Shared σ → List Answer × Shared σ
  | [], shared => ([], shared)
  | .call call :: events, shared =>
    let (answer, shared) := call.answer shared
    let (rest, shared) := serve events shared
    (answer :: rest, shared)
  | .clone :: events, shared => serve events shared.clone
  | .drop :: events, shared => serve events shared.drop

/-- The answer under a poisoned lock. -/
def refusal : SourceCall → Answer
  | .monotonic (.fill _ _ _ destination) => .filled (.error .lockPoisoned) destination.toList
  | .monotonic (.next _ ms) =>
    .identifier (.error (if maxTime < ms then .bigTime ms else .lockPoisoned))
  | .read _ destination => .filled (.error .lockPoisoned) destination.toList

variable [ByteSource σ]

/-- A call is answered first, and the events behind it happen on what it leaves. -/
theorem serve_call (call : SourceCall) (events : List Event) (shared : Shared σ) :
    serve (.call call :: events) shared =
      ((call.answer shared).1 :: (serve events (call.answer shared).2).1,
        (serve events (call.answer shared).2).2) := rfl

/-- An event that is a call is the first of the calls. -/
theorem calls_call (call : SourceCall) (events : List Event) :
    calls (.call call :: events) = call :: calls events := rfl

/-- Events in front of others happen first. -/
theorem serve_append (front back : List Event) (shared : Shared σ) :
    serve (front ++ back) shared =
      ((serve front shared).1 ++ (serve back (serve front shared).2).1,
        (serve back (serve front shared).2).2) := by
  induction front generalizing shared with
  | nil => rfl
  | cons event front ih =>
    cases event with
    | call call => rw [List.cons_append, serve_call, ih, serve_call, List.cons_append]
    | clone => exact ih shared.clone
    | drop => exact ih shared.drop

/-- Behind an open lock a call is answered by the generator, and poisons the lock if it crashes. -/
theorem answer_of_open (call : SourceCall) (shared : Shared σ)
    (opened : shared.lock.poisoned = false) :
    call.answer shared =
      ((call.answer shared.lock.content).1,
        { shared with
          lock := ⟨(call.answer shared.lock.content).2,
            (call.answer shared.lock.content).1.isCrash⟩ }) := by
  cases call with
  | read size destination =>
    simp only [SourceCall.answer, ByteSource.fill, read, Guarded.enter_of_open _ _ opened,
      Answer.isCrash_ofFill]
  | monotonic call =>
    simp only [SourceCall.answer]
    cases reaches : call.fill? with
    | none =>
      -- The lock is not taken, and the generator alone does not change either.
      obtain ⟨attempts, ms, rfl, late⟩ := call.eq_next_of_late reaches
      rw [MonotonicCall.answer_next_of_late attempts ms late,
        MonotonicCall.answer_next_of_late attempts ms late]
      exact congrArg (Prod.mk _ <| Shared.mk ⟨shared.lock.content, ·⟩ shared.handles) opened
    | some filled =>
      rw [call.answer_of_fill _ _ reaches, call.answer_of_fill _ _ reaches,
        MonotonicCall.isCrash_ofOutcome]
      simp only [MonotonicSource.fillMonotonic, fill, Guarded.enter_of_open _ _ opened]

/-- Behind a poisoned lock a call is refused and changes nothing. -/
theorem answer_of_poisoned (call : SourceCall) (shared : Shared σ)
    (poisoned : shared.lock.poisoned = true) : call.answer shared = (refusal call, shared) := by
  cases call with
  | read size destination =>
    simp only [SourceCall.answer, ByteSource.fill, read, Guarded.enter_of_poisoned _ _ poisoned]
    rfl
  | monotonic call =>
    cases call with
    | fill access attempts ms destination =>
      simp only [SourceCall.answer, MonotonicCall.answer, Access.fill_eq,
        MonotonicSource.fillMonotonic, fill, Guarded.enter_of_poisoned _ _ poisoned]
      rfl
    | next attempts ms =>
      rw [refusal]
      split
      · rename_i late
        exact MonotonicCall.answer_next_of_late attempts ms late shared
      · rename_i fits
        rw [SourceCall.answer,
          MonotonicCall.answer_of_fill (.next attempts ms) attempts ms (if_neg fits)]
        simp only [MonotonicSource.fillMonotonic, fill, Guarded.enter_of_poisoned _ _ poisoned]
        rfl

/-- As long as no call crashes, the lock stays open and all calls are answered by the generator. -/
theorem serve_of_open (events : List Event) (shared : Shared σ)
    (opened : shared.lock.poisoned = false)
    (alive : ∀ answer ∈ (answers SourceCall.answer (calls events) shared.lock.content).1,
      answer.isCrash = false) :
    (serve events shared).1 = (answers SourceCall.answer (calls events) shared.lock.content).1 ∧
      (serve events shared).2.lock =
        ⟨(answers SourceCall.answer (calls events) shared.lock.content).2, false⟩ := by
  induction events generalizing shared with
  | nil => exact ⟨rfl, congrArg (Guarded.mk shared.lock.content) opened⟩
  | cons event events ih =>
    cases event with
    | call call =>
      rw [calls_call, answers_cons] at alive ⊢
      obtain ⟨first, rest⟩ := List.forall_mem_cons.mp alive
      rw [serve_call, answer_of_open call shared opened, first]
      obtain ⟨same, lock⟩ := ih ⟨⟨(call.answer shared.lock.content).2, false⟩, shared.handles⟩
        rfl rest
      exact ⟨congrArg ((call.answer shared.lock.content).1 :: ·) same, lock⟩
    | clone => exact ih shared.clone opened alive
    | drop => exact ih shared.drop opened alive

/-- Behind a poisoned lock all calls are refused, and nothing behind it changes any more. -/
theorem serve_of_poisoned (events : List Event) (shared : Shared σ)
    (poisoned : shared.lock.poisoned = true) :
    (serve events shared).1 = (calls events).map refusal ∧
      (serve events shared).2.lock = shared.lock := by
  induction events generalizing shared with
  | nil => exact ⟨rfl, rfl⟩
  | cons event events ih =>
    cases event with
    | call call =>
      rw [serve_call, answer_of_poisoned call shared poisoned, calls_call, List.map_cons]
      obtain ⟨refused, same⟩ := ih shared poisoned
      exact ⟨congrArg (refusal call :: ·) refused, same⟩
    | clone => exact ih shared.clone poisoned
    | drop => exact ih shared.drop poisoned

/-- Up to and including the first call that crashes, the handles of a shared generator get the
answers of the generator alone, which is left in the same state, the record of the requests at its
source included. After the crash every call is refused, whatever handles are made or dropped, and
neither the generator nor that record changes any more. A time that is too late is the one thing
that is reported as before, and the lock is not taken for it. -/
theorem lock_refines (generator : Generator (Recorded σ)) (before : List Event) (call : SourceCall)
    (after : List Event)
    (alive : ∀ answer ∈ (answers SourceCall.answer (calls before) generator).1,
      answer.isCrash = false) :
    let alone := answers SourceCall.answer (calls before ++ [call]) generator
    let crashed := (call.answer (answers SourceCall.answer (calls before) generator).2).1.isCrash
    let shared := serve (before ++ [.call call]) (ofGenerator generator)
    shared.1 = alone.1 ∧ shared.2.lock = ⟨alone.2, crashed⟩ ∧
      (crashed = true →
        (serve after shared.2).1 = (calls after).map refusal ∧
          (serve after shared.2).2.lock = shared.2.lock) ∧
      ∀ attempts ms (other : Shared (Recorded σ)), maxTime < ms →
        (MonotonicCall.next attempts ms).answer other =
          (.identifier (.error (.bigTime ms)), other) := by
  intro alone crashed shared
  obtain ⟨same, lock⟩ := serve_of_open before (ofGenerator generator) rfl alive
  have last := answer_of_open call (serve before (ofGenerator generator)).2
    (congrArg Guarded.poisoned lock)
  rw [lock] at last
  have alone_eq : alone = _ := answers_append SourceCall.answer (calls before) [call] generator
  have shared_eq : shared = _ := serve_append before [.call call] (ofGenerator generator)
  rw [serve, last, same] at shared_eq
  have left : shared.2.lock = ⟨alone.2, crashed⟩ := by
    rw [shared_eq, alone_eq]
    rfl
  refine ⟨?_, left, fun poisoned => ?_, fun attempts ms other late => ?_⟩
  · rw [shared_eq, alone_eq]
    rfl
  · exact serve_of_poisoned after shared.2 ((congrArg Guarded.poisoned left).trans poisoned)
  · exact MonotonicCall.answer_next_of_late attempts ms late other

/-- Two handles over a source that crashes at its second read: a fill succeeds, an identifier of the
other handle crashes, and all that comes later is refused. -/
theorem lock_refines_over_script :
    let source : Script := ⟨[.bytes [1], .crash "no bytes", .bytes [2]], []⟩
    let generator : Generator (Recorded Script) := Generator.new ⟨source, []⟩ 1
    let first := [Event.call (.monotonic (.fill .reference 1 5 (Vector.replicate 10 7))), .clone]
    let later := [Event.call (.monotonic (.next 1 5)), .drop,
      .call (.read 2 (Vector.replicate 2 7)), .call (.monotonic (.next 1 281474976710656))]
    let shared := serve (first ++ [.call (.monotonic (.next 1 6))]) (ofGenerator generator)
    shared.1 = [.filled (.value ()) (List.replicate 10 1), .identifier (.crash "no bytes")] ∧
      shared.2.lock.content.source.requests = [.fill 10, .fill 10] ∧
      (serve later shared.2).1 =
        [.identifier (.error .lockPoisoned), .filled (.error .lockPoisoned) [7, 7],
          .identifier (.error (.bigTime 281474976710656))] ∧
      (serve later shared.2).2.lock = shared.2.lock := by
  intro source generator first later shared
  obtain ⟨same, lock, refused, -⟩ := lock_refines generator first (.monotonic (.next 1 6)) later
    (by decide +kernel)
  obtain ⟨answered, kept⟩ := refused (by decide +kernel)
  refine ⟨same.trans (by decide +kernel), by decide +kernel, ?_, kept⟩
  exact answered.trans (by decide +kernel)

end SortableId.Shared
