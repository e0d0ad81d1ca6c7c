import Mathlib
import SortableId.Proofs.Calls
import SortableId.Proofs.Increasing

/-!
# Fills are all or nothing

A fill that does not succeed leaves its destination and the memory of the generator as they were,
whichever of its draws failed or crashed: only the source has answered requests. One that succeeds
has written the value that it recorded. So the memory is always what was handed out last, however
calls on the generator are mixed.
-/

namespace SortableId

/-- A source is reached from another by requests, whatever these came to. -/
inductive ByteSource.Reaches {σ : Type} [ByteSource σ] : σ → σ → Prop where
  /-- By none. -/
  | refl (source : σ) : Reaches source source
  /-- By one for bytes, and others after it. -/
  | read (size : Nat) {source after : σ} (onward : Reaches (ByteSource.fill size source).2 after) :
    Reaches source after
  /-- By one for a bounded number, and others after it. -/
  | pick (bound : UInt64) {source after : σ}
    (onward : Reaches (ByteSource.below bound source).2 after) : Reaches source after

namespace Generator

variable {σ : Type}

/-- What a use can do to the memory: nothing if it hands out nothing, else it is what was handed
out. -/
structure Recorded (before after : Generator σ) (handed : Option (UInt64 × UInt80)) : Prop where
  /-- The memory is what was handed out, or as before. -/
  last : after.last = handed.or before.last
  /-- The bound on increments stays. -/
  bound : after.bound = before.bound

/-- A use that leaves the memory alone has handed out nothing. -/
theorem Recorded.of_same {before after : Generator σ} (same : after.toCounter = before.toCounter) :
    Recorded before after none :=
  ⟨congrArg Counter.last same, congrArg Counter.bound same⟩

end Generator

variable {σ : Type} [ByteSource σ]

/-- A computation reaches the source that it leaves. -/
theorem Draws.run_reaches {α : Type} (draws : Draws α) (source : σ) :
    ByteSource.Reaches source (draws.run source).2 := by
  induction draws generalizing source with
  | done outcome => exact .refl source
  | read size next ih =>
    apply ByteSource.Reaches.read size
    rw [run]
    cases ByteSource.fill size source with
    | mk outcome after =>
      cases outcome with
      | value bytes => exact ih bytes after
      | error cause => exact .refl after
      | crash text => exact .refl after
      | unfinished => exact .refl after
  | pick bound next ih =>
    apply ByteSource.Reaches.pick bound
    rw [run]
    dsimp only
    split
    · exact .refl _
    · exact ih _ _

namespace Generator

/-- A fill reaches the source that it leaves. -/
theorem fill_reaches (attempts : Nat) (ms : UInt64) (generator : Generator σ) :
    ByteSource.Reaches generator.source (generator.fill attempts ms).2.source :=
  Draws.run_reaches (generator.toCounter.next attempts ms) generator.source

/-- The value that a fill has handed out for a millisecond, as its caller sees it: what is in the
destination after a call that succeeded. -/
def delivered (ms : UInt64) (destination : Vector UInt8 10) :
    Outcome Unit → Option (UInt64 × UInt80)
  | .value () => some (ms, UInt80.ofBytes destination)
  | _ => none

/-- A use of a generator, by any of its interfaces. -/
inductive Use where
  /-- Entropy bytes for a millisecond, into a destination. -/
  | fill (access : Access) (attempts : Nat) (ms : UInt64) (destination : Vector UInt8 10)
  /-- An identifier, plain bytes or a bounded number. -/
  | request (call : Call)

/-- The value that a use hands out with its millisecond, if it does, and the generator afterwards,
whichever way the use ended. -/
def Use.step : Use → Generator σ → Option (UInt64 × UInt80) × Generator σ
  | fill access attempts ms destination, generator =>
    let (outcome, after) := access.fill attempts ms generator
    (delivered ms (outcome.into destination) (outcome.map fun _ => ()), after)
  | request call, generator =>
    let (handed, after) := call.step generator
    (handed.map fun (ms, id) => (ms, id.entropyValue), after)

/-- A fill records what is in the destination after a success, and nothing without one. -/
theorem recorded_of_fill (attempts : Nat) (ms : UInt64) (destination : Vector UInt8 10)
    (generator : Generator σ) :
    let call := generator.fill attempts ms
    Recorded generator call.2
      (delivered ms (call.1.into destination) (call.1.map fun _ => ())) := by
  have memory := fill_memory attempts ms generator
  generalize generator.fill attempts ms = call at memory
  obtain ⟨outcome, after⟩ := call
  cases outcome with
  | value bytes =>
    have bound := congrArg Counter.bound memory
    exact ⟨congrArg Counter.last memory, bound⟩
  | error cause => exact .of_same memory
  | crash text => exact .of_same memory
  | unfinished => exact .of_same memory

/-- An identifier with monotonic entropy is recorded, and nothing is without one. -/
theorem recorded_of_handedOut (attempts : Nat) (ms : UInt64) (generator : Generator σ) :
    let step := handedOut ms (Ulid.withMonotonic attempts ms generator)
    Recorded generator step.2 (step.1.map fun (ms, id) => (ms, id.entropyValue)) := by
  generalize made : Ulid.withMonotonic attempts ms generator = call
  obtain ⟨outcome, after⟩ := call
  have failure (failed : ∀ id, outcome ≠ .value id) : Recorded generator after none := by
    obtain rfl | ⟨fill, nothing, filled⟩ :=
      Ulid.withMonotonic_of_failure attempts ms generator after outcome made failed
    · exact .of_same rfl
    · exact .of_same (fill_of_failure attempts ms generator after fill filled nothing)
  cases outcome with
  | value id =>
    have filled := (Ulid.withMonotonic_of_value attempts ms generator after id made).2
    obtain ⟨last, bound⟩ := fill_remembers attempts ms generator after id.entropy filled
    exact ⟨last, bound⟩
  | error cause => exact failure fun id same => by cases same
  | crash text => exact failure fun id same => by cases same
  | unfinished => exact failure fun id same => by cases same

/-- Every use records what it hands out, and nothing else. -/
theorem Use.recorded (use : Use) (generator : Generator σ) :
    Recorded generator (use.step generator).2 (use.step generator).1 := by
  cases use with
  | fill access attempts ms destination =>
    rw [step, Access.fill_eq]
    exact recorded_of_fill attempts ms destination generator
  | request call =>
    cases call with
    | withMonotonic attempts ms => exact recorded_of_handedOut attempts ms generator
    | newMonotonic attempts ms => exact recorded_of_handedOut attempts ms generator
    | withRandom ms => exact .of_same (withRandom_memory ms generator)
    | newRandom attempts ms => exact .of_same (withRandom_memory ms generator)
    | read size => exact .of_same rfl
    | below bound => exact .of_same rfl

/-- After any uses the memory is what was handed out last, or as it was before them. -/
theorem recorded_of_uses (uses : List Use) (generator : Generator σ) :
    let run := answers Use.step uses generator
    Recorded generator run.2 run.1.reduceOption.getLast? := by
  -- On the uses: the memory after the first one takes the place of the memory before.
  induction uses generalizing generator with
  | nil => exact .of_same rfl
  | cons use uses ih =>
    have first := use.recorded generator
    have rest := ih (use.step generator).2
    rw [answers_cons]
    refine ⟨?_, rest.bound.trans first.bound⟩
    rw [rest.last, first.last]
    cases (use.step generator).1 with
    | none => rw [List.reduceOption_cons_of_none, Option.none_or]
    | some handed =>
      rw [List.reduceOption_cons_of_some, List.getLast?_cons, Option.some_or, Option.some_or]
      cases (answers Use.step uses (use.step generator).2).1.reduceOption.getLast? <;> rfl

/-- A fill that does not succeed leaves the destination and all of the generator but its source as
they were, whatever the source did; one that succeeds has written the bytes of the value that is
recorded with its millisecond. The source has only answered requests. So after any uses of a
generator its memory is the value that was handed out last with its millisecond, or the initial one
if there was none. -/
theorem fill_all_or_nothing (generator : Generator σ) :
    (∀ (attempts : Nat) (ms : UInt64) (destination : Vector UInt8 10),
      let call := generator.fillInto attempts ms destination
      ByteSource.Reaches generator.source call.2.2.source ∧
      (call.1 ≠ .value () → call.2.1 = destination ∧
        call.2.2 = { generator with source := call.2.2.source }) ∧
      (call.1 = .value () → ∃ value : UInt80,
        call.2.2 = { generator with last := some (ms, value), source := call.2.2.source } ∧
        call.2.1 = value.toBytes ∧ Bytes.toNat call.2.1.toList = value.toNat)) ∧
    ∀ uses : List Use,
      let run := answers Use.step uses generator
      run.2.last = run.1.reduceOption.getLast?.or generator.last ∧
      run.2.bound = generator.bound := by
  refine ⟨fun attempts ms destination => ?_, fun uses => ?_⟩
  · have reached := fill_reaches attempts ms generator
    rw [fillInto]
    generalize filled : generator.fill attempts ms = call at reached
    obtain ⟨outcome, after⟩ := call
    refine ⟨reached, fun failed => ?_, fun succeeded => ?_⟩
    · have nothing : ∀ bytes, outcome ≠ .value bytes := by
        rintro bytes rfl
        exact failed rfl
      have memory := fill_of_failure attempts ms generator after outcome filled nothing
      refine ⟨?_, ?_⟩
      · cases outcome with
        | value bytes => exact absurd rfl (nothing bytes)
        | error cause => rfl
        | crash text => rfl
        | unfinished => rfl
      · rw [← memory]
    · cases outcome with
      | value bytes =>
        obtain ⟨last, bound⟩ := fill_remembers attempts ms generator after bytes filled
        refine ⟨UInt80.ofBytes bytes, ?_, (UInt80.toBytes_ofBytes bytes).symm,
          (UInt80.toNat_ofBytes bytes).symm⟩
        rw [← last, ← bound]
      | error cause => cases succeeded
      | crash text => cases succeeded
      | unfinished => cases succeeded
  · have recorded := recorded_of_uses uses generator
    exact ⟨recorded.last, recorded.bound⟩

end Generator

end SortableId
