import Mathlib
import SortableId.Proofs.Fill
import SortableId.Proofs.Order

/-!
# Identifiers of one generator increase

A run is any sequence of calls on one generator: identifiers made with it, plain reads through it,
and calls that fail or crash in between. Its memory is the last identifier that it handed out, and
only a call that hands out another changes it, so as long as the times do not decrease each
identifier is above all the ones before.
-/

namespace SortableId

/-- One identifier is below another: as bytes, as a number and as text. -/
structure Ulid.Below (left right : Ulid) : Prop where
  /-- Its bytes are. -/
  bytes : compare left right = .lt
  /-- Its number is. -/
  number : left.toNat < right.toNat
  /-- Its text is. -/
  text : compare (Bytes.ofText left.text) (Bytes.ofText right.text) = .lt

/-- A smaller number is enough. -/
theorem Ulid.below_of_toNat (left right : Ulid) (number : left.toNat < right.toNat) :
    Below left right := by
  have bytes : compare left right = .lt := by
    rw [compare_toNat]
    exact Nat.compare_eq_lt.mpr number
  exact ⟨bytes, number, (compare_text left right).symm.trans bytes⟩

/-- Identifiers that increase have no two texts alike. -/
theorem Ulid.texts_nodup (ids : List Ulid) (increasing : ids.Pairwise Below) :
    (ids.map Ulid.text).Nodup := by
  rw [List.Nodup, List.pairwise_map]
  apply increasing.imp
  intro left right below same
  obtain rfl := text_injective left right same
  exact Nat.lt_irrefl _ below.number

namespace Generator

variable {σ : Type} [ByteSource σ]

/-- A call on a generator, as a monotonic or as a plain source. -/
inductive Call where
  /-- An identifier with monotonic entropy. -/
  | withMonotonic (attempts : Nat) (ms : UInt64)
  /-- The same through the choice of an entropy. -/
  | newMonotonic (attempts : Nat) (ms : UInt64)
  /-- An identifier with plain bytes. -/
  | withRandom (ms : UInt64)
  /-- The same through the choice of an entropy. -/
  | newRandom (attempts : Nat) (ms : UInt64)
  /-- Plain bytes. -/
  | read (size : Nat)
  /-- A bounded number. -/
  | below (bound : UInt64)

/-- An identifier that a call handed out for a millisecond, if it did. -/
def handedOut (ms : UInt64) : Outcome Ulid × Generator σ → Option (UInt64 × Ulid) × Generator σ
  | (.value id, after) => (some (ms, id), after)
  | (_, after) => (none, after)

/-- The identifier that a call hands out with monotonic entropy, if it does, and the generator
afterwards, whichever way the call ended. -/
def Call.step : Call → Generator σ → Option (UInt64 × Ulid) × Generator σ
  | withMonotonic attempts ms, generator =>
    handedOut ms (Ulid.withMonotonic attempts ms generator)
  | newMonotonic attempts ms, generator =>
    handedOut ms (Ulid.new attempts ms (.monotonic inferInstance) generator)
  | withRandom ms, generator => (none, (Ulid.withRandom ms generator).2)
  | newRandom attempts ms, generator =>
    (none, (Ulid.new attempts ms (.random inferInstance) generator).2)
  | read size, generator => (none, (ByteSource.fill size generator).2)
  | below bound, generator => (none, (ByteSource.below bound generator).2)

/-- The identifiers that calls hand out one after another, each with its millisecond. -/
def handOut : List Call → Generator σ → List (UInt64 × Ulid)
  | [], _ => []
  | call :: calls, generator =>
    (call.step generator).1.toList ++ handOut calls (call.step generator).2

/-- An identifier made with plain bytes leaves the memory alone. -/
theorem withRandom_memory (ms : UInt64) (generator : Generator σ) :
    (Ulid.withRandom ms generator).2.toCounter = generator.toCounter := by
  rw [Ulid.withRandom]
  cases Ulid.zero.withTime ms <;> rfl

/-- A call that hands out an identifier has filled for its timestamp, and any other leaves the
memory alone. -/
theorem handedOut_cases (bounded : ByteSource.Bounded σ) (attempts : Nat) (ms : UInt64)
    (generator : Generator σ) :
    let step := handedOut ms (Ulid.withMonotonic attempts ms generator)
    (step.1 = none ∧ step.2.toCounter = generator.toCounter) ∨
      ∃ id, step.1 = some (id.timestamp, id) ∧
        Filled id.timestamp generator step.2 id.entropyValue := by
  generalize made : Ulid.withMonotonic attempts ms generator = call
  obtain ⟨outcome, after⟩ := call
  have failure (failed : ∀ id, outcome ≠ .value id) : after.toCounter = generator.toCounter := by
    obtain rfl | ⟨fill, nothing, filled⟩ :=
      Ulid.withMonotonic_of_failure attempts ms generator after outcome made failed
    · rfl
    · exact fill_of_failure attempts ms generator after fill filled nothing
  cases outcome with
  | value id =>
    obtain ⟨rfl, filled⟩ := Ulid.withMonotonic_of_value attempts ms generator after id made
    exact .inr ⟨id, rfl, fill_of_value bounded attempts _ generator after id.entropy filled⟩
  | error cause => exact .inl ⟨rfl, failure fun id => nofun⟩
  | crash text => exact .inl ⟨rfl, failure fun id => nofun⟩
  | unfinished => exact .inl ⟨rfl, failure fun id => nofun⟩

/-- What a call can do: hand out nothing and leave the memory alone, or hand out an identifier and
remember it. -/
theorem Call.step_cases (bounded : ByteSource.Bounded σ) (call : Call)
    (generator : Generator σ) :
    ((call.step generator).1 = none ∧
        (call.step generator).2.toCounter = generator.toCounter) ∨
      ∃ id, (call.step generator).1 = some (id.timestamp, id) ∧
        Filled id.timestamp generator (call.step generator).2 id.entropyValue := by
  cases call with
  | withMonotonic attempts ms => exact handedOut_cases bounded attempts ms generator
  | newMonotonic attempts ms =>
    rw [step, Ulid.new_monotonic]
    exact handedOut_cases bounded attempts ms generator
  | withRandom ms => exact .inl ⟨rfl, withRandom_memory ms generator⟩
  | newRandom attempts ms =>
    rw [step, Ulid.new_random]
    exact .inl ⟨rfl, withRandom_memory ms generator⟩
  | read size => exact .inl ⟨rfl, rfl⟩
  | below bound => exact .inl ⟨rfl, rfl⟩

/-- A later identifier is above a value that is remembered for its millisecond or an earlier
one. -/
theorem Filled.above_memory {generator after : Generator σ} {id : Ulid}
    (filled : Filled id.timestamp generator after id.entropyValue) (tick : UInt64) (last : UInt80)
    (memory : generator.last = some (tick, last)) (later : tick ≤ id.timestamp) :
    tick.toNat * 2 ^ 80 + last.toNat < id.toNat := by
  have bound := last.toNat_lt
  rw [Ulid.toNat_fields]
  rcases Nat.lt_or_eq_of_le (UInt64.le_iff_toNat_le.mp later) with earlier | same
  · omega
  · obtain rfl : tick = id.timestamp := UInt64.toNat_inj.mp same
    have above := (filled.above last memory).lt
    omega

/-- As long as times do not decrease, all that is handed out is above what is remembered. -/
theorem handOut_above (bounded : ByteSource.Bounded σ) (calls : List Call)
    (generator : Generator σ) (tick : UInt64) (last : UInt80)
    (memory : generator.last = some (tick, last))
    (ordered : ((handOut calls generator).map Prod.fst).Pairwise (· ≤ ·))
    (later : ∀ handed ∈ handOut calls generator, tick ≤ handed.1) :
    ∀ handed ∈ handOut calls generator,
      tick.toNat * 2 ^ 80 + last.toNat < handed.2.toNat := by
  -- On the calls: what is remembered is below everything that is handed out from here on.
  induction calls generalizing generator tick last with
  | nil => exact fun handed mem => nomatch mem
  | cons call calls ih =>
    rw [handOut] at ordered later ⊢
    obtain ⟨nothing, same⟩ | ⟨id, given, filled⟩ := call.step_cases bounded generator
    · rw [nothing, Option.toList_none, List.nil_append] at ordered later ⊢
      exact ih _ tick last ((congrArg Counter.last same).trans memory) ordered later
    · rw [given, Option.toList_some, List.singleton_append] at ordered later ⊢
      rw [List.map_cons, List.pairwise_cons] at ordered
      have first := filled.above_memory tick last memory (later _ List.mem_cons_self)
      have rest := ih _ id.timestamp id.entropyValue filled.recorded ordered.2
        fun handed mem => ordered.1 _ (List.mem_map_of_mem mem)
      rw [List.forall_mem_cons]
      refine ⟨first, fun handed mem => ?_⟩
      have above := rest handed mem
      rw [← Ulid.toNat_fields] at above
      exact Nat.lt_trans first above

/-- As long as times do not decrease, what is handed out increases. -/
theorem handOut_increasing (bounded : ByteSource.Bounded σ) (calls : List Call)
    (generator : Generator σ)
    (ordered : ((handOut calls generator).map Prod.fst).Pairwise (· ≤ ·)) :
    (handOut calls generator).Pairwise fun left right => left.2.toNat < right.2.toNat := by
  induction calls generalizing generator with
  | nil => exact List.Pairwise.nil
  | cons call calls ih =>
    rw [handOut] at ordered ⊢
    obtain ⟨nothing, -⟩ | ⟨id, given, filled⟩ := call.step_cases bounded generator
    · rw [nothing, Option.toList_none, List.nil_append] at ordered ⊢
      exact ih _ ordered
    · rw [given, Option.toList_some, List.singleton_append] at ordered ⊢
      rw [List.map_cons, List.pairwise_cons] at ordered
      rw [List.pairwise_cons]
      refine ⟨fun handed mem => ?_, ih _ ordered.2⟩
      have above := handOut_above bounded calls _ id.timestamp id.entropyValue filled.recorded
        ordered.2 (fun other member => ordered.1 _ (List.mem_map_of_mem member)) handed mem
      rwa [← Ulid.toNat_fields] at above

/-- Times that do not decrease are all at least as late as any that the first one is not before. -/
theorem le_of_first (times : List UInt64) (ordered : times.Pairwise (· ≤ ·)) (tick : UInt64)
    (first : ∀ time ∈ times.head?, tick ≤ time) : ∀ time ∈ times, tick ≤ time := by
  cases times with
  | nil => exact fun time mem => nomatch mem
  | cons time times =>
    have early := first time rfl
    rw [List.forall_mem_cons]
    exact ⟨early, fun later mem => UInt64.le_trans early (List.rel_of_pairwise_cons ordered mem)⟩

/-- The identifiers that one generator hands out increase, as bytes, as numbers and as text, as
long as the times that succeed do not decrease: whatever reads, failures and crashes come in
between, and however the increments are drawn. No two of them are the same, and if the generator
was resumed with a value for a millisecond that is not after the first, all are above the
identifier of that value. -/
theorem identifiers_increase (bounded : ByteSource.Bounded σ) (generator : Generator σ)
    (calls : List Call)
    (ordered : ((handOut calls generator).map Prod.fst).Pairwise (· ≤ ·)) :
    ((handOut calls generator).map Prod.snd).Pairwise Ulid.Below ∧
    ((handOut calls generator).map Prod.snd).Nodup ∧
    (((handOut calls generator).map Prod.snd).map Ulid.text).Nodup ∧
    ∀ tick value requested source, generator = resume tick value requested source →
      (∀ first ∈ ((handOut calls generator).map Prod.fst).head?, tick ≤ first) →
      tick ≤ maxTime →
      ∃ floor, Ulid.ofParts tick value = .ok floor ∧
        ∀ id ∈ (handOut calls generator).map Prod.snd, Ulid.Below floor id := by
  have increasing : ((handOut calls generator).map Prod.snd).Pairwise Ulid.Below := by
    rw [List.pairwise_map]
    exact (handOut_increasing bounded calls generator ordered).imp (Ulid.below_of_toNat _ _)
  have texts := Ulid.texts_nodup _ increasing
  refine ⟨increasing, texts.of_map, texts, ?_⟩
  intro tick value requested source resumed first fits
  obtain ⟨floor, assembled⟩ := Ulid.exists_ofParts tick value fits
  refine ⟨floor, assembled, fun id mem => ?_⟩
  obtain ⟨rfl, rfl⟩ := (Ulid.ofParts_eq_ok_iff tick value floor).mp assembled
  obtain ⟨handed, member, rfl⟩ := List.mem_map.mp mem
  have memory : generator.last = some (floor.timestamp, floor.entropyValue) := by
    rw [resumed]
    rfl
  have later := le_of_first _ ordered floor.timestamp first
  have above := handOut_above bounded calls generator _ _ memory ordered
    (fun other inside => later _ (List.mem_map_of_mem inside)) handed member
  rw [← Ulid.toNat_fields] at above
  exact Ulid.below_of_toNat floor handed.2 above

/-- A resumed generator over zeros with reads in between: it hands out two identifiers in its
millisecond and one in the next, all above the value that it was resumed with. -/
theorem identifiers_increase_over_zeros :
    let calls := [Call.withMonotonic 1 5, .read 3, .newMonotonic 1 5, .below 9, .withRandom 5,
      .withMonotonic 1 6]
    let ids := (handOut calls (resume 5 ⟨0, 7⟩ 0 Zeros.mk)).map Prod.snd
    ids.length = 3 ∧ ids.Pairwise Ulid.Below ∧
      ∃ floor, Ulid.ofParts 5 ⟨0, 7⟩ = .ok floor ∧ ∀ id ∈ ids, Ulid.Below floor id := by
  intro calls ids
  have times : (handOut calls (resume 5 ⟨0, 7⟩ 0 Zeros.mk)).map Prod.fst = [5, 5, 6] := by
    decide +kernel
  have increase := identifiers_increase zeros_bounded (resume 5 ⟨0, 7⟩ 0 Zeros.mk) calls
    (times ▸ by decide)
  refine ⟨by decide +kernel, increase.1, increase.2.2.2 5 ⟨0, 7⟩ 0 Zeros.mk rfl ?_ (by decide)⟩
  intro first mem
  rw [times] at mem
  obtain rfl : 5 = first := Option.some.inj mem
  exact UInt64.le_refl 5

end Generator

end SortableId
