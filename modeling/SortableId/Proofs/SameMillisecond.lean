import Mathlib
import SortableId.Proofs.Calls
import SortableId.Proofs.Fill

/-!
# Fills within one millisecond

Every fill for the millisecond that a generator remembers draws an increment and adds it to the last
value, as whole numbers: the sum is delivered if it has 80 bits and is an overflow if not. A draw
that fails ends the fill as it ended, also if the source reports an overflow of its own. An overflow
leaves the value, so whether a later fill succeeds is a question of its own draw alone.
Each success takes the value up by 1 at least and by the largest increment at most, which bounds how
many fills must succeed and how many can.
-/

namespace SortableId

namespace Counter

/-- The bound in effect is not zero, and `2 ^ 32` if none is requested. -/
theorem effectiveBound_spec (requested : UInt64) :
    1 ≤ (effectiveBound requested).toNat ∧
      (requested = 0 → (effectiveBound requested).toNat = 2 ^ 32) := by
  rw [effectiveBound]
  by_cases none : requested = 0
  · rw [if_pos none]
    exact ⟨by decide, fun _ => by decide⟩
  · rw [if_neg none]
    have positive : requested.toNat ≠ 0 := fun zero => none (UInt64.toNat_inj.mp zero)
    exact ⟨Nat.one_le_iff_ne_zero.mpr positive, fun same => absurd same none⟩

/-- What an increment above a value comes to: the bytes of the sum, or an overflow if that needs
more than 80 bits. -/
def stepped (value increment : Nat) : Outcome (Vector UInt8 10) :=
  if value + increment < 2 ^ 80 then .value (Bytes.ofNat 10 (value + increment))
  else .error .monotonicOverflow

/-- The sum of a value and an increment in words is that of the whole numbers, or an overflow. -/
theorem elim_checkedAdd (value : UInt80) (increment : UInt64) :
    ((value.checkedAdd increment).elim (.error .monotonicOverflow) fun sum => .value sum.toBytes) =
      stepped value.toNat increment.toNat := by
  rw [stepped]
  cases added : value.checkedAdd increment with
  | none =>
    have large := (UInt80.checkedAdd_eq_none_iff value increment).mp added
    rw [if_neg (Nat.not_lt.mpr large)]
    rfl
  | some sum =>
    have total := (UInt80.checkedAdd_eq_some_iff value sum increment).mp added
    rw [← total, if_pos sum.toNat_lt, ← UInt80.toBytes_eq]
    rfl

/-- An overflow is a sum of more than 80 bits. -/
theorem stepped_eq_overflow_iff (value increment : Nat) :
    stepped value increment = .error .monotonicOverflow ↔ 2 ^ 80 ≤ value + increment := by
  rw [stepped]
  split
  · rename_i small
    exact iff_of_false (fun same => by cases same) (Nat.not_le.mpr small)
  · rename_i large
    exact iff_of_true rfl (Nat.not_lt.mp large)

/-- The next value is what an increment makes of the last one, or an overflow. -/
theorem advance_eq (attempts : Nat) (bound : UInt64) (value : UInt80) :
    advance attempts bound value = (Increment.draw attempts bound).bind fun increment =>
      .done ((value.checkedAdd increment).elim (.error .monotonicOverflow) .value) := by
  rw [advance]
  congr 1
  funext increment
  cases value.checkedAdd increment <;> rfl

end Counter

/-- A source that refuses every read for the same cause. -/
structure Refusing where
  /-- The cause. -/
  cause : Error

instance : ByteSource Refusing where
  fill _ source := (.error source.cause, source)

namespace Generator

variable {σ : Type} [ByteSource σ]

/-- How the next draw of an increment ends. -/
def drawn (attempts : Nat) (generator : Generator σ) : Outcome UInt64 :=
  ((Increment.draw attempts generator.bound).run generator.source).1

/-- The largest increment of a generator. -/
def largest (generator : Generator σ) : Nat := max 1 (generator.bound.toNat - 1)

/-- Fills for one millisecond, one after another, each with its own number of attempts. -/
def fills (ms : UInt64) (tries : List Nat) (generator : Generator σ) :
    List (Outcome (Vector UInt8 10)) × Generator σ :=
  answers (fun attempts => fill attempts ms) tries generator

/-- The number that a fill delivers, if it does. -/
def number? : Outcome (Vector UInt8 10) → Option Nat
  | .value bytes => some (Bytes.toNat bytes.toList)
  | _ => none

/-- The numbers that fills deliver, in order. -/
def numbers (outcomes : List (Outcome (Vector UInt8 10))) : List Nat := outcomes.filterMap number?

/-- Numbers that fills deliver have 80 bits. -/
theorem numbers_lt (outcomes : List (Outcome (Vector UInt8 10))) :
    ∀ number ∈ numbers outcomes, number < 2 ^ 80 := by
  intro number mem
  obtain ⟨outcome, -, given⟩ := List.mem_filterMap.mp mem
  cases outcome with
  | value bytes =>
    obtain rfl := Option.some.inj given
    have small := Bytes.toNat_lt bytes.toList
    rwa [Vector.length_toList] at small
  | error cause => cases given
  | crash text => cases given
  | unfinished => cases given

/-- A sum of 80 bits is the number that is delivered. -/
theorem number_of_room (value increment : Nat) (room : value + increment < 2 ^ 80) :
    number? (Counter.stepped value increment) = some (value + increment) := by
  rw [Counter.stepped, if_pos room, number?, Bytes.toNat_ofNat, Nat.mod_eq_of_lt (by omega)]

/-- A larger sum is not delivered. -/
theorem number_of_overflow (value increment : Nat) (large : 2 ^ 80 ≤ value + increment) :
    number? (Counter.stepped value increment) = none := by
  rw [(Counter.stepped_eq_overflow_iff value increment).mpr large]
  rfl

/-- A fill for the millisecond that is remembered adds what is drawn, or ends as the draw ended. -/
theorem fill_of_memory (attempts : Nat) (ms : UInt64) (generator : Generator σ) (value : UInt80)
    (memory : generator.last = some (ms, value)) :
    (generator.fill attempts ms).1 =
      (generator.drawn attempts).bind fun increment =>
        Counter.stepped value.toNat increment.toNat := by
  rw [fill_eq, Counter.next_of_same attempts ms _ value memory, Counter.advance_eq,
    Draws.run_bind_done]
  dsimp only
  rw [← drawn]
  cases generator.drawn attempts with
  | value increment =>
    have total := Counter.elim_checkedAdd value increment
    rw [Outcome.bind, Outcome.bind, ← total]
    cases value.checkedAdd increment <;> rfl
  | error cause => rfl
  | crash text => rfl
  | unfinished => rfl

/-- The draw ends with an error exactly if a read of the fill was answered with it. -/
theorem drawn_eq_error_iff (attempts : Nat) (ms : UInt64) (generator : Generator σ) (value : UInt80)
    (memory : generator.last = some (ms, value)) (cause : Error) :
    generator.drawn attempts = .error cause ↔
      ∃ asked ∈ generator.reads attempts ms,
        (ByteSource.fill asked.1 asked.2).1 = .error cause := by
  have avoids := Increment.draw_avoids cause attempts generator.bound
  rw [reads, Counter.next_of_same attempts ms _ value memory, Counter.advance_eq,
    Draws.reads_bind_done, drawn, avoids.run_eq_error_iff]

/-- A fill overflows exactly when what is drawn needs more than 80 bits above the last value, or
when one of its reads was answered with an overflow. -/
theorem fill_overflow_iff (attempts : Nat) (ms : UInt64) (generator : Generator σ) (value : UInt80)
    (memory : generator.last = some (ms, value)) :
    (generator.fill attempts ms).1 = .error .monotonicOverflow ↔
      (∃ increment, generator.drawn attempts = .value increment ∧
        2 ^ 80 ≤ value.toNat + increment.toNat) ∨
      ∃ asked ∈ generator.reads attempts ms,
        (ByteSource.fill asked.1 asked.2).1 = .error .monotonicOverflow := by
  rw [fill_of_memory attempts ms generator value memory, Outcome.bind_eq_error_iff,
    drawn_eq_error_iff attempts ms generator value memory]
  simp only [Counter.stepped_eq_overflow_iff]

/-- It remembers what it delivers, and keeps the last value if it delivers nothing. -/
theorem fill_keeps (attempts : Nat) (ms : UInt64) (generator : Generator σ) (value : UInt80)
    (memory : generator.last = some (ms, value)) :
    let step := generator.fill attempts ms
    step.2.bound = generator.bound ∧ ∃ current, step.2.last = some (ms, current) ∧
      current.toNat = (number? step.1).getD value.toNat := by
  have same := fill_memory attempts ms generator
  generalize generator.fill attempts ms = step at same
  obtain ⟨outcome, after⟩ := step
  have bound : after.bound = generator.bound := by
    rw [same]
    cases outcome <;> rfl
  refine ⟨bound, ?_⟩
  cases outcome with
  | value bytes => exact ⟨_, congrArg Counter.last same, UInt80.toNat_ofBytes bytes⟩
  | error cause => exact ⟨value, (congrArg Counter.last same).trans memory, rfl⟩
  | crash text => exact ⟨value, (congrArg Counter.last same).trans memory, rfl⟩
  | unfinished => exact ⟨value, (congrArg Counter.last same).trans memory, rfl⟩

/-- What it delivers is an increment above the last value. -/
theorem fill_rises (bounded : ByteSource.Bounded σ) (attempts : Nat) (ms : UInt64)
    (generator : Generator σ) (value : UInt80) (memory : generator.last = some (ms, value))
    (number : Nat) (given : number? (generator.fill attempts ms).1 = some number) :
    value.toNat + 1 ≤ number ∧ number ≤ value.toNat + generator.largest := by
  generalize filled : generator.fill attempts ms = step at given
  obtain ⟨outcome, after⟩ := step
  cases outcome with
  | value bytes =>
    obtain rfl := Option.some.inj given
    have rise := (fill_of_value bounded attempts ms generator after bytes filled).above value memory
    obtain ⟨increment, ⟨first, last⟩, sum⟩ := rise
    rw [UInt80.toNat_ofBytes] at sum
    rw [largest]
    omega
  | error cause => cases given
  | crash text => cases given
  | unfinished => cases given

/-- The first fill is made first, and the others on the generator that it leaves. -/
theorem fills_cons (ms : UInt64) (attempts : Nat) (tries : List Nat) (generator : Generator σ) :
    generator.fills ms (attempts :: tries) =
      ((generator.fill attempts ms).1 :: ((generator.fill attempts ms).2.fills ms tries).1,
        ((generator.fill attempts ms).2.fills ms tries).2) := rfl

/-- Fills for the millisecond that is remembered leave their last number in its place. -/
theorem fills_keep (ms : UInt64) (tries : List Nat) (generator : Generator σ) (value : UInt80)
    (memory : generator.last = some (ms, value)) :
    let run := generator.fills ms tries
    run.2.bound = generator.bound ∧ ∃ current, run.2.last = some (ms, current) ∧
      current.toNat = (numbers run.1).getLastD value.toNat := by
  -- On the fills: the value that the first one leaves takes the place of the value before.
  induction tries generalizing generator value with
  | nil => exact ⟨rfl, value, memory, rfl⟩
  | cons attempts tries ih =>
    obtain ⟨bound, kept, last, number⟩ := fill_keeps attempts ms generator value memory
    obtain ⟨same, current, remembered, total⟩ := ih _ kept last
    rw [fills_cons]
    refine ⟨same.trans bound, current, remembered, ?_⟩
    rw [total, number, numbers, numbers]
    cases given : number? (generator.fill attempts ms).1 with
    | none => rw [List.filterMap_cons_none given, Option.getD_none]
    | some found => rw [List.filterMap_cons_some given, Option.getD_some, List.getLastD_cons]

/-- Each number that they deliver is an increment above the one before. -/
theorem fills_rise (bounded : ByteSource.Bounded σ) (ms : UInt64) (tries : List Nat)
    (generator : Generator σ) (value : UInt80) (memory : generator.last = some (ms, value)) :
    (value.toNat :: numbers (generator.fills ms tries).1).IsChain fun earlier later =>
      earlier + 1 ≤ later ∧ later ≤ earlier + generator.largest := by
  induction tries generalizing generator value with
  | nil => exact List.isChain_singleton _
  | cons attempts tries ih =>
    obtain ⟨bound, kept, last, number⟩ := fill_keeps attempts ms generator value memory
    have rest := ih _ kept last
    rw [largest, bound, ← largest, number] at rest
    rw [fills_cons, numbers]
    cases given : number? (generator.fill attempts ms).1 with
    | none =>
      rw [given, Option.getD_none] at rest
      rwa [List.filterMap_cons_none given]
    | some found =>
      rw [given, Option.getD_some] at rest
      rw [List.filterMap_cons_some given, List.isChain_cons_cons]
      exact ⟨fill_rises bounded attempts ms generator value memory found given, rest⟩

/-- Numbers that rise by 1 at least reach as far as there are numbers. -/
theorem add_length_le_getLastD (step first : Nat) (numbers : List Nat)
    (rises : (first :: numbers).IsChain fun earlier later =>
      earlier + 1 ≤ later ∧ later ≤ earlier + step) :
    first + numbers.length ≤ numbers.getLastD first := by
  induction numbers generalizing first with
  | nil => exact Nat.le_refl _
  | cons second numbers ih =>
    obtain ⟨⟨above, -⟩, rest⟩ := List.isChain_cons_cons.mp rises
    have onward := ih second rest
    rw [List.getLastD_cons, List.length_cons]
    omega

/-- A fill that adds a small enough increment to the value in memory succeeds. -/
theorem fill_of_room (bounded : ByteSource.Bounded σ) (attempts : Nat) (ms : UInt64)
    (generator : Generator σ) (value : UInt80) (memory : generator.last = some (ms, value))
    (increment : UInt64) (delivered : generator.drawn attempts = .value increment)
    (room : value.toNat + generator.largest < 2 ^ 80) :
    ∃ bytes, (generator.fill attempts ms).1 = .value bytes := by
  have ranged : Increment.InRange generator.bound increment :=
    (Increment.draw_yields attempts generator.bound).of_run bounded _ increment delivered
  have small : value.toNat + increment.toNat < 2 ^ 80 := by
    have most := ranged.2
    rw [largest] at room
    omega
  refine ⟨Bytes.ofNat 10 (value.toNat + increment.toNat), ?_⟩
  rw [fill_of_memory attempts ms generator value memory, delivered, Outcome.bind, Counter.stepped,
    if_pos small]

/-- Fills that all draw an increment all succeed while the largest ones would leave room. -/
theorem fills_of_room (bounded : ByteSource.Bounded σ) (ms : UInt64) (tries : List Nat)
    (generator : Generator σ) (value : UInt80) (memory : generator.last = some (ms, value))
    (delivers : ∀ (before : List Nat) (attempts : Nat), before ++ [attempts] <+: tries →
      ∃ increment, (generator.fills ms before).2.drawn attempts = .value increment)
    (room : value.toNat + tries.length * generator.largest < 2 ^ 80) :
    ∀ outcome ∈ (generator.fills ms tries).1, ∃ bytes, outcome = .value bytes := by
  -- On the fills: the first one takes no more of the room than one largest increment.
  induction tries generalizing generator value with
  | nil => exact fun outcome mem => absurd mem List.not_mem_nil
  | cons attempts tries ih =>
    obtain ⟨increment, delivered⟩ := delivers [] attempts ⟨tries, rfl⟩
    have total : (tries.length + 1) * generator.largest =
        tries.length * generator.largest + generator.largest := Nat.succ_mul _ _
    rw [List.length_cons, total] at room
    obtain ⟨bytes, success⟩ :=
      fill_of_room bounded attempts ms generator value memory increment delivered (by omega)
    obtain ⟨bound, kept, last, number⟩ := fill_keeps attempts ms generator value memory
    have given : number? (generator.fill attempts ms).1 = some (Bytes.toNat bytes.toList) := by
      rw [success]
      rfl
    rw [given, Option.getD_some] at number
    have rise := (fill_rises bounded attempts ms generator value memory _ given).2
    have same : (generator.fill attempts ms).2.largest = generator.largest := by
      rw [largest, bound, ← largest]
    rw [fills_cons, List.forall_mem_cons]
    refine ⟨⟨bytes, success⟩, ih _ kept last (fun before later front => ?_) ?_⟩
    · exact delivers (attempts :: before) later (List.prefix_cons_inj attempts |>.mpr front)
    · rw [same, number]
      omega

/-- With a bound of 1 the fills count on by 1 until 80 bits are used up, and overflow from there. -/
theorem fills_of_bound_one (ms : UInt64) (tries : List Nat) (generator : Generator σ)
    (value : UInt80) (memory : generator.last = some (ms, value)) (one : generator.bound = 1) :
    (generator.fills ms tries).1 =
      (List.range tries.length).map fun index => Counter.stepped value.toNat (index + 1) := by
  -- On the fills: after a success the rest counts on from there, and after an overflow every sum
  -- above the same value overflows too.
  induction tries generalizing generator value with
  | nil => rfl
  | cons attempts tries ih =>
    have draw : generator.drawn attempts = .value 1 := by
      rw [drawn, one]
      rfl
    have first : (generator.fill attempts ms).1 = Counter.stepped value.toNat 1 := by
      rw [fill_of_memory attempts ms generator value memory, draw, Outcome.bind, UInt64.toNat_one]
    obtain ⟨bound, kept, last, number⟩ := fill_keeps attempts ms generator value memory
    rw [first] at number
    have onward (index : Nat) : Counter.stepped kept.toNat (index + 1) =
        Counter.stepped value.toNat (index + 1 + 1) := by
      rw [number]
      by_cases room : value.toNat + 1 < 2 ^ 80
      · rw [number_of_room _ _ room, Option.getD_some, Counter.stepped, Counter.stepped,
          Nat.add_assoc, Nat.add_comm 1]
      · rw [number_of_overflow _ _ (by omega), Option.getD_none,
          (Counter.stepped_eq_overflow_iff _ _).mpr (by omega),
          (Counter.stepped_eq_overflow_iff _ _).mpr (by omega)]
    rw [fills_cons]
    dsimp only
    rw [ih _ kept last (bound.trans one), first, List.length_cons, List.range_succ_eq_map,
      List.map_cons, List.map_map, Nat.zero_add]
    simp only [Function.comp_def, Nat.succ_eq_add_one, onward]

/-- What fills come to, one after another, for the millisecond of the last value. -/
structure Stepping (ms : UInt64) (value : UInt80) (generator : Generator σ) (tries : List Nat) :
    Prop where
  /-- Every bound that is in effect leaves an increment, and none requested means `2 ^ 32`. -/
  effective : ∀ requested, generator.bound = Counter.effectiveBound requested →
    1 ≤ generator.bound.toNat ∧ (requested = 0 → generator.bound.toNat = 2 ^ 32)
  /-- Each success is above the value before, the first above the last value, by 1 at least and by
  the largest increment at most. -/
  rises : (value.toNat :: numbers (generator.fills ms tries).1).IsChain fun earlier later =>
    earlier + 1 ≤ later ∧ later ≤ earlier + max 1 (generator.bound.toNat - 1)
  /-- No number wraps. -/
  fits : ∀ number ∈ numbers (generator.fills ms tries).1, number < 2 ^ 80
  /-- After the fills, with any failures among them, one more adds what it draws to the number of
  the latest success: the sum is delivered if it has 80 bits. -/
  next : ∀ attempts,
    let before := generator.fills ms tries
    (before.2.fill attempts ms).1 = (before.2.drawn attempts).bind fun increment =>
      Counter.stepped ((numbers before.1).getLastD value.toNat) increment.toNat
  /-- It overflows exactly when what it draws does not leave 80 bits, or when it draws nothing since
  the source answered one of its reads with an overflow. -/
  overflow : ∀ attempts,
    let before := generator.fills ms tries
    (before.2.fill attempts ms).1 = .error .monotonicOverflow ↔
      (∃ increment, before.2.drawn attempts = .value increment ∧
        2 ^ 80 ≤ (numbers before.1).getLastD value.toNat + increment.toNat) ∨
      ∃ asked ∈ before.2.reads attempts ms,
        (ByteSource.fill asked.1 asked.2).1 = .error .monotonicOverflow
  /-- If the source delivers an increment to each fill, all succeed while the largest ones would
  leave room. -/
  room : (∀ (before : List Nat) (attempts : Nat), before ++ [attempts] <+: tries →
      ∃ increment, (generator.fills ms before).2.drawn attempts = .value increment) →
    value.toNat + tries.length * max 1 (generator.bound.toNat - 1) < 2 ^ 80 →
    ∀ outcome ∈ (generator.fills ms tries).1, ∃ bytes, outcome = .value bytes
  /-- No more fills succeed than there are numbers above the last value. -/
  few : (numbers (generator.fills ms tries).1).length ≤ 2 ^ 80 - 1 - value.toNat
  /-- With a bound of 1 the fills count on by 1 while there are numbers, and overflow from there. -/
  counts : generator.bound = 1 → (generator.fills ms tries).1 =
    (List.range tries.length).map fun index =>
      if index < 2 ^ 80 - 1 - value.toNat then .value (Bytes.ofNat 10 (value.toNat + (index + 1)))
      else .error .monotonicOverflow

/-- Within the millisecond that is remembered every success is a step from 1 to the largest
increment, a fill overflows exactly when its step leaves no 80 bits or its source reports that of
its own, and the fills that must and that can succeed are counted by the room above the last value:
for any number of fills and any source whose bounded numbers are below their bounds. -/
theorem fills_step (bounded : ByteSource.Bounded σ) (ms : UInt64) (value : UInt80)
    (generator : Generator σ) (memory : generator.last = some (ms, value)) (tries : List Nat) :
    Stepping ms value generator tries := by
  obtain ⟨-, current, remembered, total⟩ := fills_keep ms tries generator value memory
  have rises := fills_rise bounded ms tries generator value memory
  have reach := add_length_le_getLastD _ _ _ rises
  have limit := current.toNat_lt
  constructor
  case effective =>
    intro requested same
    rw [same]
    exact Counter.effectiveBound_spec requested
  case rises => exact rises
  case fits => exact fun number mem => numbers_lt _ number mem
  case next =>
    intro attempts before
    rw [fill_of_memory attempts ms before.2 current remembered, total]
  case overflow =>
    intro attempts before
    rw [fill_overflow_iff attempts ms before.2 current remembered, total]
  case room => exact fills_of_room bounded ms tries generator value memory
  case few => omega
  case counts =>
    intro one
    rw [fills_of_bound_one ms tries generator value memory one]
    apply List.map_congr_left
    intro index mem
    rw [Counter.stepped]
    exact if_congr (by omega) rfl rfl

/-- A generator resumed three below the end, whose script draws the increments 6, 1, 2, 1 and 1: the
ones that do not fit overflow, and the others succeed in between. -/
theorem fills_step_to_the_end :
    let value : UInt80 := ⟨0xFFFF, 0xFFFFFFFFFFFFFFFD⟩
    let source : Script := ⟨[], [some 5, some 0, some 1, some 0, some 0]⟩
    let generator := resume 5 value 10 source
    let tries := [1, 1, 1, 1, 1]
    generator.last = some (5, value) ∧ Stepping 5 value generator tries ∧
      (generator.fills 5 tries).1.map number? =
        [none, some (2 ^ 80 - 2), none, some (2 ^ 80 - 1), none] := by
  intro value source generator tries
  refine ⟨rfl, fills_step script_bounded 5 value generator rfl tries, ?_⟩
  decide +kernel

/-- A source may report an overflow of its own, as one that asks another generator does: then a fill
overflows although the increment, which is not even drawn, would leave 80 bits. -/
theorem overflow_without_increment :
    let value : UInt80 := ⟨0, 0⟩
    let generator : Generator Refusing := resume 5 value 10 ⟨.monotonicOverflow⟩
    ByteSource.Bounded Refusing ∧ generator.last = some (5, value) ∧
      value.toNat + generator.largest < 2 ^ 80 ∧
      ¬ ((generator.fill 1 5).1 = .error .monotonicOverflow ↔
        ∃ increment, generator.drawn 1 = .value increment ∧
          2 ^ 80 ≤ value.toNat + increment.toNat) := by
  intro value generator
  have bounded : ByteSource.Bounded Refusing := by
    intro bound source answer nonzero answered
    cases answered
  have refused : generator.drawn 1 = .error .monotonicOverflow := by decide
  have overflow : (generator.fill 1 5).1 = .error .monotonicOverflow := by decide
  refine ⟨bounded, rfl, by decide, fun exactly => ?_⟩
  obtain ⟨increment, drawn, -⟩ := exactly.mp overflow
  rw [refused] at drawn
  cases drawn

end Generator

end SortableId
