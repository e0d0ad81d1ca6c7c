import Mathlib
import SortableId.Generator.Basic
import SortableId.Source.Plain
import SortableId.Proofs.EntropyValue

/-!
# What draws can yield

A computation over a byte source can meet any bytes and any native answer below the bound that it
asked for. `Draws.Yields` is a condition on every value that it can end with then, and a run from a
bounded source ends with such a value or with none. Of an increment the condition is its range, of
the next value of a counter it is the distance from the last one. `Draws.Avoids` says of an error
that the computation does not report it of its own; a run ends with it exactly if one of its reads,
`Draws.reads`, was answered with it.
-/

namespace SortableId

/-- A source whose native answers are below the bound that was asked for, which is not zero. -/
def ByteSource.Bounded (σ : Type) [ByteSource σ] : Prop :=
  ∀ (bound : UInt64) (source : σ) (answer : UInt64), bound ≠ 0 →
    (ByteSource.below bound source).1 = some answer → answer < bound

/-- Zeros are below every bound. -/
theorem zeros_bounded : ByteSource.Bounded Zeros := by
  intro bound source answer nonzero answered
  obtain rfl : 0 = answer := Option.some.inj answered
  exact UInt64.pos_iff_ne_zero.mpr nonzero

/-- A repeated byte is no answer to a bounded request. -/
theorem repeated_bounded : ByteSource.Bounded Repeated := nofun

/-- A script takes its answers modulo the bound. -/
theorem script_bounded : ByteSource.Bounded Script := by
  intro bound source answer nonzero answered
  obtain ⟨draws, answers⟩ := source
  cases answers with
  | nil => cases answered
  | cons first rest =>
    obtain ⟨given, -, rfl⟩ := Option.map_eq_some_iff.mp answered
    exact UInt64.mod_lt given (UInt64.pos_iff_ne_zero.mpr nonzero)

namespace Draws

variable {α β σ : Type}

/-- Every value that the draws can end with meets a condition, whatever bytes are read and
whichever numbers below their bounds are picked. -/
def Yields (condition : α → Prop) : Draws α → Prop
  | done (.value result) => condition result
  | done _ => True
  | read _ next => ∀ bytes, (next bytes).Yields condition
  | pick bound next => bound ≠ 0 ∧ (next none).Yields condition ∧
      ∀ answer < bound, (next (some answer)).Yields condition

/-- Going on from every value that the first draws can end with. -/
theorem Yields.bind {first : α → Prop} {condition : β → Prop} {draws : Draws α}
    {next : α → Draws β} (yields : draws.Yields first)
    (onward : ∀ result, first result → (next result).Yields condition) :
    (draws.bind next).Yields condition := by
  induction draws with
  | done outcome =>
    cases outcome with
    | value result => exact onward result yields
    | error cause => trivial
    | crash text => trivial
    | unfinished => trivial
  | read size more ih => exact fun bytes => ih bytes (yields bytes)
  | pick bound more ih =>
    obtain ⟨nonzero, unanswered, answered⟩ := yields
    refine ⟨nonzero, ih none unanswered, fun answer small => ?_⟩
    exact ih (some answer) (answered answer small)

/-- A value that a run from a bounded source ends with is one that the draws can yield. -/
theorem Yields.of_run [ByteSource σ] (bounded : ByteSource.Bounded σ) {condition : α → Prop}
    {draws : Draws α} (yields : draws.Yields condition) (source : σ) (result : α)
    (ran : (draws.run source).1 = .value result) : condition result := by
  induction draws generalizing source with
  | done outcome =>
    obtain rfl : outcome = .value result := ran
    exact yields
  | read size next ih =>
    rw [run] at ran
    split at ran
    · rename_i bytes after filled
      exact ih bytes (yields bytes) after ran
    · exact nomatch ran
    · exact nomatch ran
    · exact nomatch ran
  | pick bound next ih =>
    obtain ⟨nonzero, unanswered, answered⟩ := yields
    rw [run] at ran
    generalize asked : ByteSource.below bound source = reply at ran
    obtain ⟨answer, after⟩ := reply
    dsimp only at ran
    -- A native primitive that crashes ends the run, so its answer does not matter.
    split at ran
    · exact nomatch ran
    · cases answer with
      | none => exact ih none unanswered after ran
      | some answer =>
        have small := bounded bound source answer nonzero (congrArg Prod.fst asked)
        exact ih (some answer) (answered answer small) after ran

/-- Draws that end with a value go on from it. -/
theorem run_bind [ByteSource σ] (draws : Draws α) (next : α → Draws β) (source after : σ)
    (result : α) (ran : draws.run source = (.value result, after)) :
    (draws.bind next).run source = (next result).run after := by
  induction draws generalizing source with
  | done outcome =>
    obtain ⟨rfl, rfl⟩ := Prod.mk.inj ran
    rfl
  | read size more ih =>
    rw [run] at ran
    rw [bind, run]
    cases filled : ByteSource.fill size source with
    | mk outcome state =>
      rw [filled] at ran
      cases outcome with
      | value bytes => exact ih bytes state ran
      | error cause => cases ran
      | crash text => cases ran
      | unfinished => cases ran
  | pick bound more ih =>
    rw [run] at ran
    rw [bind, run]
    cases crashed : ByteSource.belowCrash bound source with
    | none =>
      rw [crashed] at ran
      exact ih _ _ ran
    | some text =>
      rw [crashed] at ran
      cases ran

/-- Draws that do not end with an error, whatever bytes and numbers they get. -/
def Avoids (cause : Error) : Draws α → Prop
  | done outcome => outcome ≠ .error cause
  | read _ next => ∀ bytes, (next bytes).Avoids cause
  | pick _ next => ∀ answer, (next answer).Avoids cause

/-- Draws that go on from others avoid what both avoid. -/
theorem Avoids.bind {cause : Error} {draws : Draws α} {next : α → Draws β}
    (avoids : draws.Avoids cause) (onward : ∀ result, (next result).Avoids cause) :
    (draws.bind next).Avoids cause := by
  induction draws with
  | done outcome =>
    cases outcome with
    | value result => exact onward result
    | error other =>
      rintro ⟨⟩
      exact avoids rfl
    | crash text => exact nofun
    | unfinished => exact nofun
  | read size more ih => exact fun bytes => ih bytes (avoids bytes)
  | pick bound more ih => exact fun answer => ih answer (avoids answer)

/-- The reads that a run makes, in order, each with its size and the source as it is then. -/
def reads [ByteSource σ] : Draws α → σ → List (Nat × σ)
  | done _, _ => []
  | read size next, source =>
    (size, source) ::
      match ByteSource.fill size source with
      | (.value bytes, after) => (next bytes).reads after
      | _ => []
  | pick bound next, source =>
    match ByteSource.belowCrash bound source with
    | some _ => []
    | none => (next (ByteSource.below bound source).1).reads (ByteSource.below bound source).2

/-- A run ends with an error that its draws avoid exactly if one of its reads was answered with
it. -/
theorem Avoids.run_eq_error_iff [ByteSource σ] {cause : Error} {draws : Draws α}
    (avoids : draws.Avoids cause) (source : σ) :
    (draws.run source).1 = .error cause ↔
      ∃ asked ∈ draws.reads source, (ByteSource.fill asked.1 asked.2).1 = .error cause := by
  induction draws generalizing source with
  | done outcome =>
    refine iff_of_false avoids ?_
    rintro ⟨asked, mem, -⟩
    exact List.not_mem_nil mem
  | read size next ih =>
    rw [run, reads]
    cases filled : ByteSource.fill size source with
    | mk outcome after =>
      -- The first read ends the run with its own error, or gives bytes to go on with.
      have first : (ByteSource.fill size source).1 = outcome := congrArg Prod.fst filled
      cases outcome with
      | value bytes =>
        have rest := ih bytes (avoids bytes) after
        simp only [List.exists_mem_cons_iff, first, reduceCtorEq, false_or]
        exact rest
      | error found => simp [first]
      | crash text => simp [first]
      | unfinished => simp [first]
  | pick bound next ih =>
    rw [run, reads]
    dsimp only
    cases ByteSource.belowCrash bound source with
    | some text => simp
    | none => exact ih _ (avoids _) _

/-- Draws that end with what a function makes of the value of others end as that. -/
theorem run_bind_done [ByteSource σ] (draws : Draws α) (next : α → Outcome β) (source : σ) :
    (draws.bind fun result => .done (next result)).run source =
      ((draws.run source).1.bind next, (draws.run source).2) := by
  induction draws generalizing source with
  | done outcome => cases outcome <;> rfl
  | read size more ih =>
    rw [bind, run, run]
    cases ByteSource.fill size source with
    | mk outcome after =>
      cases outcome with
      | value bytes => exact ih bytes after
      | error cause => rfl
      | crash text => rfl
      | unfinished => rfl
  | pick bound more ih =>
    rw [bind, run, run]
    dsimp only
    split
    · rfl
    · exact ih _ _

/-- They make the reads of the others. -/
theorem reads_bind_done [ByteSource σ] (draws : Draws α) (next : α → Outcome β) (source : σ) :
    (draws.bind fun result => .done (next result)).reads source = draws.reads source := by
  induction draws generalizing source with
  | done outcome => cases outcome <;> rfl
  | read size more ih =>
    rw [bind, reads, reads]
    cases ByteSource.fill size source with
    | mk outcome after =>
      cases outcome with
      | value bytes => exact congrArg _ (ih bytes after)
      | error cause => rfl
      | crash text => rfl
      | unfinished => rfl
  | pick bound more ih =>
    rw [bind, reads, reads]
    cases ByteSource.belowCrash bound source with
    | some text => rfl
    | none => exact ih _ _

end Draws

namespace Increment

/-- An increment for a bound: at least 1, and below the bound unless that leaves only 1. -/
def InRange (bound increment : UInt64) : Prop :=
  1 ≤ increment.toNat ∧ increment.toNat ≤ max 1 (bound.toNat - 1)

/-- A candidate that is accepted is an increment for the bound. -/
theorem inRange_of_accepts (bound found : UInt64) (accepted : accepts bound found = true) :
    InRange bound found := by
  rw [accepts, Bool.and_eq_true, decide_eq_true_iff, decide_eq_true_iff, UInt64.le_iff_toNat_le,
    UInt64.lt_iff_toNat_lt, UInt64.toNat_one] at accepted
  rw [InRange]
  omega

/-- A search yields increments only. -/
theorem search_yields (bound : UInt64) (attempts : Nat) :
    (search bound attempts).Yields (InRange bound) := by
  induction attempts with
  | zero => trivial
  | succ attempts ih =>
    intro bytes
    dsimp only
    split
    · rename_i accepted
      exact inRange_of_accepts bound _ accepted
    · exact ih

/-- A native answer below the largest increment is one less than an increment. -/
theorem inRange_of_below (bound answer : UInt64) (large : ¬ bound ≤ 1)
    (small : answer < bound - 1) : InRange bound (1 + answer) := by
  have bits := bound.toNat_lt
  rw [UInt64.le_iff_toNat_le, UInt64.toNat_one] at large
  have one : (1 : UInt64) ≤ bound := by
    rw [UInt64.le_iff_toNat_le, UInt64.toNat_one]
    omega
  rw [UInt64.lt_iff_toNat_lt, UInt64.toNat_sub_of_le bound 1 one, UInt64.toNat_one] at small
  rw [InRange, UInt64.toNat_add, UInt64.toNat_one]
  omega

/-- A draw yields increments only. -/
theorem draw_yields (attempts : Nat) (bound : UInt64) :
    (draw attempts bound).Yields (InRange bound) := by
  rw [draw]
  split
  · exact ⟨Nat.le_refl 1, Nat.le_max_left 1 _⟩
  · rename_i large
    refine ⟨?_, search_yields bound attempts, fun answer small => ?_⟩
    · intro zero
      apply large
      rw [UInt64.le_iff_toNat_le]
      have wrapped := congrArg (fun number : UInt64 => (number + 1).toNat) zero
      simp only [UInt64.sub_add_cancel] at wrapped
      exact wrapped.le
    · exact inRange_of_below bound answer large small

/-- A search reports no error. -/
theorem search_avoids (cause : Error) (bound : UInt64) (attempts : Nat) :
    (search bound attempts).Avoids cause := by
  induction attempts with
  | zero => exact nofun
  | succ attempts ih =>
    intro bytes
    dsimp only
    split
    · exact nofun
    · exact ih

/-- Drawing an increment reports no error. -/
theorem draw_avoids (cause : Error) (attempts : Nat) (bound : UInt64) :
    (draw attempts bound).Avoids cause := by
  rw [draw]
  split
  · exact nofun
  · intro answer
    cases answer with
    | some answer => exact nofun
    | none => exact search_avoids cause bound attempts

end Increment

namespace Counter

/-- One value is reached from another by an increment for a bound, without a wrap. -/
def Advances (bound : UInt64) (value sum : UInt80) : Prop :=
  ∃ increment, Increment.InRange bound increment ∧ sum.toNat = value.toNat + increment.toNat

/-- An increment is at least 1. -/
theorem Advances.lt {bound : UInt64} {value sum : UInt80} (advances : Advances bound value sum) :
    value.toNat < sum.toNat := by
  obtain ⟨increment, ranged, total⟩ := advances
  have positive := ranged.1
  omega

/-- The value after another is an increment above it. -/
theorem advance_yields (attempts : Nat) (bound : UInt64) (value : UInt80) :
    (advance attempts bound value).Yields (Advances bound value) := by
  apply (Increment.draw_yields attempts bound).bind
  intro increment ranged
  cases added : value.checkedAdd increment with
  | none => trivial
  | some sum => exact ⟨increment, ranged, ((UInt80.checkedAdd_eq_some_iff _ _ _).mp added)⟩

/-- Within the last millisecond the next value is drawn above the last one. -/
theorem next_of_same (attempts : Nat) (ms : UInt64) (counter : Counter) (last : UInt80)
    (memory : counter.last = some (ms, last)) :
    counter.next attempts ms = advance attempts counter.bound last := by
  simp only [next, memory, ↓reduceIte]

/-- In any other millisecond the next value is drawn fresh. -/
theorem next_of_other (attempts : Nat) (ms : UInt64) (counter : Counter)
    (other : ∀ last, counter.last ≠ some (ms, last)) : counter.next attempts ms = fresh := by
  rw [next]
  split
  · rename_i tick last memory
    have later : tick ≠ ms := by
      rintro rfl
      exact other last memory
    rw [if_neg later]
  · rfl

/-- The next value of a counter leads to no error but its own. -/
theorem next_avoids {cause : Error} (other : cause ≠ .monotonicOverflow) (attempts : Nat)
    (ms : UInt64) (counter : Counter) : (counter.next attempts ms).Avoids cause := by
  have fresh : fresh.Avoids cause := fun bytes => nofun
  have advance (value : UInt80) : (advance attempts counter.bound value).Avoids cause := by
    refine (Increment.draw_avoids cause attempts counter.bound).bind fun increment => ?_
    cases value.checkedAdd increment with
    | some sum => exact nofun
    | none =>
      rintro ⟨⟩
      exact other rfl
  rw [next]
  split
  · split
    · exact advance _
    · exact fresh
  · exact fresh

end Counter

end SortableId
