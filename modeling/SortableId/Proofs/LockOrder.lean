import Mathlib
import SortableId.Shared
import SortableId.Proofs.OverZeros

/-!
# The order of grants behind one lock

All handles of a shared generator draw from one memory, and that memory holds the last value alone.
So the order in which calls take the lock orders the values of a millisecond as long as no value of
another one comes in between; coming back to a millisecond starts over with fresh bytes, and then
nothing keeps a value from being granted twice.
-/

namespace SortableId.Shared

variable {σ : Type} [ByteSource σ]

/-- A call by some handle of a shared generator. Which handle it is makes no difference. -/
inductive Call where
  /-- Entropy bytes for a millisecond. -/
  | fill (attempts : Nat) (ms : UInt64)
  /-- An identifier. -/
  | next (attempts : Nat) (ms : UInt64)
  /-- Plain bytes. -/
  | read (size : Nat)
  /-- One handle more. -/
  | clone
  /-- One handle less. -/
  | drop

/-- The millisecond and the entropy value that a call grants, if it succeeds with one, and the
shared generator afterwards. -/
def Call.step : Call → Shared σ → Option (UInt64 × UInt80) × Shared σ
  | fill attempts ms, shared =>
    match shared.fill attempts ms with
    | (.value bytes, after) => (some (ms, UInt80.ofBytes bytes), after)
    | (_, after) => (none, after)
  | next attempts ms, shared =>
    match Ulid.withMonotonic attempts ms shared with
    | (.value id, after) => (some (ms, id.entropyValue), after)
    | (_, after) => (none, after)
  | read size, shared => (none, (shared.read size).2)
  | clone, shared => (none, shared.clone)
  | drop, shared => (none, shared.drop)

/-- What calls grant in the order in which they take the lock. -/
def granted : List Call → Shared σ → List (UInt64 × UInt80)
  | [], _ => []
  | call :: calls, shared =>
    (call.step shared).1.toList ++ granted calls (call.step shared).2

/-- The generator behind the lock. -/
def generator (shared : Shared σ) : Generator σ := shared.lock.content

/-- An action under the lock is refused without a change, or is one on the content. -/
theorem enter_cases {α β : Type} (action : α → Outcome β × α) (guarded : Guarded α) :
    guarded.enter action = (.error .lockPoisoned, guarded) ∨
      guarded.enter action =
        ((action guarded.content).1,
          ⟨(action guarded.content).2, (action guarded.content).1.isCrash⟩) := by
  rw [Guarded.enter]
  split
  · exact .inl rfl
  · exact .inr rfl

/-- A fill is refused without a change, or is one of the generator behind the lock. -/
theorem fill_cases (attempts : Nat) (ms : UInt64) (shared after : Shared σ)
    (outcome : Outcome (Vector UInt8 10)) (filled : shared.fill attempts ms = (outcome, after)) :
    (outcome = .error .lockPoisoned ∧ after = shared) ∨
      shared.generator.fill attempts ms = (outcome, after.generator) := by
  rw [fill] at filled
  rcases enter_cases (Generator.fill attempts ms) shared.lock with refused | entered
  · rw [refused] at filled
    obtain ⟨rfl, rfl⟩ := Prod.mk.inj filled
    exact .inl ⟨rfl, rfl⟩
  · rw [entered] at filled
    obtain ⟨rfl, rfl⟩ := Prod.mk.inj filled
    exact .inr rfl

/-- A fill with a value has filled the generator behind the lock. -/
theorem fill_of_value (bounded : ByteSource.Bounded σ) (attempts : Nat) (ms : UInt64)
    (shared after : Shared σ) (bytes : Vector UInt8 10)
    (filled : shared.fill attempts ms = (.value bytes, after)) :
    Generator.Filled ms shared.generator after.generator (UInt80.ofBytes bytes) := by
  obtain ⟨refused, -⟩ | inner := fill_cases attempts ms shared after _ filled
  · exact nomatch refused
  · exact Generator.fill_of_value bounded attempts ms _ _ bytes inner

/-- A fill without a value leaves the memory behind the lock alone. -/
theorem fill_of_failure (attempts : Nat) (ms : UInt64) (shared after : Shared σ)
    (outcome : Outcome (Vector UInt8 10)) (filled : shared.fill attempts ms = (outcome, after))
    (failed : ∀ bytes, outcome ≠ .value bytes) :
    after.generator.toCounter = shared.generator.toCounter := by
  obtain ⟨-, rfl⟩ | inner := fill_cases attempts ms shared after _ filled
  · rfl
  · exact Generator.fill_of_failure attempts ms _ _ outcome inner failed

/-- A plain read leaves the memory behind the lock alone. -/
theorem read_memory (size : Nat) (shared : Shared σ) :
    (shared.read size).2.generator.toCounter = shared.generator.toCounter := by
  rw [read]
  rcases enter_cases (ByteSource.fill size) shared.lock with refused | entered
  · rw [refused]
  · rw [entered]
    rfl

/-- What a call can do: grant nothing and leave the memory alone, or grant a value and remember
it. -/
theorem Call.step_cases (bounded : ByteSource.Bounded σ) (call : Call) (shared : Shared σ) :
    ((call.step shared).1 = none ∧
        (call.step shared).2.generator.toCounter = shared.generator.toCounter) ∨
      ∃ ms value, (call.step shared).1 = some (ms, value) ∧
        Generator.Filled ms shared.generator (call.step shared).2.generator value := by
  cases call with
  | fill attempts ms =>
    rw [step]
    split
    · rename_i bytes after filled
      exact .inr ⟨ms, _, rfl, fill_of_value bounded attempts ms shared after bytes filled⟩
    · rename_i outcome after failed filled
      exact .inl ⟨rfl, fill_of_failure attempts ms shared after outcome filled failed⟩
  | next attempts ms =>
    rw [step]
    split
    · rename_i id after made
      obtain ⟨-, filled⟩ := Ulid.withMonotonic_of_value attempts ms shared after id made
      exact .inr ⟨ms, _, rfl, fill_of_value bounded attempts ms shared after id.entropy filled⟩
    · rename_i outcome after failed made
      refine .inl ⟨rfl, ?_⟩
      obtain rfl | ⟨fill, nothing, filled⟩ :=
        Ulid.withMonotonic_of_failure attempts ms shared after outcome made failed
      · rfl
      · exact fill_of_failure attempts ms shared after fill filled nothing
  | read size => exact .inl ⟨rfl, read_memory size shared⟩
  | clone => exact .inl ⟨rfl, rfl⟩
  | drop => exact .inl ⟨rfl, rfl⟩

/-- A list has no repetitions when no entry occurs in front of an occurrence of itself. -/
theorem nodup_of_splits {α : Type} (entries : List α)
    (apart : ∀ before entry between after,
      entries ≠ before ++ entry :: between ++ entry :: after) : entries.Nodup := by
  induction entries with
  | nil => exact List.nodup_nil
  | cons entry entries ih =>
    rw [List.nodup_cons]
    constructor
    · intro mem
      obtain ⟨between, after, split⟩ := List.append_of_mem mem
      exact apart [] entry between after (congrArg (entry :: ·) split)
    · apply ih
      intro before other between after split
      exact apart (entry :: before) other between after (congrArg (entry :: ·) split)

/-- While the grants stay at one millisecond, each is above the value remembered for it. -/
theorem granted_above_memory (bounded : ByteSource.Bounded σ) (calls : List Call)
    (shared : Shared σ) (ms : UInt64) (last later : UInt80) (between after : List (UInt64 × UInt80))
    (memory : shared.generator.last = some (ms, last))
    (split : granted calls shared = between ++ (ms, later) :: after)
    (same : ∀ grant ∈ between, grant.1 = ms) : last.toNat < later.toNat := by
  -- The memory moves up with every grant in between, since each is for the same millisecond.
  induction calls generalizing shared last between with
  | nil => exact absurd split.symm (List.append_ne_nil_of_right_ne_nil _ (List.cons_ne_nil _ _))
  | cons call calls ih =>
    rw [granted] at split
    obtain ⟨nothing, kept⟩ | ⟨time, value, given, filled⟩ := call.step_cases bounded shared
    · rw [nothing, Option.toList_none, List.nil_append] at split
      exact ih _ last between ((congrArg Counter.last kept).trans memory) split same
    · rw [given, Option.toList_some, List.singleton_append] at split
      cases between with
      | nil =>
        obtain ⟨first, -⟩ := List.cons.inj split
        obtain ⟨rfl, rfl⟩ := Prod.mk.inj first
        exact (filled.above last memory).lt
      | cons grant between =>
        obtain ⟨rfl, rest⟩ := List.cons.inj split
        obtain rfl : time = ms := same _ List.mem_cons_self
        have next := ih _ value between filled.recorded rest
          fun grant mem => same grant (List.mem_cons_of_mem _ mem)
        exact Nat.lt_trans (filled.above last memory).lt next

/-- Of two grants for one millisecond without a grant for another in between, the later one is
above the earlier one. -/
theorem granted_above (bounded : ByteSource.Bounded σ) (calls : List Call) (shared : Shared σ)
    (ms : UInt64) (earlier later : UInt80) (before between after : List (UInt64 × UInt80))
    (split : granted calls shared = before ++ (ms, earlier) :: between ++ (ms, later) :: after)
    (same : ∀ grant ∈ between, grant.1 = ms) : earlier.toNat < later.toNat := by
  induction calls generalizing shared before with
  | nil => exact absurd split.symm (List.append_ne_nil_of_right_ne_nil _ (List.cons_ne_nil _ _))
  | cons call calls ih =>
    rw [granted] at split
    obtain ⟨nothing, -⟩ | ⟨time, value, given, filled⟩ := call.step_cases bounded shared
    · rw [nothing, Option.toList_none, List.nil_append] at split
      exact ih _ before split
    · rw [given, Option.toList_some, List.singleton_append] at split
      cases before with
      | nil =>
        obtain ⟨first, rest⟩ := List.cons.inj split
        obtain ⟨rfl, rfl⟩ := Prod.mk.inj first
        exact granted_above_memory bounded calls _ time value later between after filled.recorded
          rest same
      | cons grant before =>
        obtain ⟨-, rest⟩ := List.cons.inj split
        exact ih _ before rest

/-- A millisecond that times have left does not come back. -/
def NeverReturns (times : List UInt64) : Prop :=
  ∀ before ms between after, times = before ++ ms :: between ++ ms :: after →
    ∀ time ∈ between, time = ms

/-- Nothing is granted twice while no millisecond comes back. -/
theorem granted_nodup (bounded : ByteSource.Bounded σ) (calls : List Call) (shared : Shared σ)
    (neverReturns : NeverReturns ((granted calls shared).map Prod.fst)) :
    (granted calls shared).Nodup := by
  apply nodup_of_splits
  rintro before ⟨ms, value⟩ between after split
  have times := congrArg (List.map Prod.fst) split
  rw [List.map_append, List.map_append, List.map_cons, List.map_cons] at times
  have same := neverReturns _ ms _ _ times
  exact Nat.lt_irrefl _ (granted_above bounded calls shared ms value value before between after
    split fun grant mem => same _ (List.mem_map_of_mem mem))

/-- The shared generator after calls, in the order in which they take the lock. -/
def after : List Call → Shared σ → Shared σ
  | [], shared => shared
  | call :: calls, shared => after calls (call.step shared).2

/-- Calls in front of others grant first. -/
theorem granted_append (front back : List Call) (shared : Shared σ) :
    granted (front ++ back) shared = granted front shared ++ granted back (after front shared) := by
  induction front generalizing shared with
  | nil => rfl
  | cons call front ih => rw [List.cons_append, granted, granted, ih, after, List.append_assoc]

/-- A fill under a lock that is not poisoned is one of the generator behind it. -/
theorem fill_of_open (attempts : Nat) (ms : UInt64) (shared : Shared σ)
    (opened : shared.lock.poisoned = false) :
    shared.fill attempts ms =
      ((shared.generator.fill attempts ms).1,
        { shared with
          lock := ⟨(shared.generator.fill attempts ms).2,
            (shared.generator.fill attempts ms).1.isCrash⟩ }) := by
  rw [fill, Guarded.enter, opened]
  rfl

/-- Over zeros, a call for a millisecond that is not remembered is granted zero. -/
theorem fresh_over_zeros (ms : UInt64) (shared : Shared Zeros)
    (opened : shared.lock.poisoned = false)
    (other : ∀ last, shared.generator.last ≠ some (ms, last)) :
    ((Call.fill 1 ms).step shared).1 = some (ms, .zero) := by
  rw [Call.step, fill_of_open 1 ms shared opened,
    Generator.fill_fresh_over_zeros 1 ms shared.generator other]
  rfl

/-- Over zeros, a call leaves the lock open and its millisecond remembered. -/
theorem step_over_zeros (ms : UInt64) (shared : Shared Zeros)
    (opened : shared.lock.poisoned = false) :
    ((Call.fill 1 ms).step shared).2.lock.poisoned = false ∧
      ∃ last, ((Call.fill 1 ms).step shared).2.generator.last = some (ms, last) := by
  have state : ((Call.fill 1 ms).step shared).2 = (shared.fill 1 ms).2 := by
    rw [Call.step]
    split
    · rename_i filled
      rw [filled]
    · rename_i filled
      rw [filled]
  rw [state, fill_of_open 1 ms shared opened]
  exact Generator.fill_over_zeros 1 ms shared.generator

/-- Over zeros, calls leave the lock open and the last millisecond remembered. -/
theorem after_over_zeros (times : List UInt64) (time : UInt64) (shared : Shared Zeros)
    (opened : shared.lock.poisoned = false) :
    (after ((times ++ [time]).map (Call.fill 1)) shared).lock.poisoned = false ∧
      ∃ last, (after ((times ++ [time]).map (Call.fill 1)) shared).generator.last =
        some (time, last) := by
  induction times generalizing shared with
  | nil => exact step_over_zeros time shared opened
  | cons first times ih => exact ih _ (step_over_zeros first shared opened).1

/-- Over zeros, a millisecond that is not remembered is granted zero at its first call. -/
theorem zero_granted (times : List UInt64) (ms : UInt64) (mem : ms ∈ times)
    (shared : Shared Zeros) (opened : shared.lock.poisoned = false)
    (other : ∀ last, shared.generator.last ≠ some (ms, last)) :
    (ms, UInt80.zero) ∈ granted (times.map (Call.fill 1)) shared := by
  induction times generalizing shared with
  | nil => exact absurd mem List.not_mem_nil
  | cons time times ih =>
    rw [List.map_cons, granted, List.mem_append]
    by_cases same : time = ms
    · subst same
      rw [fresh_over_zeros time shared opened other]
      exact .inl List.mem_cons_self
    · obtain ⟨stillOpen, last, memory⟩ := step_over_zeros time shared opened
      have later : ms ∈ times := (List.mem_cons.mp mem).resolve_left (Ne.symm same)
      refine .inr (ih later _ stillOpen fun value remembered => same ?_)
      exact congrArg Prod.fst (Option.some.inj (memory.symm.trans remembered))

/-- Over zeros, a millisecond that comes back is granted zero again. -/
theorem returning_over_zeros (times : List UInt64) (requested : UInt64)
    (returns : ¬ NeverReturns times) :
    ¬ (granted (times.map (Call.fill 1)) (Shared.new Zeros.mk requested)).Nodup := by
  rw [NeverReturns] at returns
  push Not at returns
  obtain ⟨before, ms, between, rest, rfl, time, mem, other⟩ := returns
  obtain ⟨near, far, rfl⟩ := List.append_of_mem mem
  -- Cut right after the other millisecond: on either side of the cut the first call is granted
  -- zero.
  have split : before ++ ms :: (near ++ time :: far) ++ ms :: rest =
      (before ++ ms :: near ++ [time]) ++ (far ++ ms :: rest) := by simp
  obtain ⟨opened, last, memory⟩ :=
    after_over_zeros (before ++ ms :: near) time (Shared.new Zeros.mk requested) rfl
  have first := zero_granted (before ++ ms :: near ++ [time]) ms (by simp)
    (Shared.new Zeros.mk requested) rfl fun last => nofun
  have again := zero_granted (far ++ ms :: rest) ms (by simp) _ opened fun value remembered =>
    other (congrArg Prod.fst (Option.some.inj (memory.symm.trans remembered)))
  rw [split, List.map_append, granted_append]
  exact fun distinct => List.disjoint_of_nodup_append distinct first again

/-- In the order in which the calls of all handles take the lock, of two grants for one millisecond
the later is above the earlier unless one for another millisecond came in between. So nothing is
granted twice while no millisecond comes back after another one, and the condition is exact:
whenever one does, zeros are a source that grants something twice. -/
theorem lock_order (bounded : ByteSource.Bounded σ) (shared : Shared σ) (calls : List Call) :
    (∀ before ms earlier between later after,
      granted calls shared = before ++ (ms, earlier) :: between ++ (ms, later) :: after →
      (∀ grant ∈ between, grant.1 = ms) → earlier.toNat < later.toNat) ∧
    (NeverReturns ((granted calls shared).map Prod.fst) → (granted calls shared).Nodup) ∧
    ∀ times requested, ¬ NeverReturns times →
      ¬ (granted (times.map (Call.fill 1)) (Shared.new Zeros.mk requested)).Nodup := by
  refine ⟨?_, granted_nodup bounded calls shared, returning_over_zeros⟩
  intro before ms earlier between later after
  exact granted_above bounded calls shared ms earlier later before between after

/-- Two grants in one millisecond and one in the next, by two handles over zeros. -/
theorem lock_order_over_zeros :
    let shared := Shared.new Zeros.mk 1
    let calls := [Call.next 1 5, .clone, .read 4, .fill 1 5, .next 1 6]
    granted calls shared = [(5, ⟨0, 0⟩), (5, ⟨0, 1⟩), (6, ⟨0, 0⟩)] ∧
      UInt80.toNat ⟨0, 0⟩ < UInt80.toNat ⟨0, 1⟩ := by
  intro shared calls
  have grants : granted calls shared = [(5, ⟨0, 0⟩), (5, ⟨0, 1⟩), (6, ⟨0, 0⟩)] := by
    decide +kernel
  exact ⟨grants, (lock_order zeros_bounded shared calls).1 [] 5 _ [] _ _ grants nofun⟩

/-- A call for another millisecond that takes the lock in between starts the millisecond over: the
value before is granted again, although the bounded numbers of the source are in range. -/
theorem crossing_times_repeat :
    ByteSource.Bounded Zeros ∧
      granted [.next 1 5, .next 1 6, .next 1 5] (Shared.new Zeros.mk 1) =
        [(5, ⟨0, 0⟩), (6, ⟨0, 0⟩), (5, ⟨0, 0⟩)] ∧
      ¬ UInt80.toNat ⟨0, 0⟩ < UInt80.toNat ⟨0, 0⟩ ∧
      ¬ (granted [.next 1 5, .next 1 6, .next 1 5] (Shared.new Zeros.mk 1)).Nodup := by
  have grants : granted [.next 1 5, .next 1 6, .next 1 5] (Shared.new Zeros.mk 1) =
      [(5, ⟨0, 0⟩), (6, ⟨0, 0⟩), (5, ⟨0, 0⟩)] := by
    decide +kernel
  refine ⟨zeros_bounded, grants, Nat.lt_irrefl _, ?_⟩
  rw [grants]
  decide

end SortableId.Shared
