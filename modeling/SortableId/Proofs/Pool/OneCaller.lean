import Mathlib
import SortableId.Proofs.Calls
import SortableId.Proofs.Pool.Moves
import SortableId.Proofs.Pool.Solo

/-!
# A pool used by one caller

Calls that follow each other find the generator of the first one idle again, so that a pool that may
keep one stands for a single generator: their answers and the requests to the source are the same.
A pool that may keep none builds a generator for each call that reaches it.
-/

namespace SortableId

variable {σ : Type}

/-- The request that an event notes. -/
def PoolEvent.request? : PoolEvent → Option Request
  | asked _ request => some request
  | _ => none

namespace Pool

/-- The requests to the sources of a pool, latest first. -/
def requests (pool : Pool σ) : List Request := pool.events.filterMap PoolEvent.request?

/-- Requests to the source of one generator are the latest ones of the pool. -/
theorem requests_afterRequests (pool : Pool σ) (serial : Nat) (asked : List Request) :
    (pool.afterRequests serial asked).requests = asked ++ pool.requests := by
  have noted : asked.filterMap (PoolEvent.request? ∘ PoolEvent.asked serial) = asked :=
    List.filterMap_some
  rw [requests, afterRequests, List.filterMap_append, List.filterMap_map, noted, requests]

/-- A pool that stands for a single generator: the factory was not called and the generator is new,
or it is the only one and idle. -/
structure StandsFor (source : σ) (requested : UInt64) (pool : Pool σ)
    (single : Generator (Recorded σ)) : Prop where
  /-- The factory makes the source of the generator. -/
  made : pool.factory 0 = .ok source
  /-- The pool asks for its increment bound. -/
  requested_eq : pool.requested = requested
  /-- One generator may stay idle. -/
  roomy : pool.maxIdle ≠ some 0
  /-- The lock of the idle list is open. -/
  opened : pool.idle.poisoned = false
  /-- Both have made the same requests. -/
  requests_eq : pool.requests = single.source.requests
  /-- The generator is still to be built, or it is the idle one. -/
  members :
    pool.built = 0 ∧ pool.idle.content = [] ∧ single.toCounter = Counter.new requested ∧
        single.source.inner = source ∨
      pool.built = 1 ∧ pool.idle.content = [⟨0, ⟨single.toCounter, single.source.inner⟩⟩]

/-- A pool that has lent its only generator. -/
structure Lent (source : σ) (requested : UInt64) (pool : Pool σ) (asked : List Request) :
    Prop where
  /-- The factory makes the source of the generator. -/
  made : pool.factory 0 = .ok source
  /-- The pool asks for its increment bound. -/
  requested_eq : pool.requested = requested
  /-- One generator may stay idle. -/
  roomy : pool.maxIdle ≠ some 0
  /-- None is idle now, and the lock is open. -/
  idle : pool.idle = ⟨[], false⟩
  /-- It was built. -/
  built : pool.built = 1
  /-- The requests so far. -/
  requests_eq : pool.requests = asked

variable {source : σ} {requested : UInt64} {pool : Pool σ} {single : Generator (Recorded σ)}

/-- All generators that a pool has built are idle when it stands for one. -/
theorem StandsFor.idleCount (stands : StandsFor source requested pool single) :
    pool.idleCount = .value pool.built := by
  rw [idleCount_of_open pool stands.opened]
  rcases stands.members with ⟨built, idle, -⟩ | ⟨built, idle⟩
  · rw [built, idle, List.length_nil]
  · rw [built, idle, List.length_singleton]

/-- The generator is lent as it stands. -/
theorem StandsFor.checkOut (stands : StandsFor source requested pool single) :
    ∃ lent, pool.checkOut = (.value ⟨0, ⟨single.toCounter, single.source.inner⟩⟩, lent) ∧
      Lent source requested lent single.source.requests := by
  rw [checkOut_of_open pool stands.opened]
  rcases stands.members with ⟨built, idle, counter, inner⟩ | ⟨built, idle⟩
  · rw [idle, built, stands.made]
    dsimp only
    refine ⟨pool.grown, ?_, ?_⟩
    · rw [counter, inner, stands.requested_eq, Generator.new]
    · refine ⟨stands.made, stands.requested_eq, stands.roomy, ?_, congrArg (· + 1) built,
        stands.requests_eq⟩
      obtain ⟨factory, pooled, maxIdle, ⟨content, poisoned⟩, built, events⟩ := pool
      obtain rfl : content = [] := idle
      obtain rfl : poisoned = false := stands.opened
      rfl
  · rw [idle]
    exact ⟨pool.withIdle [], rfl, stands.made, stands.requested_eq, stands.roomy, rfl, built,
      stands.requests_eq⟩

/-- Requests to the source are noted. -/
theorem Lent.afterRequests {before : List Request} (lent : Lent source requested pool before)
    (serial : Nat) (asked : List Request) :
    Lent source requested (pool.afterRequests serial asked) (asked ++ before) := by
  refine ⟨lent.made, lent.requested_eq, lent.roomy, lent.idle, lent.built, ?_⟩
  rw [requests_afterRequests, lent.requests_eq]

/-- The generator is checked in as the call leaves it. -/
theorem Lent.checkIn {asked : List Request} (lent : Lent source requested pool asked)
    (counter : Counter) (inner : σ) :
    StandsFor source requested (pool.checkIn ⟨0, ⟨counter, inner⟩⟩) ⟨counter, ⟨inner, asked⟩⟩ ∧
      (pool.checkIn ⟨0, ⟨counter, inner⟩⟩).built = 1 := by
  have room :
      (pool.maxIdle.any fun limit => decide (limit ≤ pool.idle.content.length)) = false := by
    rw [lent.idle]
    cases limited : pool.maxIdle with
    | none => rfl
    | some limit =>
      have positive : limit ≠ 0 := by
        rintro rfl
        exact lent.roomy limited
      simpa using positive
  rw [checkIn_of_open _ _ (by rw [lent.idle]), room, if_neg nofun, lent.idle]
  refine ⟨⟨lent.made, lent.requested_eq, lent.roomy, rfl, lent.requests_eq, .inr ⟨lent.built, rfl⟩⟩,
    lent.built⟩

/-- A pool that keeps no idle generators, and has none. -/
structure Bare (factory : Nat → Except String σ) (requested : UInt64) (pool : Pool σ) : Prop where
  /-- The pool was made with this factory. -/
  factory_eq : pool.factory = factory
  /-- It was made with this increment bound. -/
  requested_eq : pool.requested = requested
  /-- No generator may stay idle. -/
  full : pool.maxIdle = some 0
  /-- None is idle, and the lock is open. -/
  idle : pool.idle = ⟨[], false⟩

variable {factory : Nat → Except String σ}

/-- Such a pool counts no idle generators. -/
theorem Bare.idleCount (bare : Bare factory requested pool) : pool.idleCount = .value 0 := by
  rw [idleCount_of_open pool (by rw [bare.idle]), bare.idle, List.length_nil]

/-- However a call ends, its generator does not become idle. -/
theorem Bare.settle (bare : Bare factory requested pool) (ms : UInt64) (member : Member σ)
    (outcome : Outcome UInt80) :
    Bare factory requested (pool.settle ms member outcome).2 ∧
      (pool.settle ms member outcome).2.requests = pool.requests ∧
      (pool.settle ms member outcome).2.built = pool.built := by
  obtain ⟨rfl, rfl, full, idle⟩ := bare
  have dropped (member : Member σ) :
      pool.checkIn member = pool.note (.dropped member.serial) := by
    rw [checkIn_of_open member pool (by rw [idle]), full, idle]
    rfl
  cases outcome with
  | value value =>
    rw [settle_of_return ms pool member _ rfl, dropped]
    exact ⟨⟨rfl, rfl, full, idle⟩, rfl, rfl⟩
  | error cause =>
    rw [settle_of_return ms pool member _ rfl, dropped]
    exact ⟨⟨rfl, rfl, full, idle⟩, rfl, rfl⟩
  | crash text => exact ⟨⟨rfl, rfl, full, idle⟩, rfl, rfl⟩
  | unfinished => exact ⟨⟨rfl, rfl, full, idle⟩, rfl, rfl⟩

variable [ByteSource σ]

/-- A fill from the pool is one from the single generator. -/
theorem StandsFor.fill (stands : StandsFor source requested pool single) (attempts : Nat)
    (ms : UInt64) :
    (pool.fill attempts ms).1 = (single.fill attempts ms).1 ∧
      ((single.fill attempts ms).1.isReturn = true →
        StandsFor source requested (pool.fill attempts ms).2 (single.fill attempts ms).2 ∧
          (pool.fill attempts ms).2.built = 1) := by
  obtain ⟨lent, out, lends⟩ := stands.checkOut
  obtain ⟨counter, inner, asked⟩ := single
  rw [fill_of_checkOut attempts ms pool lent _ out, Generator.fill_recorded]
  generalize (counter.next attempts ms).run (Recorded.mk inner []) = ran
  obtain ⟨outcome, after⟩ := ran
  refine ⟨settle_fst ms _ _ outcome, fun returns => ?_⟩
  rw [Outcome.isReturn_map] at returns
  dsimp only
  rw [settle_of_return ms _ _ outcome returns]
  exact (lends.afterRequests 0 after.requests).checkIn _ _

/-- A call on the pool is answered as one on the single generator, which the pool stands for again
when it returns. -/
theorem StandsFor.answer (stands : StandsFor source requested pool single)
    (call : MonotonicCall) :
    (call.answer pool).1 = (call.answer single).1 ∧
      ((call.answer single).1.isReturn = true →
        StandsFor source requested (call.answer pool).2 (call.answer single).2 ∧
          (call.answer pool).2.built = if call.fill?.isSome then 1 else pool.built) := by
  cases reaches : call.fill? with
  | none =>
    obtain ⟨attempts, ms, rfl, late⟩ := call.eq_next_of_late reaches
    rw [MonotonicCall.answer_next_of_late attempts ms late,
      MonotonicCall.answer_next_of_late attempts ms late]
    exact ⟨rfl, fun _ => ⟨stands, rfl⟩⟩
  | some filled =>
    obtain ⟨attempts, ms⟩ := filled
    obtain ⟨same, after⟩ := stands.fill attempts ms
    rw [call.answer_of_fill attempts ms reaches, call.answer_of_fill attempts ms reaches,
      MonotonicCall.isReturn_ofOutcome]
    exact ⟨congrArg call.ofOutcome same, after⟩

/-- As long as calls return, those on the pool are answered as those on the single generator. -/
theorem StandsFor.answers (calls : List MonotonicCall)
    (stands : StandsFor source requested pool single)
    (returns : (∀ answer ∈ (answers MonotonicCall.answer calls single).1, answer.isReturn = true) ∨
      ∀ answer ∈ (answers MonotonicCall.answer calls pool).1, answer.isReturn = true) :
    (SortableId.answers MonotonicCall.answer calls pool).1 =
        (SortableId.answers MonotonicCall.answer calls single).1 ∧
      StandsFor source requested (SortableId.answers MonotonicCall.answer calls pool).2
        (SortableId.answers MonotonicCall.answer calls single).2 ∧
      (SortableId.answers MonotonicCall.answer calls pool).2.built =
        if calls.any fun call => call.fill?.isSome then 1 else pool.built := by
  induction calls generalizing pool single with
  | nil => exact ⟨rfl, stands, rfl⟩
  | cons call calls ih =>
    obtain ⟨same, after⟩ := stands.answer call
    rw [answers_cons, answers_cons, List.forall_mem_cons, List.forall_mem_cons, same] at returns
    -- The first answers are the same, so that either side tells that the call returns.
    have first : (call.answer single).1.isReturn = true :=
      returns.elim And.left And.left
    obtain ⟨standsAfter, built⟩ := after first
    obtain ⟨sameRest, standsRest, builtRest⟩ :=
      ih standsAfter (returns.imp And.right And.right)
    rw [answers_cons, answers_cons, same, sameRest]
    refine ⟨rfl, standsRest, builtRest.trans ?_⟩
    rw [List.any_cons, built]
    cases call.fill?.isSome <;> simp

/-- A fill builds a generator, which it is the first one of. -/
theorem Bare.fill (bare : Bare factory requested pool) (made : factory pool.built = .ok source)
    (attempts : Nat) (ms : UInt64) :
    let first := (Generator.new (Recorded.mk source []) requested).fill attempts ms
    (pool.fill attempts ms).1 = first.1 ∧
      (pool.fill attempts ms).2.requests = first.2.source.requests ++ pool.requests ∧
      (pool.fill attempts ms).2.built = pool.built + 1 ∧
      Bare factory requested (pool.fill attempts ms).2 := by
  have grown : Bare factory requested pool.grown :=
    ⟨bare.factory_eq, bare.requested_eq, bare.full, bare.idle⟩
  have out : pool.checkOut =
      (.value ⟨pool.built, Generator.new source pool.requested⟩, pool.grown) := by
    rw [checkOut_of_open pool (by rw [bare.idle]), bare.idle, bare.factory_eq, made]
  rw [fill_of_checkOut attempts ms pool _ _ out, bare.requested_eq, Generator.new,
    Generator.new, Generator.fill_recorded]
  generalize ((Counter.new requested).next attempts ms).run (Recorded.mk source []) = ran
  have asked : Bare factory requested (pool.grown.afterRequests pool.built ran.2.requests) :=
    ⟨grown.factory_eq, grown.requested_eq, grown.full, grown.idle⟩
  obtain ⟨bareAfter, requests, built⟩ := asked.settle ms
    ⟨pool.built, ⟨Counter.new requested, ran.2.inner⟩⟩ ran.1
  refine ⟨settle_fst ms _ _ ran.1, requests.trans ?_, built, bareAfter⟩
  dsimp only
  rw [requests_afterRequests, List.append_nil]
  rfl

/-- A fill leaves no generator idle, also when the factory crashes. -/
theorem Bare.fill_bare (bare : Bare factory requested pool) (attempts : Nat) (ms : UInt64) :
    Bare factory requested (pool.fill attempts ms).2 := by
  cases made : factory pool.built with
  | ok source => exact (bare.fill made attempts ms).2.2.2
  | error text =>
    have out : pool.checkOut = (.crash text, pool.grown) := by
      rw [checkOut_of_open pool (by rw [bare.idle]), bare.idle, bare.factory_eq, made]
    rw [Pool.fill, call, out]
    exact ⟨bare.factory_eq, bare.requested_eq, bare.full, bare.idle⟩

/-- No call leaves a generator idle. -/
theorem Bare.answers (calls : List MonotonicCall) (bare : Bare factory requested pool) :
    Bare factory requested (answers MonotonicCall.answer calls pool).2 := by
  induction calls generalizing pool with
  | nil => exact bare
  | cons call calls ih =>
    rw [answers_cons]
    apply ih
    cases reaches : call.fill? with
    | none =>
      obtain ⟨attempts, ms, rfl, late⟩ := call.eq_next_of_late reaches
      rwa [MonotonicCall.answer_next_of_late attempts ms late]
    | some filled =>
      rw [call.answer_of_fill _ _ reaches]
      exact bare.fill_bare _ _

/-- Used by one caller, a pool that may keep a generator idle answers calls as a single generator
does, with the same requests to the source, as long as they return. It calls its factory for the
first call whose time is not refused and for no other, and has one idle generator from then on. A
pool that may keep none answers every call that reaches it as the first one on a new generator. -/
theorem alone_as_one (factory : Nat → Except String σ) (requested : UInt64)
    (calls : List MonotonicCall) :
    (∀ (maxIdle : Option Nat) (source : σ), maxIdle ≠ some 0 → factory 0 = .ok source →
      let pooled := SortableId.answers MonotonicCall.answer calls
        ({ factory, requested, maxIdle } : Pool σ)
      let single := SortableId.answers MonotonicCall.answer calls
        (Generator.new (Recorded.mk source []) requested)
      (∀ answer ∈ single.1, answer.isReturn = true) ∨
          (∀ answer ∈ pooled.1, answer.isReturn = true) →
        let reached := if calls.any fun call => call.fill?.isSome then 1 else 0
        pooled.1 = single.1 ∧ pooled.2.requests = single.2.source.requests ∧
          pooled.2.built = reached ∧ pooled.2.idleCount = .value reached) ∧
    ∀ (call : MonotonicCall) (source : σ), call.fill?.isSome →
      let pool := (SortableId.answers MonotonicCall.answer calls
        ({ factory, requested, maxIdle := some 0 } : Pool σ)).2
      factory pool.built = .ok source →
        let first := call.answer (Generator.new (Recorded.mk source []) requested)
        (call.answer pool).1 = first.1 ∧
          (call.answer pool).2.requests = first.2.source.requests ++ pool.requests ∧
          (call.answer pool).2.built = pool.built + 1 ∧
          (call.answer pool).2.idleCount = .value 0 := by
  constructor
  · intro maxIdle source roomy made pooled single returns reached
    have begins : StandsFor source requested { factory, requested, maxIdle }
        (Generator.new (Recorded.mk source []) requested) :=
      ⟨made, rfl, roomy, rfl, rfl, .inl ⟨rfl, rfl, rfl, rfl⟩⟩
    obtain ⟨same, stands, built⟩ := begins.answers calls returns
    exact ⟨same, stands.requests_eq, built, stands.idleCount.trans (congrArg Outcome.value built)⟩
  · intro call source reaches pool made first
    have begins : Bare factory requested { factory, requested, maxIdle := some 0 } :=
      ⟨rfl, rfl, rfl, rfl⟩
    have bare : Bare factory requested pool := begins.answers calls
    obtain ⟨⟨attempts, ms⟩, reaches⟩ := Option.isSome_iff_exists.mp reaches
    obtain ⟨same, requests, built, after⟩ := bare.fill made attempts ms
    have pooled := call.answer_of_fill attempts ms reaches pool
    have alone := call.answer_of_fill attempts ms reaches
      (Generator.new (Recorded.mk source []) requested)
    dsimp only [first]
    rw [pooled, alone]
    exact ⟨congrArg call.ofOutcome same, requests, built, after.idleCount⟩

/-- Over a script: a time that is refused, an identifier, an overflow and a read that fails use one
generator, and with no room for it the call after them gets the fourth one. -/
theorem alone_as_one_over_script :
    let source : Script := ⟨[.bytes [255], .fail "busy"], []⟩
    let calls := [MonotonicCall.next 1 281474976710656, .next 1 5, .next 1 5,
      .fill .reference 1 6 (Vector.replicate 10 0)]
    let kept := SortableId.answers MonotonicCall.answer calls
      ({ factory := fun _ => .ok source, requested := 1, maxIdle := some 1 } : Pool Script)
    let bare := (SortableId.answers MonotonicCall.answer calls
      ({ factory := fun _ => .ok source, requested := 1, maxIdle := some 0 } : Pool Script)).2
    (kept.2.requests = [.fill 10, .fill 10] ∧ kept.2.built = 1 ∧ kept.2.idleCount = .value 1) ∧
      ((MonotonicCall.next 1 5).answer bare).2.built = 4 := by
  intro source calls kept bare
  obtain ⟨keeps, drops⟩ := alone_as_one (fun _ => .ok source) 1 calls
  obtain ⟨-, requests, built, idle⟩ := keeps (some 1) source (by decide) rfl
    (.inl (by decide +kernel))
  obtain ⟨-, -, more, -⟩ := drops (.next 1 5) source (by decide) rfl
  exact ⟨⟨requests.trans (by decide +kernel), built, idle⟩, more.trans (by decide +kernel)⟩

end Pool

end SortableId
