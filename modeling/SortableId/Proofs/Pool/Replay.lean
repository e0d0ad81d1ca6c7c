import Mathlib
import SortableId.Proofs.Pool.Foreseen
import SortableId.Proofs.Pool.Places

/-!
# Each generator runs by itself

However the calls on a pool overlap and nest, the fills that one generator has served are those of a
sequential run of a generator that started empty, over the source that the factory made for it. The
invariant compares every generator with its run: an idle one rests where its run has ended, and one
that is held has the rest of a fill before it.
-/

namespace SortableId

variable {σ : Type}

/-- The calls that a generator has served. -/
def servedBy (past : List EndedCall) (serial : Nat) : List EndedCall :=
  past.filter fun call => call.server = some serial

/-- The calls that the source of a generator has made on its pool. -/
def madeBy (past : List EndedCall) (serial : Nat) : List EndedCall :=
  past.filter fun call => call.caller = some serial

/-- One more call is served by its own generator and by no other. -/
theorem servedBy_append (past : List EndedCall) (ended : EndedCall) (serial : Nat) :
    servedBy (past ++ [ended]) serial =
      servedBy past serial ++ if ended.server = some serial then [ended] else [] := by
  rw [servedBy, List.filter_append, List.filter_singleton, Bool.cond_decide, servedBy]

/-- One more call is made by the source that waits for it and by no other. -/
theorem madeBy_append (past : List EndedCall) (ended : EndedCall) (serial : Nat) :
    madeBy (past ++ [ended]) serial =
      madeBy past serial ++ if ended.caller = some serial then [ended] else [] := by
  rw [madeBy, List.filter_append, List.filter_singleton, Bool.cond_decide, madeBy]

/-- The source that waits for a call belongs to a generator that the thread holds. -/
theorem Thread.mem_of_caller {waiting : List (Waiting σ)} {serial : Nat}
    (caller : Thread.caller waiting = some serial) :
    serial ∈ waiting.map fun call => call.member.serial := by
  cases waiting with
  | nil => exact nomatch caller
  | cons first rest =>
    obtain rfl : first.member.serial = serial := Option.some.inj caller
    exact List.mem_cons_self

variable [PoolSource σ]

/-- The sequential run of the fills that a generator has served, from an empty generator over a
source that makes calls with these outcomes on its pool, and then others. -/
def replay (attempts : Nat) (requested : UInt64) (past : List EndedCall) (serial : Nat)
    (source : σ) (later : Stream' (Outcome (Vector UInt8 10))) :
    List (Outcome (Vector UInt8 10)) × Generator (Foreseen σ) :=
  answers (Generator.fill attempts) ((servedBy past serial).map EndedCall.ms)
    (Generator.new ⟨source, (madeBy past serial).map EndedCall.outcome ++ₛ later⟩ requested)

/-- What a generator has served is its sequential run, and the run leaves one that fits. -/
def Replays (attempts : Nat) (factory : Nat → Except String σ) (requested : UInt64)
    (past : List EndedCall) (serial : Nat)
    (fits : Stream' (Outcome (Vector UInt8 10)) → Generator (Foreseen σ) → Prop) : Prop :=
  ∀ source, factory serial = .ok source → ∀ later,
    (replay attempts requested past serial source later).1 =
        (servedBy past serial).map EndedCall.outcome ∧
      fits later (replay attempts requested past serial source later).2

/-- A run has ended in an idle generator. -/
def Member.Rests (member : Member σ) (later : Stream' (Outcome (Vector UInt8 10)))
    (generator : Generator (Foreseen σ)) : Prop :=
  generator = ⟨member.generator.toCounter, ⟨member.generator.source, later⟩⟩

/-- A run is followed by a fill of which the call in progress has still the rest to do. -/
def Frame.Runs (attempts : Nat) (call : Frame σ) (later : Stream' (Outcome (Vector UInt8 10)))
    (generator : Generator (Foreseen σ)) : Prop :=
  generator.toCounter = call.member.generator.toCounter ∧
    (generator.toCounter.next attempts call.ms).run generator.source =
      call.pending.foresee call.member.generator.source later

/-- A call that has no draws left is the next fill of the run. -/
theorem Frame.Runs.fill_eq {attempts : Nat} {call : Frame σ}
    {later : Stream' (Outcome (Vector UInt8 10))} {generator : Generator (Foreseen σ)}
    (runs : call.Runs attempts later generator) {outcome : Outcome UInt80}
    (pending : call.pending = .draw (.done outcome)) :
    generator.fill attempts call.ms =
      (outcome.map UInt80.toBytes, ⟨call.member.generator.toCounter.record call.ms outcome,
        ⟨call.member.generator.source, later⟩⟩) := by
  obtain ⟨counter, ran⟩ := runs
  rw [pending, Pending.foresee, Draws.run] at ran
  rw [Generator.fill, ran, counter]

/-- A call that comes after others on a pool is the next fill of the sequential run of its
generator, or found the factory crashing. -/
structure EndedCall.Sequential (attempts : Nat) (factory : Nat → Except String σ)
    (requested : UInt64) (earlier : List EndedCall) (call : EndedCall) : Prop where
  /-- A call that got no generator crashed. -/
  refused : call.server = none → call.outcome.isCrash = true
  /-- A generator that served it was made over a source of the factory, and the fill that comes next
  in its run has the outcome of the call. -/
  served : ∀ serial, call.server = some serial → ∃ source, factory serial = .ok source ∧
    ∀ later, ((replay attempts requested earlier serial source later).2.fill attempts call.ms).1 =
      call.outcome

/-- The run of each of these generators has ended. -/
def AllRest (attempts : Nat) (factory : Nat → Except String σ) (requested : UInt64)
    (past : List EndedCall) (members : List (Member σ)) : Prop :=
  ∀ member ∈ members, Replays attempts factory requested past member.serial member.Rests

/-- Each of these calls goes on with the run of the generator that it holds. -/
def AllRun (attempts : Nat) (factory : Nat → Except String σ) (requested : UInt64)
    (past : List EndedCall) (calls : List (Frame σ)) : Prop :=
  ∀ call ∈ calls, Replays attempts factory requested past call.member.serial (call.Runs attempts)

namespace Replays

variable {attempts : Nat} {factory : Nat → Except String σ} {requested : UInt64}
  {past : List EndedCall} {serial : Nat}
  {fits fitsAfter : Stream' (Outcome (Vector UInt8 10)) → Generator (Foreseen σ) → Prop}

/-- A run that leaves a generator that fits leaves one that fits less. -/
theorem mono (replays : Replays attempts factory requested past serial fits)
    (weaker : ∀ later generator, fits later generator → fitsAfter later generator) :
    Replays attempts factory requested past serial fitsAfter := by
  intro source made later
  obtain ⟨served, left⟩ := replays source made later
  exact ⟨served, weaker later _ left⟩

/-- A generator that has served nothing and whose source has called nothing is at the start of its
run. -/
theorem unused (unserved : servedBy past serial = []) (unheard : madeBy past serial = [])
    (starts : ∀ source, factory serial = .ok source → ∀ later,
      fits later (Generator.new ⟨source, later⟩ requested)) :
    Replays attempts factory requested past serial fits := by
  intro source made later
  rw [replay, unserved, unheard]
  exact ⟨rfl, starts source made later⟩

/-- A call of others makes no difference. -/
theorem others (ended : EndedCall) (replays : Replays attempts factory requested past serial fits)
    (server : ended.server ≠ some serial) (caller : ended.caller ≠ some serial) :
    Replays attempts factory requested (past ++ [ended]) serial fits := by
  intro source made later
  rw [replay, servedBy_append, madeBy_append, if_neg server, if_neg caller, List.append_nil,
    List.append_nil, ← replay]
  exact replays source made later

/-- The source hears the outcome of a call, which was the first of those to come. -/
theorem heard (ended : EndedCall) (replays : Replays attempts factory requested past serial fits)
    (server : ended.server ≠ some serial) (caller : ended.caller = some serial)
    (goesOn : ∀ later generator, fits (Stream'.cons ended.outcome later) generator →
      fitsAfter later generator) :
    Replays attempts factory requested (past ++ [ended]) serial fitsAfter := by
  intro source made later
  have same : replay attempts requested (past ++ [ended]) serial source later =
      replay attempts requested past serial source (Stream'.cons ended.outcome later) := by
    rw [replay, servedBy_append, madeBy_append, if_neg server, if_pos caller, List.append_nil,
      List.map_append, Stream'.append_append_stream, replay]
    rfl
  obtain ⟨served, left⟩ := replays source made (Stream'.cons ended.outcome later)
  rw [same, servedBy_append, if_neg server, List.append_nil]
  exact ⟨served, goesOn later _ left⟩

/-- A call that has no draws left ends as the fill of the run does, and leaves the generator that
the fill leaves. -/
theorem served (call : Frame σ) (waiting : List (Waiting σ)) (outcome : Outcome UInt80)
    (replays : Replays attempts factory requested past call.member.serial (call.Runs attempts))
    (pending : call.pending = .draw (.done outcome))
    (other : Thread.caller waiting ≠ some call.member.serial) :
    Replays attempts factory requested (past ++ [call.ended outcome waiting]) call.member.serial
      (call.finish outcome).Rests := by
  intro source made later
  obtain ⟨before, runs⟩ := replays source made later
  have server : (call.ended outcome waiting).server = some call.member.serial := rfl
  have caller : (call.ended outcome waiting).caller ≠ some call.member.serial := other
  have filled : Generator.fill attempts (call.ended outcome waiting).ms
      (replay attempts requested past call.member.serial source later).2 =
      (outcome.map UInt80.toBytes, ⟨call.member.generator.toCounter.record call.ms outcome,
        ⟨call.member.generator.source, later⟩⟩) :=
    runs.fill_eq pending
  rw [replay, servedBy_append, madeBy_append, if_pos server, if_neg caller, List.append_nil,
    List.map_append, List.map_append, List.map_singleton, List.map_singleton, answers_concat,
    ← replay, before, filled]
  exact ⟨rfl, rfl⟩

end Replays

namespace AllRun

variable {attempts : Nat} {factory : Nat → Except String σ} {requested : UInt64}
  {past : List EndedCall}

/-- Calls in two lists go on with their runs if those of each list do. -/
theorem append (front back : List (Frame σ)) :
    AllRun attempts factory requested past (front ++ back) ↔
      AllRun attempts factory requested past front ∧
        AllRun attempts factory requested past back :=
  List.forall_mem_append

/-- The innermost call makes a step that its source has foreseen. -/
theorem goOn {call after : Frame σ} {waiting : List (Frame σ)}
    (runs : AllRun attempts factory requested past (call :: waiting))
    (member : after.member.serial = call.member.serial)
    (counter : after.member.generator.toCounter = call.member.generator.toCounter)
    (ms : after.ms = call.ms)
    (foreseen : ∀ later, call.pending.foresee call.member.generator.source later =
      after.pending.foresee after.member.generator.source later) :
    AllRun attempts factory requested past (after :: waiting) := by
  obtain ⟨own, others⟩ := List.forall_mem_cons.mp runs
  refine List.forall_mem_cons.mpr ⟨?_, others⟩
  rw [member]
  refine own.mono fun later generator runs => ?_
  rw [Frame.Runs, counter, ms, ← foreseen]
  exact runs

/-- The outcome of a call goes to the source that waits for it, and the other calls wait on. -/
theorem deliver (ended : EndedCall) (waiting : List (Waiting σ))
    (runs : AllRun attempts factory requested past (waiting.map Waiting.frame))
    (apart : (waiting.map fun call => call.member.serial).Nodup)
    (caller : ended.caller = Thread.caller waiting)
    (server : ∀ call ∈ waiting, ended.server ≠ some call.member.serial) :
    AllRun attempts factory requested (past ++ [ended])
      (Thread.deliver ended.outcome waiting).frames := by
  cases waiting with
  | nil => exact List.forall_mem_nil _
  | cons first rest =>
    obtain ⟨own, others⟩ := List.forall_mem_cons.mp runs
    obtain ⟨serverFirst, serverRest⟩ := List.forall_mem_cons.mp server
    rw [List.map_cons, List.nodup_cons] at apart
    refine List.forall_mem_cons.mpr ⟨?_, List.forall_mem_map.mpr fun suspended inside => ?_⟩
    · exact own.heard ended serverFirst caller fun later generator runs => runs
    · have before := List.forall_mem_map.mp others suspended inside
      refine before.others ended (serverRest suspended inside) fun same => apart.1 ?_
      obtain same : first.member.serial = suspended.member.serial :=
        Option.some.inj (caller.symm.trans same)
      rw [same]
      exact List.mem_map_of_mem inside

end AllRun

namespace Pool

variable {attempts : Nat} {factory : Nat → Except String σ} {requested : UInt64}
  {past : List EndedCall} {pool after : Pool σ} {thread next : Thread σ} {ended : EndedCall}

/-- The generators that an ended call is about were held by its thread. -/
theorem Moves.involved (moves : Moves attempts pool thread (some ended) after next)
    (serial : Nat) (about : ended.server = some serial ∨ ended.caller = some serial) :
    serial ∈ thread.held := by
  obtain ⟨waiting, -, caller, ⟨frames, server⟩ | ⟨call, outcome, rfl, -, rfl⟩⟩ :=
    moves.ended_cases
  · rw [server, caller] at about
    obtain called := about.resolve_left nofun
    rw [Thread.held_of_frames frames]
    exact Thread.mem_of_caller called
  · rw [Thread.held_busy]
    rcases about with served | called
    · obtain rfl : call.member.serial = serial := Option.some.inj served
      exact List.mem_cons_self
    · exact List.mem_cons_of_mem _ (Thread.mem_of_caller called)

/-- A call that got no generator crashed. -/
theorem Moves.refused_crash (moves : Moves attempts pool thread (some ended) after next)
    (refused : ended.server = none) : ended.outcome.isCrash = true := by
  cases moves with
  | fails => rfl
  | returns => cases refused
  | drops => cases refused
  | loses => cases refused

/-- A generator that the thread does not hold has no part in the call. -/
theorem Moves.others (moves : Moves attempts pool thread (some ended) after next) (serial : Nat)
    (other : serial ∉ thread.held)
    {fits : Stream' (Outcome (Vector UInt8 10)) → Generator (Foreseen σ) → Prop}
    (replays : Replays attempts factory requested past serial fits) :
    Replays attempts factory requested (past ++ [ended]) serial fits :=
  replays.others ended (fun server => other (moves.involved serial (.inl server)))
    fun caller => other (moves.involved serial (.inr caller))

/-- While no call ends, the calls go on as foreseen. -/
theorem Moves.calls_goOn (moves : Moves attempts pool thread none after next)
    (unused : servedBy past pool.built = [] ∧ madeBy past pool.built = [])
    (idle : AllRest attempts pool.factory pool.requested past pool.idle.content)
    (calls : AllRun attempts pool.factory pool.requested past thread.frames) :
    AllRun attempts pool.factory pool.requested past next.frames := by
  cases moves with
  | stays _ same => rwa [same]
  | reuses ms waiting member rest frames content =>
    rw [frames] at calls
    rw [content] at idle
    -- The run has ended where the call begins, and nothing is drawn yet.
    have rests := List.forall_mem_cons.mp idle
    refine List.forall_mem_cons.mpr ⟨rests.1.mono fun later generator left => ?_, calls⟩
    rw [left]
    exact ⟨rfl, rfl⟩
  | builds ms waiting source frames content made =>
    rw [frames] at calls
    refine List.forall_mem_cons.mpr ⟨?_, calls⟩
    refine Replays.unused unused.1 unused.2 fun again remade later => ?_
    obtain rfl : source = again := Except.ok.inj (made.symm.trans remade)
    exact ⟨rfl, rfl⟩
  | reads call waiting size draws busy pending =>
    rw [busy] at calls
    refine calls.goOn rfl rfl rfl fun later => ?_
    rw [pending]
    exact Pending.foresee_read _ later size draws
  | picks call waiting bound draws busy pending =>
    rw [busy] at calls
    refine calls.goOn rfl rfl rfl fun later => ?_
    rw [pending]
    exact Pending.foresee_pick _ later bound draws
  | hears call waiting draws source busy pending =>
    rw [busy] at calls
    refine calls.goOn rfl rfl rfl fun later => ?_
    rw [pending]
    rfl

/-- A call that ends hands its outcome on, and the other calls of the thread go on as foreseen. -/
theorem Moves.calls_resume (moves : Moves attempts pool thread (some ended) after next)
    (apart : thread.held.Nodup)
    (calls : AllRun attempts pool.factory pool.requested past thread.frames) :
    AllRun attempts pool.factory pool.requested (past ++ [ended]) next.frames := by
  obtain ⟨waiting, rfl, caller, ⟨frames, server⟩ | ⟨call, outcome, rfl, -, rfl⟩⟩ :=
    moves.ended_cases
  · rw [frames] at calls
    rw [Thread.held_of_frames frames] at apart
    refine calls.deliver ended waiting apart caller fun suspended inside served => ?_
    exact nomatch server.symm.trans served
  · obtain ⟨-, others⟩ := List.forall_mem_cons.mp calls
    rw [Thread.held_busy, List.nodup_cons] at apart
    refine AllRun.deliver _ waiting others apart.2 caller fun suspended inside served => apart.1 ?_
    obtain same : call.member.serial = suspended.member.serial := Option.some.inj served
    rw [same]
    exact List.mem_map_of_mem inside

/-- What a generator has served is its sequential run also after a call has ended. -/
theorem Moves.replays (moves : Moves attempts pool thread (some ended) after next)
    (apart : thread.held.Nodup) (serial : Nat)
    (all : Replays attempts pool.factory pool.requested past serial fun _ _ => True)
    (calls : AllRun attempts pool.factory pool.requested past thread.frames) :
    Replays attempts pool.factory pool.requested (past ++ [ended]) serial fun _ _ => True := by
  by_cases server : ended.server = some serial
  · obtain ⟨waiting, -, -, ⟨-, none⟩ | ⟨call, outcome, rfl, pending, rfl⟩⟩ := moves.ended_cases
    · exact nomatch none.symm.trans server
    · obtain rfl : call.member.serial = serial := Option.some.inj server
      rw [Thread.held_busy, List.nodup_cons] at apart
      have served := (calls call List.mem_cons_self).served call waiting outcome pending
        fun caller => apart.1 (Thread.mem_of_caller caller)
      exact served.mono fun _ _ _ => trivial
  · by_cases caller : ended.caller = some serial
    · exact all.heard ended server caller fun _ _ _ => trivial
    · exact all.others ended server caller

/-- An idle generator rests where its run has ended, also after a call has ended. -/
theorem Moves.idle_rests (moves : Moves attempts pool thread (some ended) after next)
    (apart : (pool.idleSerials ++ thread.held).Nodup)
    (idle : AllRest attempts pool.factory pool.requested past pool.idle.content)
    (calls : AllRun attempts pool.factory pool.requested past thread.frames) :
    AllRest attempts pool.factory pool.requested (past ++ [ended]) after.idle.content := by
  obtain ⟨-, held, disjoint⟩ := List.nodup_append.mp apart
  have stays :
      AllRest attempts pool.factory pool.requested (past ++ [ended]) pool.idle.content := by
    intro member among
    have resting : member.serial ∈ pool.idleSerials := List.mem_map_of_mem among
    exact moves.others member.serial (fun holds => disjoint _ resting _ holds rfl)
      (idle member among)
  cases moves with
  | fails => exact stays
  | returns call waiting outcome busy pending returned room =>
    rw [busy] at calls held
    rw [Thread.held_busy, List.nodup_cons] at held
    have served := (calls call List.mem_cons_self).served call waiting outcome pending
      fun caller => held.1 (Thread.mem_of_caller caller)
    exact List.forall_mem_cons.mpr ⟨served, stays⟩
  | drops => exact stays
  | loses => exact stays

/-- While no call ends, no generator becomes idle. -/
theorem Moves.idle_subset (moves : Moves attempts pool thread none after next) :
    after.idle.content ⊆ pool.idle.content := by
  cases moves with
  | reuses ms waiting member rest frames content =>
    rw [content]
    exact List.subset_cons_self member rest
  | stays => exact List.Subset.refl _
  | builds => exact List.Subset.refl _
  | reads => exact List.Subset.refl _
  | picks => exact List.Subset.refl _
  | hears => exact List.Subset.refl _

/-- Generators are built one after another. -/
theorem Moves.built_le {ended : Option EndedCall}
    (moves : Moves attempts pool thread ended after next) : pool.built ≤ after.built := by
  cases moves with
  | builds => exact Nat.le_succ _
  | fails => exact Nat.le_succ _
  | _ => exact Nat.le_refl _

end Pool

namespace PoolSystem

/-- Every generator of a system agrees with its sequential run. -/
structure Replayed (attempts : Nat) (factory : Nat → Except String σ) (requested : UInt64)
    (past : List EndedCall) (system : PoolSystem σ) : Prop where
  /-- What a generator has served is its run. -/
  all : ∀ serial, Replays attempts factory requested past serial fun _ _ => True
  /-- The run of an idle generator has ended. -/
  idle : AllRest attempts factory requested past system.pool.idle.content
  /-- The run of a generator that is held goes on with the call that holds it. -/
  calls : AllRun attempts factory requested past system.frames
  /-- A generator that is still to be built has served nothing, and its source has called nothing.
  -/
  unused : ∀ serial, system.pool.built ≤ serial →
    servedBy past serial = [] ∧ madeBy past serial = []

variable {attempts : Nat} {factory : Nat → Except String σ} {requested : UInt64}
  {maxIdle : Option Nat} {past : List EndedCall} {system : PoolSystem σ}

/-- An action leaves every generator in agreement with its run. -/
theorem Replayed.act (accounted : Accounted factory requested maxIdle system)
    (replayed : Replayed attempts factory requested past system) (action : PoolAction) :
    Replayed attempts factory requested (past ++ (system.ends action).toList)
      (system.act attempts action) := by
  obtain ⟨before, thread, behind, next, split, splitAfter, moves⟩ :=
    act_moves attempts system action accounted.opened
  obtain rfl := accounted.factory_eq
  obtain rfl := accounted.requested_eq
  have calls := replayed.calls
  rw [split, AllRun.append, AllRun.append] at calls
  obtain ⟨⟨front, own⟩, back⟩ := calls
  generalize system.ends action = ended at moves
  cases ended with
  | none =>
    rw [Option.toList_none, List.append_nil]
    have unused := replayed.unused system.pool.built (Nat.le_refl _)
    refine ⟨replayed.all, fun member among => replayed.idle member (moves.idle_subset among), ?_,
      fun serial new => replayed.unused serial (moves.built_le.trans new)⟩
    rw [splitAfter, AllRun.append, AllRun.append]
    exact ⟨⟨front, moves.calls_goOn unused replayed.idle own⟩, back⟩
  | some call =>
    rw [Option.toList_some]
    -- The generators that the call is about are held by this thread and nowhere else.
    obtain ⟨resting, others⟩ := accounted.apart_of_split split
    have apart := (List.nodup_append.mp resting).2.1
    refine ⟨fun serial => moves.replays apart serial (replayed.all serial) own,
      moves.idle_rests resting replayed.idle own, ?_, fun serial new => ?_⟩
    · rw [splitAfter, AllRun.append, AllRun.append]
      refine ⟨⟨fun other among => ?_, moves.calls_resume apart own⟩, fun other among => ?_⟩
      · exact moves.others _ (others other (List.mem_append_left _ among)) (front other among)
      · exact moves.others _ (others other (List.mem_append_right _ among)) (back other among)
    · have new := moves.built_le.trans new
      have involved (holds : serial ∈ thread.held) : False :=
        Nat.not_lt_of_le new (accounted.built_of_held serial (mem_held_of_split split holds)).1
      have server : call.server ≠ some serial :=
        fun server => involved (moves.involved serial (.inl server))
      have caller : call.caller ≠ some serial :=
        fun caller => involved (moves.involved serial (.inr caller))
      obtain ⟨served, made⟩ := replayed.unused serial new
      rw [servedBy_append, madeBy_append, if_neg server, if_neg caller, served, made]
      exact ⟨rfl, rfl⟩

/-- At the start no generator has served anything. -/
theorem replayed_start (attempts : Nat) (factory : Nat → Except String σ) (requested : UInt64)
    (maxIdle : Option Nat) (threads : Nat) :
    Replayed attempts factory requested [] (start factory requested maxIdle threads) := by
  refine ⟨fun serial => .unused rfl rfl fun _ _ _ => trivial, List.forall_mem_nil _, ?_,
    fun serial new => ⟨rfl, rfl⟩⟩
  rw [frames_start]
  exact List.forall_mem_nil _

/-- After every schedule every generator agrees with its run. -/
theorem replayed_run (attempts : Nat) (factory : Nat → Except String σ) (requested : UInt64)
    (maxIdle : Option Nat) (threads : Nat) (schedule : List PoolAction) :
    Replayed attempts factory requested
      ((start factory requested maxIdle threads).history attempts schedule)
      ((start factory requested maxIdle threads).run attempts schedule) := by
  have kept := run_keeps attempts
    (fun past system => Accounted factory requested maxIdle system ∧
      Replayed attempts factory requested past system)
    (fun past system action holds => ⟨holds.1.act attempts action, holds.2.act holds.1 action⟩)
    schedule [] (start factory requested maxIdle threads)
    ⟨accounted_start factory requested maxIdle threads,
      replayed_start attempts factory requested maxIdle threads⟩
  exact kept.2

/-- A call that an action ends is the next fill of the sequential run of its generator, or a crash
of the factory. -/
theorem Replayed.sequential (accounted : Accounted factory requested maxIdle system)
    (replayed : Replayed attempts factory requested past system) (action : PoolAction)
    (call : EndedCall) (ended : system.ends action = some call) :
    call.Sequential attempts factory requested past := by
  obtain ⟨before, thread, behind, next, split, -, moves⟩ :=
    act_moves attempts system action accounted.opened
  rw [ended] at moves
  constructor
  case refused => exact moves.refused_crash
  case served =>
    intro serial server
    have holds := moves.involved serial (.inl server)
    obtain ⟨-, source, made⟩ := accounted.built_of_held serial (mem_held_of_split split holds)
    refine ⟨source, made, fun visits => ?_⟩
    obtain ⟨waiting, -, -, ⟨-, none⟩ | ⟨frame, outcome, rfl, pending, rfl⟩⟩ := moves.ended_cases
    · rw [none] at server
      cases server
    · obtain rfl : frame.member.serial = serial := Option.some.inj server
      have among : frame ∈ system.frames := by
        rw [split]
        exact List.mem_append_left _ (List.mem_append_right _ List.mem_cons_self)
      have runs := (replayed.calls frame among source made visits).2
      exact congrArg Prod.fst (runs.fill_eq pending)

/-- Every call of a history was the next fill of the sequential run of its generator, or a crash of
the factory. -/
theorem sequential_run (attempts : Nat) (factory : Nat → Except String σ) (requested : UInt64)
    (maxIdle : Option Nat) (threads : Nat) (schedule : List PoolAction) :
    ∀ earlier call behind,
      (start factory requested maxIdle threads).history attempts schedule =
        earlier ++ call :: behind →
      call.Sequential attempts factory requested earlier := by
  intro earlier call behind split
  obtain ⟨before, action, rfl, ended⟩ := exists_of_history attempts _ schedule split
  have accounted := accounted_run factory requested maxIdle threads attempts before
  have replayed := replayed_run attempts factory requested maxIdle threads before
  exact replayed.sequential accounted action call ended

/-- What a generator over a byte source has served is a sequential run over that source. -/
theorem served_sequentially {τ : Type} [ByteSource τ] (attempts : Nat)
    (factory : Nat → Except String τ) (requested : UInt64) (maxIdle : Option Nat) (threads : Nat)
    (schedule : List PoolAction) (serial : Nat) (source : τ) (made : factory serial = .ok source) :
    let past := (start factory requested maxIdle threads).history attempts schedule
    (answers (Generator.fill attempts) ((servedBy past serial).map EndedCall.ms)
        (Generator.new source requested)).1 =
      (servedBy past serial).map EndedCall.outcome := by
  intro past
  have replayed := replayed_run attempts factory requested maxIdle threads schedule
  have served := (replayed.all serial source made (Stream'.const .unfinished)).1
  rw [replay, Generator.new, answers_fill_foreseen] at served
  exact served

/-- However calls overlap and nest, fail and crash, every generator that was built is idle, held by
a call or gone, and is there once. No more are idle than allowed. A call that returns hands its
generator back, whether it delivers bytes or an error, and only a full idle list or a crash makes
one be gone, for good. What one generator has served is a sequential run from an empty generator
over its own source. -/
theorem generators_exclusive (attempts : Nat) (factory : Nat → Except String σ)
    (requested : UInt64) (maxIdle : Option Nat) (threads : Nat) (schedule : List PoolAction) :
    let system := (start factory requested maxIdle threads).run attempts schedule
    let past := (start factory requested maxIdle threads).history attempts schedule
    (∀ serial, system.pool.idleSerials.count serial + system.held.count serial +
        system.pool.goneSerials.count serial =
      if serial < system.pool.built ∧ (factory serial).isOk then 1 else 0) ∧
    (∀ limit, maxIdle = some limit → system.pool.idle.content.length ≤ limit) ∧
    (∀ action, Pool.HandsBack system.pool (system.act attempts action).pool (system.ends action)) ∧
    (∀ action call, system.ends action = some call →
      ∃ waiting, call.caller = Thread.caller waiting ∧
        (system.act attempts action).threads[action.thread]? =
          some (Thread.deliver call.outcome waiting)) ∧
    (∀ later, system.pool.goneSerials <:+ (system.run attempts later).pool.goneSerials) ∧
    ∀ serial source, factory serial = .ok source → ∀ later,
      (replay attempts requested past serial source later).1 =
        (servedBy past serial).map EndedCall.outcome := by
  intro system past
  have accounted := accounted_run factory requested maxIdle threads attempts schedule
  have replayed := replayed_run attempts factory requested maxIdle threads schedule
  refine ⟨accounted.count, accounted.few, accounted.handsBack attempts,
    fun action => act_delivers attempts system action accounted.opened,
    accounted.gone_suffix attempts, fun serial source made later => ?_⟩
  exact (replayed.all serial source made later).1

end PoolSystem

end SortableId
