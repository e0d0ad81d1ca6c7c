import Mathlib
import SortableId.Proofs.Pool.Moves

/-!
# Runs of a pool and their histories

Every action of a system is one move of one thread and leaves the calls of the others alone. A
property of a system and its history that every action keeps holds after every schedule. So what a
thread has got from its last call is always the outcome of a call of the history, unless the call
was refused for its time.
-/

namespace SortableId

variable {σ : Type}

namespace Pool

/-- What a thread has got when a turn leaves it without a call: what it had got before, or that its
time is too late, or the outcome of the call that the turn ends. -/
def Gets (before : Thread σ) (outcome : Outcome (Vector UInt8 10)) (ended : Option EndedCall) :
    Prop :=
  before = .idle (some outcome) ∨ (∃ ms, outcome = .error (.bigTime ms)) ∨
    ∃ call, ended = some call ∧ call.outcome = outcome

/-- An outcome that leaves a thread without a call has nobody else to go to. -/
theorem deliver_eq_idle {given outcome : Outcome (Vector UInt8 10)} {waiting : List (Waiting σ)}
    (idle : Thread.deliver given waiting = .idle (some outcome)) : given = outcome := by
  cases waiting with
  | nil => exact Option.some.inj (Thread.idle.inj idle)
  | cons call waiting => cases idle

/-- A call that leaves the thread idle ended where it began. -/
theorem call_eq_idle (attempts : Nat) (ms : UInt64) (pool : Pool σ) (waiting : List (Waiting σ))
    {outcome : Outcome (Vector UInt8 10)}
    (idle : (pool.call attempts ms waiting).2 = .idle (some outcome)) :
    ∃ call, pool.refusal? ms waiting = some call ∧ call.outcome = outcome := by
  rw [call] at idle
  rw [refusal?]
  generalize pool.checkOut = taken at idle ⊢
  obtain ⟨checked, after⟩ := taken
  cases checked with
  | value member => cases idle
  | error cause => exact ⟨_, rfl, deliver_eq_idle idle⟩
  | crash text => exact ⟨_, rfl, deliver_eq_idle idle⟩
  | unfinished => exact ⟨_, rfl, deliver_eq_idle idle⟩

variable [PoolSource σ]

/-- A step that leaves the thread idle ended its call. -/
theorem step_eq_idle (attempts : Nat) (pool : Pool σ) (thread : Thread σ)
    {outcome : Outcome (Vector UInt8 10)}
    (idle : (pool.step attempts thread).2 = .idle (some outcome)) :
    Gets thread outcome (pool.ends thread .step) := by
  cases thread with
  | idle last => exact .inl idle
  | busy call waiting =>
    refine .inr (.inr ?_)
    rw [step] at idle
    rw [ends]
    cases pending : call.pending with
    | draw draws =>
      rw [pending] at idle
      cases draws with
      | read size next => cases idle
      | pick bound next => cases idle
      | done drawn =>
        cases drawn with
        | value value => exact ⟨_, rfl, deliver_eq_idle idle⟩
        | error cause => exact ⟨_, rfl, deliver_eq_idle idle⟩
        | crash text => exact ⟨_, rfl, deliver_eq_idle idle⟩
        | unfinished => cases idle
    | answer reply =>
      rw [pending] at idle
      cases reply with
      | own draws source => cases idle
      | viaPool visit next => exact call_eq_idle attempts visit pool _ idle

/-- A turn that leaves the thread idle ended its call, or did not begin one. -/
theorem turn_eq_idle (attempts : Nat) (pool : Pool σ) (thread : Thread σ) (turn : Turn)
    {outcome : Outcome (Vector UInt8 10)}
    (idle : (pool.turn attempts thread turn).2 = .idle (some outcome)) :
    Gets thread outcome (pool.ends thread turn) := by
  cases turn with
  | step => exact step_eq_idle attempts pool thread idle
  | call ms =>
    cases thread with
    | busy call waiting => exact .inl idle
    | idle last => exact .inr (.inr (call_eq_idle attempts ms pool [] idle))
  | next ms =>
    cases thread with
    | busy call waiting => exact .inl idle
    | idle last =>
      rw [turn, Ulid.withTime] at idle
      rw [ends]
      by_cases late : maxTime < ms
      · rw [if_pos late] at idle
        exact .inr (.inl ⟨ms, (Option.some.inj (Thread.idle.inj idle)).symm⟩)
      · rw [if_neg late] at idle ⊢
        exact .inr (.inr (call_eq_idle attempts ms pool [] idle))

end Pool

namespace PoolSystem

/-- The call that an action ends, if it ends one. -/
def ends (system : PoolSystem σ) (action : PoolAction) : Option EndedCall :=
  system.threads[action.thread]?.bind fun thread => system.pool.ends thread action.turn

/-- The thread that acts; one that does not exist has no call. -/
def actor (system : PoolSystem σ) (action : PoolAction) : Thread σ :=
  system.threads[action.thread]?.getD (.idle none)

/-- No call is in progress at the start. -/
theorem frames_start (factory : Nat → Except String σ) (requested : UInt64)
    (maxIdle : Option Nat) (threads : Nat) :
    (start factory requested maxIdle threads).frames = [] := by
  rw [frames, List.flatMap_eq_nil_iff]
  intro thread among
  rw [List.eq_of_mem_replicate among, Thread.frames]

variable [PoolSource σ]

/-- The calls that end during a schedule, in this order. -/
def history (attempts : Nat) : PoolSystem σ → List PoolAction → List EndedCall
  | _, [] => []
  | system, action :: schedule =>
    (system.ends action).toList ++ history attempts (system.act attempts action) schedule

/-- An action is a move of the acting thread. The calls of the threads before and behind it stay. -/
theorem act_splits (attempts : Nat) (system : PoolSystem σ) (action : PoolAction)
    (opened : system.pool.idle.poisoned = false) :
    ∃ before behind after, system.frames = before ++ (system.actor action).frames ++ behind ∧
      (system.act attempts action).frames = before ++ Thread.frames after ++ behind ∧
      Pool.Moves attempts system.pool (system.actor action) (system.ends action)
        (system.act attempts action).pool after := by
  rw [act, ends, actor]
  cases found : system.threads[action.thread]? with
  | none => exact ⟨system.frames, [], .idle none, by simp [Thread.frames],
      by simp [Thread.frames], .stays _ rfl⟩
  | some thread =>
    obtain ⟨inside, here⟩ := List.getElem?_eq_some_iff.mp found
    have split : system.threads = system.threads.take action.thread ++
        thread :: system.threads.drop (action.thread + 1) := by
      rw [← here, List.getElem_cons_drop, List.take_append_drop]
    refine ⟨(system.threads.take action.thread).flatMap Thread.frames,
      (system.threads.drop (action.thread + 1)).flatMap Thread.frames,
      (system.pool.turn attempts thread action.turn).2, ?_, ?_,
      Pool.turn_moves attempts system.pool thread action.turn opened⟩
    · conv_lhs => rw [frames, split]
      rw [List.flatMap_append, List.flatMap_cons, List.append_assoc]
      rfl
    · dsimp only
      rw [frames, List.set_eq_take_append_cons_drop, if_pos inside, List.flatMap_append,
        List.flatMap_cons, List.append_assoc]

/-- An action is a move of one thread. The calls of the threads before and behind it stay. -/
theorem act_moves (attempts : Nat) (system : PoolSystem σ) (action : PoolAction)
    (opened : system.pool.idle.poisoned = false) :
    ∃ before thread behind after, system.frames = before ++ Thread.frames thread ++ behind ∧
      (system.act attempts action).frames = before ++ Thread.frames after ++ behind ∧
      Pool.Moves attempts system.pool thread (system.ends action)
        (system.act attempts action).pool after := by
  obtain ⟨before, behind, after, moves⟩ := act_splits attempts system action opened
  exact ⟨before, system.actor action, behind, after, moves⟩

/-- The outcome of a call goes to the source that waits for it, or to the thread's caller. -/
theorem act_delivers (attempts : Nat) (system : PoolSystem σ) (action : PoolAction)
    (opened : system.pool.idle.poisoned = false) (call : EndedCall)
    (ended : system.ends action = some call) :
    ∃ waiting, call.caller = Thread.caller waiting ∧
      (system.act attempts action).threads[action.thread]? =
        some (Thread.deliver call.outcome waiting) := by
  rw [ends, Option.bind_eq_some_iff] at ended
  obtain ⟨thread, found, ended⟩ := ended
  obtain ⟨inside, -⟩ := List.getElem?_eq_some_iff.mp found
  have moves := Pool.turn_moves attempts system.pool thread action.turn opened
  rw [ended] at moves
  obtain ⟨waiting, delivered, caller, -⟩ := moves.ended_cases
  refine ⟨waiting, caller, ?_⟩
  rw [act, found]
  dsimp only
  rw [List.getElem?_set_self inside, delivered]

/-- What every action keeps of a system and its history holds after every schedule. -/
theorem run_keeps (attempts : Nat) (keeps : List EndedCall → PoolSystem σ → Prop)
    (step : ∀ past system action, keeps past system →
      keeps (past ++ (system.ends action).toList) (system.act attempts action))
    (schedule : List PoolAction) (past : List EndedCall) (system : PoolSystem σ)
    (holds : keeps past system) :
    keeps (past ++ history attempts system schedule) (system.run attempts schedule) := by
  induction schedule generalizing past system with
  | nil => rwa [history, List.append_nil]
  | cons action schedule ih =>
    rw [history, ← List.append_assoc]
    exact ih _ _ (step past system action holds)

/-- Each call of a history is the one that some action of the schedule ends, and the calls before it
are the history of the actions before that. -/
theorem exists_of_history (attempts : Nat) (system : PoolSystem σ) (schedule : List PoolAction)
    {earlier behind : List EndedCall} {call : EndedCall}
    (split : system.history attempts schedule = earlier ++ call :: behind) :
    ∃ before action, system.history attempts before = earlier ∧
      (system.run attempts before).ends action = some call := by
  induction schedule generalizing system earlier with
  | nil => exact absurd split.symm (by simp [history])
  | cons action schedule ih =>
    rw [history] at split
    cases ended : system.ends action with
    | none =>
      rw [ended] at split
      obtain ⟨before, last, same, ends⟩ := ih (system.act attempts action) split
      refine ⟨action :: before, last, ?_, ends⟩
      rw [history, ended]
      exact same
    | some first =>
      rw [ended] at split
      cases earlier with
      | nil =>
        obtain ⟨rfl, -⟩ := List.cons.inj split
        exact ⟨[], action, rfl, ended⟩
      | cons other earlier =>
        obtain ⟨rfl, rest⟩ := List.cons.inj split
        obtain ⟨before, last, same, ends⟩ := ih (system.act attempts action) rest
        refine ⟨action :: before, last, ?_, ends⟩
        rw [history, ended, same]
        rfl

/-- What a thread has got from its last call is that its time was too late, or the outcome of a call
of the history. -/
theorem reported_run (attempts : Nat) (factory : Nat → Except String σ) (requested : UInt64)
    (maxIdle : Option Nat) (threads : Nat) (schedule : List PoolAction) :
    ∀ outcome,
      .idle (some outcome) ∈
          ((start factory requested maxIdle threads).run attempts schedule).threads →
      (∃ ms, outcome = .error (.bigTime ms)) ∨
        ∃ call ∈ (start factory requested maxIdle threads).history attempts schedule,
          call.outcome = outcome := by
  refine run_keeps attempts
    (fun past system => ∀ outcome, .idle (some outcome) ∈ system.threads →
      (∃ ms, outcome = .error (.bigTime ms)) ∨ ∃ call ∈ past, call.outcome = outcome)
    (fun past system action holds outcome got => ?_) schedule []
    (start factory requested maxIdle threads) fun outcome got => ?_
  · have still (among : .idle (some outcome) ∈ system.threads) :
        (∃ ms, outcome = .error (.bigTime ms)) ∨
          ∃ call ∈ past ++ (system.ends action).toList, call.outcome = outcome :=
      (holds outcome among).imp id fun ⟨call, mem, same⟩ => ⟨call, List.mem_append_left _ mem, same⟩
    rw [act] at got
    cases found : system.threads[action.thread]? with
    | none =>
      rw [found] at got
      exact still got
    | some thread =>
      rw [found] at got
      rcases List.mem_or_eq_of_mem_set got with old | new
      · exact still old
      · rcases Pool.turn_eq_idle attempts system.pool thread action.turn new.symm with
          same | late | ⟨call, ended, same⟩
        · exact still (same ▸ List.mem_of_getElem? found)
        · exact .inl late
        · refine .inr ⟨call, List.mem_append_right _ ?_, same⟩
          rw [ends, found, Option.bind_some, ended]
          exact List.mem_singleton_self call
  · cases List.eq_of_mem_replicate got

end PoolSystem

end SortableId
