import AgentIntake.Bootstrap.Basic
import AgentIntake.Proofs.Receiver.Calls
import AgentIntake.Proofs.Receiver.Room

/-!
# Building a receiver, step by step

Two places know which sizes are possible: what makes a configuration valid, which allows a liveness
pool without room as long as it has no workers, and what makes a pool.  They agree (`build_agrees`):
the pools' own complaints about sizes are never heard.

Sizes that are possible may still be too large.  Neither place knows that; the system is asked for
room for a queue when its pool is made, and a queue without room is a panic.  So a valid
configuration is built if its queues fit (`Room.Fits`), and otherwise building panics.

`Receiver.new` says what comes of building.  That nothing is left of an attempt that does not
succeed takes a closer look, since threads are started one by one and the system may refuse each of
them.  `build` is the same attempt in its smallest steps, with `Spawn` for the system; where every
thread is started, it comes to what `Receiver.new` says.

The acceptor is called last, behind everything that can fail, and a pool whose workers are not all
there is given up: its queue goes away, and the workers that have been started leave.
-/

namespace AgentIntake

/-- A pool takes tasks, and all its workers are there. -/
structure Pool.Ready {α : Type} (p : Pool α) (threads capacity : Nat) : Prop where
  isOpen : p.isClosed = false
  live : p.live = threads
  capacity : p.capacity = capacity

namespace Receiver

variable {ρ η α : Type}

/-! ## 1.  Steps -/

/-- What is done while a receiver is built: the thread of a worker is started, the queue of a pool
goes away, so that its workers leave, or something happens that others see. -/
inductive BuildStep (η : Type) where
  | spawned (pool : String) (worker : Nat)
  | released (pool : String)
  | seen (effect : Effect η)

/-- What the system says when it is to start the thread of a worker: the cause if it does not. -/
abbrev Spawn := String → Nat → Option String

/-- Starts the workers of a pool, from the worker `first` on, until one is not started. -/
def spawnFrom (spawn : Spawn) (pool : String) (first : Nat) :
    Nat → List (BuildStep η) × Except PoolError (List (Worker α))
  | 0 => ([], .ok [])
  | more + 1 =>
    match spawn pool first with
    | some cause => ([.released pool], .error (.spawn pool cause))
    | none =>
      let (steps, workers) := spawnFrom spawn pool (first + 1) more
      (.spawned pool first :: steps, workers.map (.idle :: ·))

/-- Makes a pool: asks for room for its queue and starts its workers. -/
def openPool (room : Room) (spawn : Spawn) (name : String) (threads capacity : Nat) :
    List (BuildStep η) × Attempt PoolError (Pool α) :=
  if threads = 0 then ([], .failed (.noThreads name))
  else if capacity = 0 then ([], .failed (.noCapacity name))
  else
    match room.refusal? capacity with
    | some p => ([], .panicked p)
    | none =>
      match spawnFrom spawn name 0 threads with
      | (steps, .error e) => (steps, .failed e)
      | (steps, .ok workers) =>
        let pool : Pool α := ⟨name, capacity, [], workers, false⟩
        (steps ++ [.seen (.logged pool.startedRecord)], .returned pool)

/-- Makes the liveness pool, if it is to have workers. -/
def openEvents (room : Room) (spawn : Spawn) (config : Config) :
    List (BuildStep η) × Attempt PoolError (Option (Pool Ping)) :=
  if config.eventWorkerThreads = 0 then ([], .returned none)
  else
    let (steps, pool) := openPool room spawn eventPoolName config.eventWorkerThreads.toNat
      config.eventWorkerQueueSize.toNat
    (steps, pool.map some)

/-- Builds a receiver: the steps in order, and what comes of them.  A dispatch pool that is there
already goes away with whatever goes wrong after it; it is closed first if that is an error. -/
def build (room : Room) (spawn : Spawn) (config : Config) (cluster : Option η) (observers : List η)
    (grace : Nat) : List (BuildStep η) × Attempt ReceiverError (Receiver ρ η) :=
  match config.invalid? with
  | some e => ([], .failed (.config e))
  | none =>
    match openPool room spawn dispatchPoolName config.workerThreads.toNat
        config.workerQueueSize.toNat with
    | (steps, .failed e) => (steps, .failed (.pool e))
    | (steps, .panicked p) => (steps, .panicked p)
    | (steps, .returned dispatch) =>
      match openEvents room spawn config with
      | (more, .failed e) =>
        (steps ++ more ++ .released dispatch.name :: dispatch.closeRecords.map (.seen <| .logged ·),
          .failed (.pool e))
      | (more, .panicked p) => (steps ++ more ++ [.released dispatch.name], .panicked p)
      | (more, .returned events) =>
        (steps ++ more ++ cluster.toList.map (.seen <| .acceptor <| .addObserver ·),
          .returned (assembled config observers grace dispatch events))

/-! ## 2.  What is left of steps -/

/-- What others see. -/
def effects (steps : List (BuildStep η)) : List (Effect η) :=
  steps.filterMap fun
    | .seen effect => some effect
    | .spawned .. | .released _ => none

/-- What the acceptor is asked. -/
def acceptorCalls (steps : List (BuildStep η)) : List (AcceptorCall η) :=
  (effects steps).filterMap fun
    | .acceptor call => some call
    | .health _ | .logged _ => none

/-- The threads after a step, each by its pool and the worker's number. -/
def threadsAfter (threads : List (String × Nat)) : BuildStep η → List (String × Nat)
  | .spawned pool worker => threads ++ [(pool, worker)]
  | .released pool => threads.filter (·.1 ≠ pool)
  | .seen _ => threads

/-- The threads that are left by steps. -/
def threadsLeft (steps : List (BuildStep η)) : List (String × Nat) :=
  steps.foldl threadsAfter []

/-- Nothing is left of an attempt: the acceptor has not been called, and no thread has stayed. -/
structure Undone (steps : List (BuildStep η)) : Prop where
  calls : acceptorCalls steps = []
  threads : threadsLeft steps = []

/-- The first workers of a pool are started. -/
def spawnings (pool : String) (count : Nat) : List (BuildStep η) :=
  (List.range count).map (.spawned pool)

/-- The threads of the first workers of a pool. -/
def crew (pool : String) (count : Nat) : List (String × Nat) :=
  (List.range count).map (pool, ·)

theorem effects_append (first second : List (BuildStep η)) :
    effects (first ++ second) = effects first ++ effects second :=
  List.filterMap_append

theorem effects_spawnings (pool : String) (count : Nat) :
    effects (spawnings pool count : List (BuildStep η)) = [] := by
  rw [effects, spawnings, List.filterMap_map, List.filterMap_eq_nil_iff]
  intro worker _
  rfl

theorem foldl_threadsAfter_spawnings (threads : List (String × Nat)) (pool : String) (count : Nat) :
    (spawnings pool count : List (BuildStep η)).foldl threadsAfter threads =
      threads ++ crew pool count := by
  induction count with
  | zero => exact (List.append_nil _).symm
  | succ count ih =>
    rw [spawnings, List.range_succ, List.map_append, List.foldl_append]
    rw [spawnings] at ih
    rw [ih, crew, crew, List.range_succ, List.map_append, ← List.append_assoc]
    rfl

theorem effects_map_seen {β : Type} (f : β → Effect η) (l : List β) :
    effects (l.map fun b => BuildStep.seen (f b)) = l.map f := by
  rw [effects, List.filterMap_map, ← List.filterMap_eq_map]
  rfl

theorem acceptorCalls_append (first second : List (BuildStep η)) :
    acceptorCalls (first ++ second) = acceptorCalls first ++ acceptorCalls second := by
  rw [acceptorCalls, effects_append, List.filterMap_append]
  rfl

theorem acceptorCalls_spawnings (pool : String) (count : Nat) :
    acceptorCalls (spawnings pool count : List (BuildStep η)) = [] := by
  rw [acceptorCalls, effects_spawnings]
  rfl

theorem acceptorCalls_logged (records : List Log.Record) :
    acceptorCalls (records.map (.seen <| .logged ·) : List (BuildStep η)) = [] := by
  rw [acceptorCalls, effects_map_seen, List.filterMap_map, List.filterMap_eq_nil_iff]
  intro record _
  rfl

/-- What others see starts and stops no threads. -/
theorem foldl_threadsAfter_seen {β : Type} (f : β → Effect η) (l : List β)
    (threads : List (String × Nat)) :
    (l.map fun b => BuildStep.seen (f b)).foldl threadsAfter threads = threads := by
  induction l with
  | nil => rfl
  | cons b l ih => exact ih

theorem filter_crew_self (pool : String) (count : Nat) :
    (crew pool count).filter (·.1 ≠ pool) = [] := by
  rw [List.filter_eq_nil_iff]
  intro thread hm
  obtain ⟨worker, -, rfl⟩ := List.mem_map.1 hm
  simp

theorem filter_crew_of_ne {pool other : String} (h : pool ≠ other) (count : Nat) :
    (crew pool count).filter (·.1 ≠ other) = crew pool count := by
  rw [List.filter_eq_self]
  intro thread hm
  obtain ⟨worker, -, rfl⟩ := List.mem_map.1 hm
  simpa using h

/-! ## 3.  Pools -/

/-- Every worker is started, or the first one that is not ends the attempt. -/
theorem spawnFrom_cases (spawn : Spawn) (pool : String) (first more : Nat) :
    (∀ k < more, spawn pool (first + k) = none) ∧
        spawnFrom spawn pool first more =
          (((List.range' first more).map (.spawned pool) : List (BuildStep η)),
            .ok (List.replicate more (.idle : Worker α))) ∨
      ∃ k cause, k < more ∧ spawn pool (first + k) = some cause ∧
        spawnFrom (α := α) spawn pool first more =
          (((List.range' first k).map (.spawned pool) ++ [.released pool] : List (BuildStep η)),
            .error (.spawn pool cause)) := by
  induction more generalizing first with
  | zero => exact .inl ⟨by omega, rfl⟩
  | succ more ih =>
    cases hs : spawn pool first with
    | some cause =>
      refine .inr ⟨0, cause, by omega, hs, ?_⟩
      rw [spawnFrom, hs]
      rfl
    | none =>
      rcases ih (first + 1) with ⟨hall, he⟩ | ⟨k, cause, hk, hc, he⟩
      · refine .inl ⟨fun k hk => ?_, ?_⟩
        · cases k with
          | zero => exact hs
          | succ k =>
            have := hall k (by omega)
            rwa [show first + (k + 1) = first + 1 + k by omega]
        · rw [spawnFrom, hs]
          dsimp only
          rw [he]
          rfl
      · refine .inr ⟨k + 1, cause, by omega, ?_, ?_⟩
        · rwa [show first + (k + 1) = first + 1 + k by omega]
        · rw [spawnFrom, hs]
          dsimp only
          rw [he]
          rfl

theorem ready_newPool (name : String) (threads capacity : Nat) :
    (newPool name threads capacity : Pool α).Ready threads capacity where
  isOpen := rfl
  live := by
    rw [Pool.live, newPool, List.countP_replicate]
    exact if_pos rfl
  capacity := rfl

section Opening

variable (spawn : Spawn) {room : Room}

/-- A pool without room for its queue is no more than a panic. -/
theorem openPool_of_refusal (name : String) {threads capacity : Nat} (ht : 0 < threads)
    (hc : 0 < capacity) {p : PanicPayload} (hr : room.refusal? capacity = some p) :
    (openPool room spawn name threads capacity :
      List (BuildStep η) × Attempt PoolError (Pool α)) = ([], .panicked p) := by
  rw [openPool, if_neg (Nat.ne_of_gt ht), if_neg (Nat.ne_of_gt hc), hr]

/-- A pool with room for its queue is opened if all its threads are started, and is given up if one
is not. -/
theorem openPool_cases (name : String) {threads capacity : Nat} (ht : 0 < threads)
    (hc : 0 < capacity) (hr : room.refusal? capacity = none) :
    openPool room spawn name threads capacity =
        ((spawnings name threads ++ [.seen (.logged
            (newPool name threads capacity : Pool α).startedRecord)] : List (BuildStep η)),
          .returned (newPool name threads capacity : Pool α)) ∨
      ∃ k cause, spawn name k = some cause ∧
        openPool (α := α) room spawn name threads capacity =
          ((spawnings name k ++ [.released name] : List (BuildStep η)),
            .failed (.spawn name cause)) := by
  rw [openPool, if_neg (Nat.ne_of_gt ht), if_neg (Nat.ne_of_gt hc), hr]
  rcases spawnFrom_cases (η := η) (α := α) spawn name 0 threads with
    ⟨-, he⟩ | ⟨k, cause, -, hs, he⟩
  · left
    dsimp only
    rw [he, ← List.range_eq_range']
    rfl
  · right
    refine ⟨k, cause, Nat.zero_add k ▸ hs, ?_⟩
    dsimp only
    rw [he, ← List.range_eq_range']
    rfl

variable {config : Config} (hv : config.invalid? = none)

include hv

theorem openEvents_of_refusal (hz : config.eventWorkerThreads ≠ 0) {p : PanicPayload}
    (hr : room.refusal? config.eventWorkerQueueSize.toNat = some p) :
    (openEvents room spawn config :
      List (BuildStep η) × Attempt PoolError (Option (Pool Ping))) = ([], .panicked p) := by
  obtain ⟨ht, hc⟩ := (pos_of_valid hv).2.2.resolve_left hz
  rw [openEvents, if_neg hz, openPool_of_refusal spawn eventPoolName ht hc hr]
  rfl

/-- The liveness pool is opened if all its threads are started, and is given up if one is not. -/
theorem openEvents_cases
    (hr : config.eventWorkerThreads ≠ 0 →
      room.refusal? config.eventWorkerQueueSize.toNat = none) :
    openEvents room spawn config =
        ((spawnings eventPoolName config.eventWorkerThreads.toNat ++
          (newEvents config).toList.map (.seen <| .logged ·.startedRecord) : List (BuildStep η)),
          .returned (newEvents config)) ∨
      ∃ k cause, spawn eventPoolName k = some cause ∧
        openEvents room spawn config =
          ((spawnings eventPoolName k ++ [.released eventPoolName] : List (BuildStep η)),
            .failed (.spawn eventPoolName cause)) := by
  rw [openEvents, newEvents]
  by_cases hz : config.eventWorkerThreads = 0
  · left
    rw [if_pos hz, if_pos hz, hz]
    rfl
  · obtain ⟨ht, hc⟩ := (pos_of_valid hv).2.2.resolve_left hz
    rw [if_neg hz, if_neg hz]
    rcases openPool_cases (η := η) (α := Ping) spawn eventPoolName ht hc (hr hz) with
      he | ⟨k, cause, hs, he⟩
    · left
      rw [he]
      rfl
    · right
      refine ⟨k, cause, hs, ?_⟩
      rw [he]
      rfl

end Opening

/-! ## 4.  Attempts -/

/-- What a receiver has when all its threads were started: pools of the sizes of the configuration,
the one for signs of life exactly if that is to have workers, and the threads of their workers. -/
structure Stands (config : Config) (r : Receiver ρ η) (steps : List (BuildStep η)) : Prop where
  dispatch : r.dispatch.Ready config.workerThreads.toNat config.workerQueueSize.toNat
  events_iff : r.events.isSome = true ↔ 0 < config.eventWorkerThreads
  events : ∀ pool ∈ r.events,
    pool.Ready config.eventWorkerThreads.toNat config.eventWorkerQueueSize.toNat
  threads : threadsLeft steps = crew dispatchPoolName config.workerThreads.toNat ++
    crew eventPoolName config.eventWorkerThreads.toNat

theorem isSome_newEvents_iff (config : Config) :
    (newEvents config).isSome = true ↔ 0 < config.eventWorkerThreads := by
  rw [newEvents]
  by_cases hz : config.eventWorkerThreads = 0
  · simp [hz]
  · simp [hz, UInt64.pos_iff_ne_zero]

theorem ready_of_mem_newEvents {config : Config} {pool : Pool Ping} (h : pool ∈ newEvents config) :
    pool.Ready config.eventWorkerThreads.toNat config.eventWorkerQueueSize.toNat := by
  rw [newEvents] at h
  split at h
  · cases h
  · cases h
    exact ready_newPool ..

/-- The dispatch pool is given up while its threads are started. -/
theorem undone_dispatch (started : Nat) :
    Undone (spawnings dispatchPoolName started ++ [.released dispatchPoolName] :
      List (BuildStep η)) where
  calls := by
    rw [acceptorCalls_append, acceptorCalls_spawnings]
    rfl
  threads := by
    rw [threadsLeft, List.foldl_append, foldl_threadsAfter_spawnings]
    exact filter_crew_self ..

/-- The dispatch pool is there, and is given up when `more` steps have left nothing behind. -/
theorem undone_of_released (dispatch : Pool (Delivery ρ)) (hname : dispatch.name = dispatchPoolName)
    (threads : Nat) {more : List (BuildStep η)} (hcalls : acceptorCalls more = [])
    (hthreads : more.foldl threadsAfter (crew dispatchPoolName threads) =
      crew dispatchPoolName threads) (records : List Log.Record) :
    Undone (spawnings dispatchPoolName threads ++
      [.seen (.logged dispatch.startedRecord)] ++ more ++
      .released dispatch.name :: records.map (.seen <| .logged ·)) where
  calls := by
    simp only [acceptorCalls_append, acceptorCalls_spawnings, hcalls, List.nil_append]
    exact acceptorCalls_logged records
  threads := by
    simp only [threadsLeft, List.foldl_append, List.foldl_cons, List.foldl_nil, threadsAfter,
      foldl_threadsAfter_spawnings, foldl_threadsAfter_seen, List.nil_append, hname, hthreads]
    exact filter_crew_self ..

/-- The liveness pool is given up while its threads are started. -/
theorem foldl_threadsAfter_events (threads started : Nat) :
    (spawnings eventPoolName started ++ [.released eventPoolName] : List (BuildStep η)).foldl
      threadsAfter (crew dispatchPoolName threads) = crew dispatchPoolName threads := by
  have hother : dispatchPoolName ≠ eventPoolName := by decide
  rw [List.foldl_append, foldl_threadsAfter_spawnings]
  show (crew dispatchPoolName threads ++ crew eventPoolName started).filter (·.1 ≠ eventPoolName) =
    _
  rw [List.filter_append, filter_crew_self, filter_crew_of_ne hother, List.append_nil]

section

variable (room : Room) (spawn : Spawn) (config : Config) (cluster : Option η) (observers : List η)
  (grace : Nat)

/-- **How an attempt ends.**  The configuration is refused before anything is done; or it is valid,
and then a queue has no room or a thread is not started, and the attempt is undone; or the receiver
stands.  What does not hang on the threads is as `new` says. -/
inductive Built : List (BuildStep η) → Attempt ReceiverError (Receiver ρ η) → Prop where
  | invalid {i : Config.Invalid} (invalid : config.invalid? = some i) :
    Built [] (.failed (.config i))
  | unroomed {steps : List (BuildStep η)} {p : PanicPayload} (valid : config.invalid? = none)
    (unfit : ¬ room.Fits config) (undone : Undone steps)
    (agrees : new (ρ := ρ) room config cluster observers grace = (effects steps, .panicked p)) :
    Built steps (.panicked p)
  | unstaffed {steps : List (BuildStep η)} {pool cause : String} {worker : Nat}
    (valid : config.invalid? = none) (unspawned : spawn pool worker = some cause)
    (undone : Undone steps) : Built steps (.failed (.pool (.spawn pool cause)))
  | stands {steps : List (BuildStep η)} {r : Receiver ρ η} (valid : config.invalid? = none)
    (fits : room.Fits config) (stands : Stands config r steps)
    (agrees : new room config cluster observers grace = (effects steps, .returned r)) :
    Built steps (.returned r)

variable {room config}

/-- Behind a dispatch pool that is there, the liveness pool decides. -/
theorem built_of_dispatch (hv : config.invalid? = none)
    (hd : room.refusal? config.workerQueueSize.toNat = none)
    (hopen : openPool room spawn dispatchPoolName config.workerThreads.toNat
        config.workerQueueSize.toNat =
      ((spawnings dispatchPoolName config.workerThreads.toNat ++ [.seen (.logged
          (newDispatch config : Pool (Delivery ρ)).startedRecord)] : List (BuildStep η)),
        .returned (newDispatch config : Pool (Delivery ρ)))) :
    Built (ρ := ρ) room spawn config cluster observers grace
      (build (ρ := ρ) room spawn config cluster observers grace).1
      (build room spawn config cluster observers grace).2 := by
  obtain ⟨ht, hc, -⟩ := pos_of_valid hv
  by_cases he : config.eventWorkerThreads ≠ 0 →
      room.refusal? config.eventWorkerQueueSize.toNat = none
  · rw [build, hv]
    dsimp only
    rw [hopen]
    rcases openEvents_cases (η := η) spawn hv he with hev | ⟨k, cause, hs, hev⟩
    · -- nothing can fail any more, and only now the acceptor is called
      rw [hev]
      refine .stands hv ⟨hd, he⟩
        ⟨ready_newPool .., isSome_newEvents_iff config, fun pool hm =>
          ready_of_mem_newEvents hm, ?_⟩ ?_
      · simp only [threadsLeft, List.foldl_append, List.foldl_cons, List.foldl_nil, threadsAfter,
          foldl_threadsAfter_spawnings, foldl_threadsAfter_seen, List.nil_append]
      · rw [new_of_fits hv cluster observers grace ⟨hd, he⟩ (make?_of_valid hv ..), effects_append,
          effects_append, effects_append, effects_append, effects_spawnings, effects_spawnings,
          effects_map_seen, effects_map_seen]
        rfl
    · rw [hev]
      have hcalls : acceptorCalls (spawnings eventPoolName k ++ [.released eventPoolName] :
          List (BuildStep η)) = [] := by
        rw [acceptorCalls_append, acceptorCalls_spawnings]
        rfl
      exact .unstaffed hv hs
        (undone_of_released _ rfl _ hcalls (foldl_threadsAfter_events _ k) _)
  · obtain ⟨hz, hr⟩ := Classical.not_imp.1 he
    obtain ⟨p, hp⟩ := Option.ne_none_iff_exists'.1 hr
    rw [build, hv]
    dsimp only
    rw [hopen, openEvents_of_refusal spawn hv hz hp]
    refine .unroomed hv (fun hf => hr (hf.events hz)) (undone_of_released _ rfl _ rfl rfl []) ?_
    rw [new, hv, new_of_room ht hc hd, newEventPool_of_refusal hv hz hp, effects_append,
      effects_append, effects_append, effects_spawnings]
    rfl

variable (room config)

theorem built_build :
    Built (ρ := ρ) room spawn config cluster observers grace
      (build (ρ := ρ) room spawn config cluster observers grace).1
      (build room spawn config cluster observers grace).2 := by
  cases hv : config.invalid? with
  | some i =>
    rw [build, hv]
    exact .invalid hv
  | none =>
    obtain ⟨ht, hc, -⟩ := pos_of_valid hv
    cases hd : room.refusal? config.workerQueueSize.toNat with
    | some p =>
      rw [build, hv]
      dsimp only
      rw [openPool_of_refusal spawn dispatchPoolName ht hc hd]
      refine .unroomed hv (fun hf => ?_) ⟨rfl, rfl⟩ ?_
      · rw [hf.dispatch] at hd
        cases hd
      · rw [new, hv, new_of_refusal ht hc hd]
        rfl
    | none =>
      rcases openPool_cases (η := η) (α := Delivery ρ) spawn dispatchPoolName ht hc hd with
        hopen | ⟨k, cause, hs, hopen⟩
      · exact built_of_dispatch spawn cluster observers grace hv hd hopen
      · rw [build, hv]
        dsimp only
        rw [hopen]
        exact .unstaffed hv hs (undone_dispatch k)

end

/-- A bootstrap answers with a configuration only if that is valid. -/
theorem invalid?_of_run {slot : Telemetry.Slot} {loaded : Except LoadError Config} {config : Config}
    (h : (Bootstrap.run slot loaded).2.2 = .ok config) : config.invalid? = none := by
  rw [Bootstrap.run] at h
  cases hp : Bootstrap.prepare slot loaded with
  | error e =>
    rw [hp] at h
    cases h
  | ok prepared =>
    rw [hp] at h
    cases h
    unfold Bootstrap.prepare at hp
    split at hp
    · cases hp
    · split at hp
      · cases hp
      · rename_i hv
        split at hp
        · cases hp
        · cases hp
          exact hv

/-- **Validity and building agree.**  However the system answers, nothing is left of an attempt that
does not succeed, and a pool's own complaint about its sizes is never the reason; one that succeeds
leaves open pools of the sizes that the configuration gives, with all their workers.

Let every thread be started.  An attempt fails exactly for a configuration that is not valid, with
what is wrong with it and before anything is done; it succeeds exactly for a valid one whose queues
have room, and for a valid one without that it panics.  It comes to what `new` says, and so a
configuration that a bootstrap answers with is built if its queues have room. -/
theorem build_agrees (room : Room) (spawn : Spawn) (config : Config) (cluster : Option η)
    (observers : List η) (grace : Nat) :
    ∃ (steps : List (BuildStep η)) (result : Attempt ReceiverError (Receiver ρ η)),
      build room spawn config cluster observers grace = (steps, result) ∧
      (∀ e, result = .failed e → Undone steps ∧
        ∀ pool, e ≠ .pool (.noThreads pool) ∧ e ≠ .pool (.noCapacity pool)) ∧
      (∀ p, result = .panicked p → Undone steps) ∧
      (∀ r, result = .returned r → Stands config r steps) ∧
      ((∀ pool worker, spawn pool worker = none) →
        ((∃ r, result = .returned r) ↔ config.invalid? = none ∧ room.Fits config) ∧
        (∀ e, result = .failed e ↔ ∃ i, config.invalid? = some i ∧ e = .config i) ∧
        ((∃ e, result = .failed e) → steps = []) ∧
        ((∃ p, result = .panicked p) ↔ config.invalid? = none ∧ ¬ room.Fits config) ∧
        new room config cluster observers grace = (effects steps, result) ∧
        ∀ slot loaded, (Bootstrap.run slot loaded).2.2 = .ok config → room.Fits config →
          ∃ r, result = .returned r) := by
  rcases hb : build (ρ := ρ) room spawn config cluster observers grace with ⟨steps, result⟩
  have hbuilt := built_build (ρ := ρ) room spawn config cluster observers grace
  rw [hb] at hbuilt
  refine ⟨steps, result, rfl, ?_⟩
  cases hbuilt with
  | @invalid i hv =>
    refine ⟨?_, (fun _ h => by cases h), (fun _ h => by cases h),
      fun _ => ⟨?_, ?_, fun _ => rfl, ?_, ?_, ?_⟩⟩
    · rintro e ⟨⟩
      exact ⟨⟨rfl, rfl⟩, fun pool => by simp⟩
    · simp [hv]
    · intro e
      simp [hv, eq_comm]
    · simp [hv]
    · rw [new, hv]
      rfl
    · intro slot loaded hrun
      rw [invalid?_of_run hrun] at hv
      cases hv
  | @unroomed _ p hv hf hundone hnew =>
    refine ⟨(fun _ h => by cases h), fun _ _ => hundone, (fun _ h => by cases h),
      fun _ => ⟨?_, ?_, (fun h => by simp at h), ?_, hnew, ?_⟩⟩
    · simp [hf]
    · simp [hv]
    · simp [hv, hf]
    · exact fun _ _ _ hfits => absurd hfits hf
  | unstaffed hv hs hundone =>
    refine ⟨?_, (fun _ h => by cases h), (fun _ h => by cases h), fun hall => ?_⟩
    · rintro e ⟨⟩
      exact ⟨hundone, fun pool => by simp⟩
    · rw [hall] at hs
      cases hs
  | @stands _ r hv hf hr hnew =>
    refine ⟨(fun _ h => by cases h), (fun _ h => by cases h), ?_,
      fun _ => ⟨?_, ?_, (fun h => by simp at h), ?_, hnew, ?_⟩⟩
    · rintro _ ⟨⟩
      exact hr
    · simp [hv, hf]
    · simp [hv]
    · simp [hf]
    · exact fun _ _ _ _ => ⟨r, rfl⟩

/-- A dispatch pool of one worker, and a liveness pool of two. -/
def staffedConfig : Config :=
  { narrowConfig with eventWorkerThreads := 2, eventWorkerQueueSize := 3 }

/-- A configuration whose dispatch queue is as wide as a configuration can say. -/
def widestConfig : Config :=
  { staffedConfig with workerQueueSize := 0xFFFFFFFFFFFFFFFF }

/-- The configuration is valid and no system builds it: there is no room for its dispatch queue. -/
theorem build_panics_at_widest :
    widestConfig.invalid? = none ∧
      ∀ (room : Room) (spawn : Spawn), ∃ p, build (ρ := Unit) (η := Nat) room spawn
        widestConfig (some 0) [1] 0 = ([], .panicked p) := by
  have hv : widestConfig.invalid? = none := rfl
  have hwide : Room.widest < widestConfig.workerQueueSize.toNat := by decide
  obtain ⟨ht, hc, -⟩ := pos_of_valid hv
  refine ⟨hv, fun room spawn => ?_⟩
  obtain ⟨p, hp⟩ := Option.ne_none_iff_exists'.1 (room.refuses _ hwide)
  refine ⟨p, ?_⟩
  rw [build, hv]
  dsimp only
  rw [openPool_of_refusal spawn dispatchPoolName ht hc hp]

/-- A system that has room for two tasks in a queue, and for no more. -/
def tightRoom : Room where
  refusal? capacity := if 2 < capacity then some (.text "capacity overflow") else none
  refuses capacity h := by
    have hw : 2 ≤ Room.widest := by decide
    simp [Nat.lt_of_le_of_lt hw h]

/-- A receiver is built with its two pools.  If the system does not start the third thread, the
other two leave; if it has no room for the second queue, the dispatch pool goes away, and there is a
panic.  With no capacity for the liveness pool no thread is started at all. -/
theorem build_agrees_staffed :
    (∃ (steps : List (BuildStep Nat)) (r : Receiver Unit Nat),
      build .ample (fun _ _ => none) staffedConfig (some 0) [1] 0 = (steps, .returned r) ∧
        threadsLeft steps = [(dispatchPoolName, 0), (eventPoolName, 0), (eventPoolName, 1)] ∧
        (∃ observer, acceptorCalls steps = [.addObserver observer]) ∧
        new .ample staffedConfig (some 0) [1] 0 = (effects steps, .returned r)) ∧
    (∃ steps : List (BuildStep Nat),
      build (ρ := Unit) .ample
          (fun pool worker => if pool = eventPoolName ∧ worker = 1 then some "limit" else none)
          staffedConfig (some 0) [1] 0 =
        (steps, .failed (.pool (.spawn eventPoolName "limit"))) ∧ Undone steps) ∧
    (∃ steps : List (BuildStep Nat),
      build (ρ := Unit) tightRoom (fun _ _ => none) staffedConfig (some 0) [1] 0 =
        (steps, .panicked (.text "capacity overflow")) ∧ Undone steps) ∧
    build (ρ := Unit) (η := Nat) .ample (fun _ _ => none)
        { staffedConfig with eventWorkerQueueSize := 0 } (some 0) [1] 0 =
      ([], .failed (.config (.notPositive "event_worker_queue_size"))) := by
  obtain ⟨steps, result, hb, -, -, hok, hall⟩ :=
    build_agrees (ρ := Unit) .ample (fun _ _ => none) staffedConfig (some 0) [1] 0
  obtain ⟨hiff, -, -, -, hnew, -⟩ := hall fun _ _ => rfl
  obtain ⟨r, rfl⟩ := hiff.2 ⟨rfl, rfl, fun _ => rfl⟩
  refine ⟨⟨steps, r, hb, (hok r rfl).threads, ?_, hnew⟩, ?_, ?_, ?_⟩
  · cases hb
    exact ⟨0, rfl⟩
  · obtain ⟨steps, result, hb, herr, -⟩ := build_agrees (ρ := Unit) .ample
      (fun pool worker => if pool = eventPoolName ∧ worker = 1 then some "limit" else none)
      staffedConfig (some 0) [1] 0
    cases hb
    exact ⟨_, rfl, (herr _ rfl).1⟩
  · obtain ⟨steps, result, hb, -, hpanic, -⟩ := build_agrees (ρ := Unit) tightRoom
      (fun _ _ => none) staffedConfig (some 0) [1] 0
    cases hb
    exact ⟨_, rfl, hpanic _ rfl⟩
  · obtain ⟨steps, result, hb, -, -, -, hall⟩ := build_agrees (ρ := Unit) (η := Nat) .ample
      (fun _ _ => none) { staffedConfig with eventWorkerQueueSize := 0 } (some 0) [1] 0
    obtain ⟨-, hfail, hsteps, -⟩ := hall fun _ _ => rfl
    have he := (hfail _).2 ⟨.notPositive "event_worker_queue_size", rfl, rfl⟩
    rw [hb, hsteps ⟨_, he⟩, he]

end Receiver

end AgentIntake
