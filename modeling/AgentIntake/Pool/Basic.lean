import AgentIntake.Attempt
import AgentIntake.Log.Record
import AgentIntake.Pool.Error
import AgentIntake.Work

/-!
# Worker pools

A pool has a fixed number of workers and a queue with room for a fixed number of tasks.  Whoever
submits a task never waits: either there is room in the queue or the task is refused.  A closed pool
takes no more tasks, but the workers finish what is queued before they leave; nothing is ever
cancelled.

A new queue is one block of memory, and `Room` is what the system says about that.

The state says where every task is that was accepted and has not finished: in the queue, or with the
worker that runs it.  What can happen to a pool is a `PoolEvent`; `Pool.next?` is the state after
an event, if the event can happen at all.  A task that panics finishes like any other.
-/

namespace AgentIntake

/-- What a worker is doing: it waits for a task, or runs one, or has left. -/
inductive Worker (α : Type) where
  | idle
  | busy (task : α)
  | gone

namespace Worker

variable {α : Type}

/-- It waits for a task. -/
def isIdle : Worker α → Bool
  | idle => true
  | _ => false

/-- It has not left. -/
def isLive : Worker α → Bool
  | gone => false
  | _ => true

/-- The task it runs. -/
def task? : Worker α → Option α
  | busy task => some task
  | _ => none

end Worker

/-- A pool of workers with a queue of tasks, the first to be taken first; the capacity is that of
the queue. -/
structure Pool (α : Type) where
  name : String
  capacity : Nat
  queue : List α
  workers : List (Worker α)
  isClosed : Bool

/-- What can happen to a pool.  A worker finishes its task in whatever way, and leaves when there
will be nothing more to do. -/
inductive PoolEvent (α : Type) where
  | accept (task : α)
  | take (worker : Nat)
  | finish (worker : Nat)
  | close
  | leave (worker : Nat)

/-! ## 1.  Room -/

/-- No queue has room for more tasks: each of its places holds a task, which is two words of eight
bytes, and a block of memory has less than `2^63` bytes. -/
def Room.widest : Nat := 0x7FFFFFFFFFFFFFFF / 16

/-- The queues for which the system has room: what the making of a queue of a capacity panics with,
or nothing if it is made.  A system that finds no memory for a queue below the limit ends the whole
program, and then there is nothing to tell of. -/
structure Room where
  refusal? : Nat → Option PanicPayload
  refuses : ∀ capacity, Room.widest < capacity → refusal? capacity ≠ none

/-- All the room that there can be. -/
def Room.ample : Room where
  refusal? capacity := if widest < capacity then some (.text "capacity overflow") else none
  refuses capacity h := by simp [h]

namespace Pool

variable {α : Type}

/-! ## 2.  State -/

/-- The pool of a name and sizes, if the sizes are possible.  Its workers are there, and there is
room for its queue. -/
def make? (name : String) (threads capacity : Nat) : Except PoolError (Pool α) :=
  if threads = 0 then .error (.noThreads name)
  else if capacity = 0 then .error (.noCapacity name)
  else .ok ⟨name, capacity, [], List.replicate threads .idle, false⟩

/-- Makes a pool.  The sizes are looked at first, and then room is asked for the queue. -/
def new (room : Room) (name : String) (threads capacity : Nat) : Attempt PoolError (Pool α) :=
  match make? name threads capacity with
  | .error e => .failed e
  | .ok p =>
    match room.refusal? capacity with
    | some payload => .panicked payload
    | none => .returned p

/-- How many workers have not left. -/
def live (p : Pool α) : Nat :=
  p.workers.countP Worker.isLive

/-- The tasks that are run, by worker. -/
def running (p : Pool α) : List α :=
  p.workers.filterMap Worker.task?

/-- The first worker that waits for a task. -/
def idle? (p : Pool α) : Option Nat :=
  p.workers.findIdx? Worker.isIdle

/-- The thread of a worker, by the name of the pool and the worker's number. -/
def threadName (pool : String) (worker : Nat) : String :=
  s!"{pool}-{worker}"

/-! ## 3.  Events -/

/-- The pool with a further task, or why it does not take it. -/
def submit (p : Pool α) (task : α) : Except PoolError (Pool α) :=
  if p.isClosed then .error (.shutdown p.name)
  else if p.capacity ≤ p.queue.length then .error (.rejected p.name p.capacity)
  else .ok { p with queue := p.queue ++ [task] }

/-- The pool after the worker has taken the first task, and the task. -/
def take? (p : Pool α) (worker : Nat) : Option (α × Pool α) :=
  match p.workers[worker]?, p.queue with
  | some .idle, task :: queue =>
    some (task, { p with queue := queue, workers := p.workers.set worker (.busy task) })
  | _, _ => none

/-- The pool after the worker is done with its task, and the task. -/
def finish? (p : Pool α) (worker : Nat) : Option (α × Pool α) :=
  match p.workers[worker]? with
  | some (.busy task) => some (task, { p with workers := p.workers.set worker .idle })
  | _ => none

/-- The closed pool. -/
def close (p : Pool α) : Pool α :=
  { p with isClosed := true }

/-- The pool after the worker has left. -/
def leave? (p : Pool α) (worker : Nat) : Option (Pool α) :=
  match p.workers[worker]?, p.queue with
  | some .idle, [] =>
    if p.isClosed then some { p with workers := p.workers.set worker .gone } else none
  | _, _ => none

/-- The pool after an event, if it can happen. -/
def next? (p : Pool α) : PoolEvent α → Option (Pool α)
  | .accept task => (p.submit task).toOption
  | .take worker => (p.take? worker).map (·.2)
  | .finish worker => (p.finish? worker).map (·.2)
  | .close => some p.close
  | .leave worker => p.leave? worker

/-- The pool after a run of events, if it can happen. -/
def run? (p : Pool α) : List (PoolEvent α) → Option (Pool α)
  | [] => some p
  | event :: events =>
    match p.next? event with
    | none => none
    | some q => q.run? events

/-! ## 4.  Records -/

/-- The target of the records of pools. -/
def target : String := Log.targetOf "pool"

/-- The record of a new pool. -/
def startedRecord (p : Pool α) : Log.Record where
  level := .debug
  target := target
  message := "worker pool started"
  fields :=
    [("pool", .shown p.name), ("threads", .whole p.workers.length),
      ("capacity", .whole p.capacity)]

/-- The records of closing a pool: none if it was closed before. -/
def closeRecords (p : Pool α) : List Log.Record :=
  if p.isClosed then []
  else
    [{ level := .debug
       target := target
       message := "worker pool closed"
       fields := [("pool", .shown p.name)] }]

/-- The record of a task that panicked. -/
def panicRecord (pool : String) (payload : PanicPayload) : Log.Record where
  level := .warn
  target := target
  message := "worker task panicked"
  fields := [("pool", .text pool), ("panic", .shown payload.message)]

/-- What a worker does with a task that may panic: a panic ends the task and goes no further than a
record, which `logged` makes one of the effects. -/
def runTask {ε : Type} (pool : String) (logged : Log.Record → ε)
    (task : Work ε × Except PanicPayload Unit) : Work ε :=
  match task.2 with
  | .ok () => task.1
  | .error p => task.1 ++ .one (logged (panicRecord pool p))

end Pool

end AgentIntake
