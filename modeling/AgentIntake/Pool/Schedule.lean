import AgentIntake.Pool.Basic
import AgentIntake.Work

/-!
# Eager workers

Of all the ways in which the workers of a pool may get on, one: whoever can do something does it at
once.  An idle worker takes the first task and does its work up to the first wait; only a wait holds
it up.  `Pool.settle` goes on until every task is finished, waits, or is queued behind workers that
all wait; `Pool.release` ends the waits.

Every state it reaches is reached by events of the pool.
-/

namespace AgentIntake.Pool

variable {α ε : Type}

/-- The pool after an idle worker has taken the first task, with the worker and the task. -/
def takeNext? (p : Pool α) : Option (Nat × α × Pool α) :=
  match p.idle? with
  | none => none
  | some worker => (p.take? worker).map fun (task, q) => (worker, task, q)

theorem length_lt_of_take? {p q : Pool α} {worker : Nat} {task : α}
    (h : p.take? worker = some (task, q)) : q.queue.length < p.queue.length := by
  unfold take? at h
  split at h
  · rename_i queue _ hq
    cases h
    rw [hq]
    exact Nat.lt_succ_self _
  · cases h

theorem length_lt_of_takeNext? {p q : Pool α} {worker : Nat} {task : α}
    (h : p.takeNext? = some (worker, task, q)) : q.queue.length < p.queue.length := by
  unfold takeNext? at h
  split at h
  · cases h
  · obtain ⟨⟨task', q'⟩, ht, hr⟩ := Option.map_eq_some_iff.1 h
    cases hr
    exact length_lt_of_take? ht

/-- The pool after the worker is done with its task; the same pool if it has none. -/
def finish (p : Pool α) (worker : Nat) : Pool α :=
  ((p.finish? worker).map (·.2)).getD p

theorem queue_finish (p : Pool α) (worker : Nat) : (p.finish worker).queue = p.queue := by
  unfold finish finish?
  split <;> rfl

/-- The pool after every idle worker has left, if it is closed and nothing is queued. -/
def dismiss (p : Pool α) : Pool α :=
  if p.isClosed ∧ p.queue.isEmpty then
    { p with workers := p.workers.map fun w => if w.isIdle then .gone else w }
  else p

/-- The pool when nothing more happens by itself, and the effects on the way there. -/
def settle (work : α → Work ε) (p : Pool α) : Pool α × List ε :=
  match _h : p.takeNext? with
  | none => (p.dismiss, [])
  | some (worker, task, q) =>
    let next := if (work task).hasWait then q else q.finish worker
    let (r, effects) := next.settle work
    (r, (work task).beforeWait ++ effects)
termination_by p.queue.length
decreasing_by
  have := length_lt_of_takeNext? _h
  split
  · exact this
  · rwa [queue_finish]

/-- The pool after every busy worker is done with its task, and what it did after its first wait. -/
def resume (work : α → Work ε) (p : Pool α) : Pool α × List ε :=
  ({ p with workers := p.workers.map fun w => if w.task?.isSome then .idle else w },
    p.running.flatMap fun task => (work task).afterWait)

/-- The work without its waits. -/
def unhindered (work : α → Work ε) (task : α) : Work ε :=
  (work task).effects.map .effect

/-- The pool when all waits are over and nothing more happens by itself, and the effects on the way
there. -/
def release (work : α → Work ε) (p : Pool α) : Pool α × List ε :=
  let (q, resumed) := p.resume work
  let (r, effects) := q.settle (unhindered work)
  (r, resumed ++ effects)

end AgentIntake.Pool
