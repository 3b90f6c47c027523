import AgentIntake.Proofs.Pool.View
import AgentIntake.Work

/-!
# How far workers are

A pool says which worker runs which task, not how far the worker is with it.  A `Bench` knows what
each worker has still to do, and what was seen so far: which tasks were handed in and which of them
refused, which task each worker took, and everything that it did, in order.

A pool and its bench together are a machine of their own.  What happens to it is a `Deed`, and a
`Trade` says what a task is to be done and what follows when one is refused.

## Tasks are only shown to their trade

Neither pool nor bench looks at a task.  So the machine runs the same when tasks and effects are
seen differently, if the trade does (`Trade.next?_map`).
-/

namespace AgentIntake.Pool

variable {σ α β ε δ : Type}

/-! ## 1.  Benches -/

/-- Something that is seen of a pool: a task was handed in, with what followed from its being
refused, if it was; a worker took a task, or did something for it. -/
inductive Sight (α ε : Type) where
  | handed (task : α) (refusal : List ε)
  | took (worker : Nat) (task : α)
  | did (worker : Nat) (effect : ε)

/-- The task that was handed in, and what followed from its being refused. -/
def Sight.handed? : Sight α ε → Option (α × List ε)
  | handed task refusal => some (task, refusal)
  | took .. | did .. => none

/-- What a worker did. -/
def Sight.done? : Sight α ε → Option ε
  | did _ effect => some effect
  | handed .. | took .. => none

/-- What each worker of a pool has still to do, and what was seen, in order. -/
structure Bench (α ε : Type) where
  ahead : Nat → Work ε
  seen : List (Sight α ε)

namespace Bench

/-- The bench of a new pool. -/
def clear : Bench α ε :=
  ⟨fun _ => [], []⟩

/-- The tasks that were handed in, with what followed from their being refused. -/
def handed (b : Bench α ε) : List (α × List ε) :=
  b.seen.filterMap Sight.handed?

/-- What the workers did, in order. -/
def done (b : Bench α ε) : List ε :=
  b.seen.filterMap Sight.done?

/-- Something is seen. -/
def see (b : Bench α ε) (sight : Sight α ε) : Bench α ε :=
  { b with seen := b.seen ++ [sight] }

/-- A worker has this still to do. -/
def lay (b : Bench α ε) (worker : Nat) (work : Work ε) : Bench α ε :=
  { b with ahead := fun k => if k = worker then work else b.ahead k }

/-- A worker gets on by one step. -/
def act? (b : Bench α ε) (worker : Nat) : Option (Bench α ε) :=
  match b.ahead worker with
  | [] => none
  | .effect e :: rest => some ((b.lay worker rest).see (.did worker e))
  | .wait :: rest => some (b.lay worker rest)

end Bench

/-! ## 2.  Deeds -/

/-- Something that a worker does: it takes the first task of the queue and finds some tools, gets on
by one step, is done with its task, or leaves. -/
inductive Chore (σ : Type) where
  | take (worker : Nat) (tools : σ)
  | act (worker : Nat)
  | finish (worker : Nat)
  | leave (worker : Nat)

/-- A pool and its bench after a worker did something, if it can. -/
def chore? (work : σ → α → Work ε) (p : Pool α) (b : Bench α ε) :
    Chore σ → Option (Pool α × Bench α ε)
  | .take worker tools =>
    (p.take? worker).map fun (task, q) =>
      (q, (b.lay worker (work tools task)).see (.took worker task))
  | .act worker => (b.act? worker).map (p, ·)
  | .finish worker =>
    if (b.ahead worker).isEmpty then (p.finish? worker).map fun (_, q) => (q, b) else none
  | .leave worker => (p.leave? worker).map (·, b)

/-- Something that happens to a pool. -/
inductive Deed (σ α : Type) where
  | hand (task : α)
  | chore (chore : Chore σ)

/-- What a task leads to: what is to be done for it, with some tools, and what follows when it is
refused. -/
structure Trade (σ α ε : Type) where
  work : σ → α → Work ε
  refuse : α → PoolError → List ε

/-- A pool and its bench after a deed, if it can happen. -/
def Trade.next? (trade : Trade σ α ε) :
    Pool α × Bench α ε → Deed σ α → Option (Pool α × Bench α ε)
  | (p, b), .hand task =>
    match p.submit task with
    | .ok q => some (q, b.see (.handed task []))
    | .error e => some (p, b.see (.handed task (trade.refuse task e)))
  | (p, b), .chore chore => p.chore? trade.work b chore

/-! ## 3.  Tasks seen differently -/

/-- What is seen, with tasks and effects seen differently. -/
def Sight.map (f : α → β) (g : ε → δ) : Sight α ε → Sight β δ
  | handed task refusal => .handed (f task) (refusal.map g)
  | took worker task => .took worker (f task)
  | did worker effect => .did worker (g effect)

/-- The bench with tasks and effects seen differently. -/
def Bench.map (f : α → β) (g : ε → δ) (b : Bench α ε) : Bench β δ :=
  ⟨fun worker => (b.ahead worker).map g, b.seen.map (Sight.map f g)⟩

/-- The deed with its task seen differently. -/
def Deed.map (f : α → β) : Deed σ α → Deed σ β
  | hand task => .hand (f task)
  | chore c => .chore c

section

variable (f : α → β) (g : ε → δ)

@[simp] theorem Bench.map_see (b : Bench α ε) (sight : Sight α ε) :
    (b.see sight).map f g = (b.map f g).see (sight.map f g) := by
  simp [see, map]

@[simp] theorem Bench.map_lay (b : Bench α ε) (worker : Nat) (work : Work ε) :
    (b.lay worker work).map f g = (b.map f g).lay worker (work.map g) := by
  simp only [lay, map, Bench.mk.injEq, and_true]
  funext k
  split <;> rfl

theorem Bench.handed_map (b : Bench α ε) :
    (b.map f g).handed = b.handed.map fun (task, refusal) => (f task, refusal.map g) := by
  rw [handed, handed, map, List.filterMap_map, List.map_filterMap]
  congr 1
  funext sight
  cases sight <;> rfl

theorem Bench.done_map (b : Bench α ε) : (b.map f g).done = b.done.map g := by
  rw [done, done, map, List.filterMap_map, List.map_filterMap]
  congr 1
  funext sight
  cases sight <;> rfl

theorem Bench.map_act? (b : Bench α ε) (worker : Nat) :
    (b.map f g).act? worker = (b.act? worker).map (Bench.map f g) := by
  have ha : (b.map f g).ahead worker = (b.ahead worker).map g := rfl
  unfold act?
  rw [ha]
  rcases b.ahead worker with _ | ⟨e | _, rest⟩
  · rfl
  · show some _ = some _
    simp [Sight.map]
    rfl
  · show some _ = some _
    simp
    rfl

/-- A worker does the same when tasks are seen differently. -/
theorem chore?_map {work : σ → α → Work ε} {work' : σ → β → Work δ}
    (hw : ∀ tools task, work' tools (f task) = (work tools task).map g) (p : Pool α)
    (b : Bench α ε) (chore : Chore σ) :
    (p.map f).chore? work' (b.map f g) chore =
      (p.chore? work b chore).map fun (q, c) => (q.map f, c.map f g) := by
  cases chore with
  | take worker tools =>
    rw [chore?, take?_map, chore?, Option.map_map, Option.map_map]
    refine congrFun (congrArg Option.map (funext fun t => ?_)) _
    simp [hw, Sight.map]
  | act worker =>
    rw [chore?, Bench.map_act?, chore?, Option.map_map, Option.map_map]
    rfl
  | finish worker =>
    have he : ((b.map f g).ahead worker).isEmpty = (b.ahead worker).isEmpty := List.isEmpty_map
    rw [chore?, chore?, he, finish?_map]
    split
    · rw [Option.map_map, Option.map_map]
      rfl
    · rfl
  | leave worker =>
    rw [chore?, chore?, leave?_map, Option.map_map, Option.map_map]
    rfl

/-- **A pool runs the same when tasks are seen differently**, if its trade does. -/
theorem Trade.next?_map {trade : Trade σ α ε} {trade' : Trade σ β δ}
    (hw : ∀ tools task, trade'.work tools (f task) = (trade.work tools task).map g)
    (hr : ∀ task e, trade'.refuse (f task) e = (trade.refuse task e).map g)
    (d : Pool α × Bench α ε) (deed : Deed σ α) :
    trade'.next? (d.1.map f, d.2.map f g) (deed.map f) =
      (trade.next? d deed).map fun (q, c) => (q.map f, c.map f g) := by
  obtain ⟨p, b⟩ := d
  cases deed with
  | hand task =>
    show (match (p.map f).submit (f task) with | .ok _ => _ | .error _ => _) = _
    rw [submit_map, Trade.next?]
    cases p.submit task with
    | ok q => simp [Except.map, Sight.map]
    | error e => simp [Except.map, Sight.map, hr]
  | chore c => exact chore?_map f g hw p b c

end

end AgentIntake.Pool
