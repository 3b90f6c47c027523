import AgentIntake.Pool.Basic
import Mathlib.Data.List.Sigma

/-!
# Histories of a pool

A pool only knows the tasks that are queued or run.  A `History` also remembers what was submitted,
what was accepted or refused, what was started and what was finished, and each task goes under the
number of its submission: two tasks may be the same and are told apart all the same.

A `Move` is what submitters, workers and whoever closes the pool do, one at a time and in any order.
A submission always happens, and the pool accepts or refuses it; the other moves happen when the
pool allows them.  A task that panics ends like one that returns.

`Sound` is the invariant, and `Sound.run?` says that it holds of every history.  What accounts for
the tasks are its two equations: those accepted are those started followed by the queue, and those
started are those that run together with those that finished.
-/

namespace AgentIntake

namespace Pool

variable {α : Type}

/-! ## 1.  What the operations do

Each lemma says all that follows from an operation having taken place, so that no later proof looks
into the operation again. -/

theorem exists_split_of_getElem? {l : List α} {i : Nat} {a : α} (h : l[i]? = some a) :
    ∃ before after, before.length = i ∧ l = before ++ a :: after ∧
      ∀ b, l.set i b = before ++ b :: after := by
  obtain ⟨hi, ha⟩ := List.getElem?_eq_some_iff.1 h
  refine ⟨l.take i, l.drop (i + 1), List.length_take_of_le (Nat.le_of_lt hi), ?_, fun b => ?_⟩
  · rw [← ha, List.getElem_cons_drop, List.take_append_drop]
  · rw [List.set_eq_take_append_cons_drop, if_pos hi]

/-- A pool with workers and with room for tasks can be made. -/
theorem make?_eq (name : String) {threads capacity : Nat} (ht : 0 < threads) (hc : 0 < capacity) :
    (make? name threads capacity : Except PoolError (Pool α)) =
      .ok ⟨name, capacity, [], List.replicate threads .idle, false⟩ := by
  rw [make?, if_neg (Nat.ne_of_gt ht), if_neg (Nat.ne_of_gt hc)]

theorem submit_cases {p q : Pool α} {task : α} (h : p.submit task = .ok q) :
    p.isClosed = false ∧ p.queue.length < p.capacity ∧
      q = { p with queue := p.queue ++ [task] } := by
  unfold submit at h
  split at h
  · cases h
  · rename_i hc
    split at h
    · cases h
    · rename_i hq
      exact ⟨Bool.eq_false_iff.2 hc, Nat.lt_of_not_le hq, (Except.ok.inj h).symm⟩

theorem take?_cases {p q : Pool α} {worker : Nat} {task : α} (h : p.take? worker = some (task, q)) :
    ∃ before after queue, before.length = worker ∧ p.workers = before ++ .idle :: after ∧
      p.queue = task :: queue ∧
      q = { p with queue := queue, workers := before ++ .busy task :: after } := by
  unfold take? at h
  split at h
  · rename_i task queue hw hq
    obtain ⟨before, after, hl, hws, hset⟩ := exists_split_of_getElem? hw
    cases h
    exact ⟨before, after, queue, hl, hws, hq, by rw [hset]⟩
  · cases h

theorem finish?_cases {p q : Pool α} {worker : Nat} {task : α}
    (h : p.finish? worker = some (task, q)) :
    ∃ before after, before.length = worker ∧ p.workers = before ++ .busy task :: after ∧
      q = { p with workers := before ++ .idle :: after } := by
  unfold finish? at h
  split at h
  · rename_i task hw
    obtain ⟨before, after, hl, hws, hset⟩ := exists_split_of_getElem? hw
    cases h
    exact ⟨before, after, hl, hws, by rw [hset]⟩
  · cases h

theorem leave?_cases {p q : Pool α} {worker : Nat} (h : p.leave? worker = some q) :
    ∃ before after, before.length = worker ∧ p.workers = before ++ .idle :: after ∧ p.queue = [] ∧
      p.isClosed = true ∧ q = { p with workers := before ++ .gone :: after } := by
  unfold leave? at h
  split at h
  · rename_i hw hq
    obtain ⟨before, after, hl, hws, hset⟩ := exists_split_of_getElem? hw
    split at h
    · rename_i hc
      cases h
      exact ⟨before, after, hl, hws, hq, hc, by rw [hset]⟩
    · cases h
  · cases h

/-- A worker that waits takes the first task. -/
theorem take?_of_idle {p : Pool α} {before after : List (Worker α)} {task : α} {queue : List α}
    (hw : p.workers = before ++ .idle :: after) (hq : p.queue = task :: queue) :
    p.take? before.length =
      some (task, { p with queue := queue, workers := before ++ .busy task :: after }) := by
  have hi : p.workers[before.length]? = some .idle := by simp [hw]
  rw [take?, hi, hq]
  simp [hw]

/-- A worker that runs a task can be done with it. -/
theorem finish?_of_busy {p : Pool α} {before after : List (Worker α)} {task : α}
    (hw : p.workers = before ++ .busy task :: after) :
    p.finish? before.length = some (task, { p with workers := before ++ .idle :: after }) := by
  have hi : p.workers[before.length]? = some (.busy task) := by simp [hw]
  rw [finish?, hi]
  simp [hw]

/-- A worker that waits can leave when the pool is closed and nothing is queued. -/
theorem leave?_of_idle {p : Pool α} {before after : List (Worker α)}
    (hw : p.workers = before ++ .idle :: after) (hq : p.queue = []) (hc : p.isClosed = true) :
    p.leave? before.length = some { p with workers := before ++ .gone :: after } := by
  have hi : p.workers[before.length]? = some .idle := by simp [hw]
  rw [leave?, hi, hq]
  simp [hw, hc]

/-- What is run is run by a worker. -/
theorem exists_worker_of_running {p : Pool α} {task : α} (h : task ∈ p.running) :
    ∃ before after, p.workers = before ++ .busy task :: after := by
  obtain ⟨worker, hw, ht⟩ := List.mem_filterMap.1 h
  cases worker with
  | busy other =>
    cases ht
    exact List.append_of_mem hw
  | idle | gone => cases ht

/-- A task that starts is run beside those that are run already. -/
theorem running_busy_perm {before after : List (Worker α)} {worker : Worker α} {task : α}
    (h : worker.task? = none) :
    ((before ++ .busy task :: after).filterMap Worker.task?).Perm
      (task :: (before ++ worker :: after).filterMap Worker.task?) := by
  rw [List.filterMap_append, List.filterMap_append, List.filterMap_cons_none h,
    List.filterMap_cons_some (f := Worker.task?) (a := .busy task) rfl]
  exact List.perm_middle

theorem length_running_of_busy {p : Pool α} {before after : List (Worker α)} {task : α}
    (worker : Worker α) (hw : p.workers = before ++ .busy task :: after) (h : worker.task? = none) :
    p.running.length =
      ({ p with workers := before ++ worker :: after } : Pool α).running.length + 1 := by
  rw [running, hw]
  exact (running_busy_perm h).length_eq

/-! ## 2.  Histories -/

/-- A task and the number of its submission. -/
abbrev Ticket (α : Type) := α × Nat

/-- How a task ends. -/
inductive Ending where
  | returned
  | panicked (payload : PanicPayload)

/-- What is done to a pool or by its workers. -/
inductive Move (α : Type) where
  | submit (task : α)
  | take (worker : Nat)
  | finish (worker : Nat) (ending : Ending)
  | close
  | leave (worker : Nat)

/-- A pool with its past: the tasks submitted, accepted or not; those accepted, in the order of
their acceptance; those refused, and why; those started, in the order of their start; and those
finished, and how they ended. -/
structure History (α : Type) where
  pool : Pool (Ticket α)
  submitted : List α
  accepted : List (Ticket α)
  refused : List (Ticket α × PoolError)
  started : List (Ticket α)
  finished : List (Ticket α × Ending)

namespace History

/-- The beginning of a pool. -/
def start (p : Pool (Ticket α)) : History α :=
  ⟨p, [], [], [], [], []⟩

/-- A task is submitted. -/
def submit (h : History α) (task : α) : History α :=
  let ticket := (task, h.submitted.length)
  match h.pool.submit ticket with
  | .ok pool =>
    { h with
      pool := pool
      submitted := h.submitted ++ [task]
      accepted := h.accepted ++ [ticket] }
  | .error e =>
    { h with
      submitted := h.submitted ++ [task]
      refused := h.refused ++ [(ticket, e)] }

/-- The history after a move, if it can happen. -/
def next? (h : History α) : Move α → Option (History α)
  | .submit task => some (h.submit task)
  | .take worker =>
    (h.pool.take? worker).map fun (ticket, pool) =>
      { h with pool := pool, started := h.started ++ [ticket] }
  | .finish worker ending =>
    (h.pool.finish? worker).map fun (ticket, pool) =>
      { h with pool := pool, finished := h.finished ++ [(ticket, ending)] }
  | .close => some { h with pool := h.pool.close }
  | .leave worker => (h.pool.leave? worker).map fun pool => { h with pool := pool }

/-- The history after moves in order, if they can happen. -/
def run? (h : History α) : List (Move α) → Option (History α)
  | [] => some h
  | move :: moves =>
    match h.next? move with
    | none => none
    | some k => k.run? moves

/-! ## 3.  The invariant -/

/-- What holds of a pool and its past at every moment.

The capacity is the one given (`capacity_eq`).  There is a place for each worker (`length_workers`).
The queue keeps to the capacity (`length_queue_le`).  Each submission was accepted or refused, under
its own number (`numbered`).  The queue is first in, first out (`accepted_eq`).  What was started
runs or has finished (`started_perm`).  A worker leaves when nothing is left to do and nothing will
come (`gone`). -/
structure Sound (threads capacity : Nat) (h : History α) : Prop where
  capacity_eq : h.pool.capacity = capacity
  length_workers : h.pool.workers.length = threads
  length_queue_le : h.pool.queue.length ≤ capacity
  numbered : (h.accepted ++ h.refused.map (·.1)).Perm h.submitted.zipIdx
  accepted_eq : h.accepted = h.started ++ h.pool.queue
  started_perm : h.started.Perm (h.pool.running ++ h.finished.map (·.1))
  gone : .gone ∈ h.pool.workers → h.pool.isClosed = true ∧ h.pool.queue = []

/-- A pool as it is made: nothing is queued and every worker waits. -/
def fresh (name : String) (threads capacity : Nat) : Pool (Ticket α) :=
  ⟨name, capacity, [], List.replicate threads .idle, false⟩

theorem sound_start (name : String) (threads capacity : Nat) :
    Sound threads capacity (start (fresh name threads capacity) : History α) where
  capacity_eq := rfl
  length_workers := List.length_replicate
  length_queue_le := Nat.zero_le _
  numbered := .refl _
  accepted_eq := rfl
  started_perm := by
    have h : (List.replicate threads Worker.idle).filterMap (Worker.task? (α := Ticket α)) = [] :=
      List.filterMap_eq_nil_iff.2 fun w hw => by rw [(List.mem_replicate.1 hw).2]; rfl
    simp only [start, running, fresh, h, List.map_nil, List.append_nil]
    exact .refl _
  gone hg := by
    cases (List.mem_replicate.1 hg).2

variable {threads capacity : Nat} {h k : History α}

theorem Sound.submit (hs : Sound threads capacity h) (task : α) :
    Sound threads capacity (h.submit task) := by
  have hn := hs.numbered
  unfold History.submit
  dsimp only
  split
  · rename_i pool hp
    obtain ⟨hc, hq, rfl⟩ := submit_cases hp
    exact
      { hs with
        length_queue_le := by
          rw [List.length_append]
          exact hs.capacity_eq ▸ hq
        numbered := by
          rw [List.zipIdx_append, Nat.zero_add, List.append_assoc]
          exact (List.perm_append_comm_assoc _ _ _).trans
            ((List.perm_append_comm).trans (hn.append_right _))
        accepted_eq := by
          rw [hs.accepted_eq, List.append_assoc]
        gone := fun hg => by
          rw [(hs.gone hg).1] at hc
          cases hc }
  · exact
      { hs with
        numbered := by
          rw [List.zipIdx_append, Nat.zero_add, List.map_append, ← List.append_assoc]
          exact hn.append_right _ }

theorem Sound.next? (hs : Sound threads capacity h) {move : Move α} (hk : h.next? move = some k) :
    Sound threads capacity k := by
  cases move with
  | submit task =>
    cases hk
    exact hs.submit task
  | take worker =>
    obtain ⟨⟨ticket, pool⟩, ht, rfl⟩ := Option.map_eq_some_iff.1 hk
    obtain ⟨before, after, queue, -, hw, hq, rfl⟩ := take?_cases ht
    have hrun := hs.started_perm
    have hlen := hs.length_workers
    have hgone := hs.gone
    have hle := hs.length_queue_le
    rw [running, hw] at hrun
    rw [hw] at hlen hgone
    rw [hq] at hle
    exact
      { hs with
        length_workers := by simpa using hlen
        length_queue_le := Nat.le_of_succ_le hle
        accepted_eq := by rw [hs.accepted_eq, hq, List.append_assoc]; rfl
        started_perm := by
          refine (List.perm_append_singleton _ _).trans ((hrun.cons ticket).trans ?_)
          exact (running_busy_perm rfl).symm.append_right _
        gone := fun hg => by
          have hg' : Worker.gone ∈ before ++ .idle :: after := by simpa using hg
          rw [(hgone hg').2] at hq
          cases hq }
  | finish worker ending =>
    obtain ⟨⟨ticket, pool⟩, ht, rfl⟩ := Option.map_eq_some_iff.1 hk
    obtain ⟨before, after, -, hw, rfl⟩ := finish?_cases ht
    have hrun := hs.started_perm
    have hlen := hs.length_workers
    have hgone := hs.gone
    rw [running, hw] at hrun
    rw [hw] at hlen hgone
    exact
      { hs with
        length_workers := by simpa using hlen
        started_perm := by
          refine (hrun.trans ((@running_busy_perm _ _ _ .idle _ rfl).append_right _)).trans ?_
          rw [List.map_append, ← List.append_assoc]
          exact (List.perm_append_singleton _ _).symm
        gone := fun hg => hgone (by simpa using hg) }
  | close =>
    cases hk
    exact { hs with gone := fun hg => ⟨rfl, (hs.gone hg).2⟩ }
  | leave worker =>
    obtain ⟨pool, ht, rfl⟩ := Option.map_eq_some_iff.1 hk
    obtain ⟨before, after, -, hw, hq, hc, rfl⟩ := leave?_cases ht
    have hrun := hs.started_perm
    have hlen := hs.length_workers
    rw [running, hw] at hrun
    rw [hw] at hlen
    exact
      { hs with
        length_workers := by simpa using hlen
        started_perm := by
          refine hrun.trans ?_
          simp only [running, List.filterMap_append, List.filterMap_cons, Worker.task?]
          exact .refl _
        gone := fun _ => ⟨hc, hq⟩ }

/-- **The invariant holds of every history.** -/
theorem Sound.run? (hs : Sound threads capacity h) {moves : List (Move α)}
    (hk : h.run? moves = some k) : Sound threads capacity k := by
  induction moves generalizing h with
  | nil =>
    cases hk
    exact hs
  | cons move moves ih =>
    rw [History.run?] at hk
    split at hk
    · cases hk
    · rename_i g hg
      exact ih (hs.next? hg) hk

/-! ## 4.  Later histories -/

/-- A submission starts nothing and finishes nothing. -/
theorem past_submit (h : History α) (task : α) :
    (h.submit task).submitted = h.submitted ++ [task] ∧ (h.submit task).started = h.started ∧
      (h.submit task).finished = h.finished := by
  unfold submit
  dsimp only
  split <;> exact ⟨rfl, rfl, rfl⟩

/-- The second history is a later one: it forgets no submission and no answer, and a closed pool has
stayed closed and accepted nothing more. -/
structure Grows (h k : History α) : Prop where
  submitted : h.submitted <+: k.submitted
  accepted : h.accepted <+: k.accepted
  refused : h.refused <+: k.refused
  closed : h.pool.isClosed = true → k.pool.isClosed = true ∧ k.accepted = h.accepted

theorem Grows.refl (h : History α) : Grows h h :=
  ⟨List.prefix_rfl, List.prefix_rfl, List.prefix_rfl, fun hc => ⟨hc, rfl⟩⟩

theorem Grows.trans {g : History α} (hg : Grows g h) (hk : Grows h k) : Grows g k where
  submitted := hg.submitted.trans hk.submitted
  accepted := hg.accepted.trans hk.accepted
  refused := hg.refused.trans hk.refused
  closed hc :=
    have ⟨hh, ha⟩ := hg.closed hc
    have ⟨hkc, hka⟩ := hk.closed hh
    ⟨hkc, hka.trans ha⟩

theorem grows_submit (h : History α) (task : α) : Grows h (h.submit task) := by
  unfold submit
  dsimp only
  split
  · rename_i pool hp
    obtain ⟨hc, -, rfl⟩ := submit_cases hp
    exact ⟨List.prefix_append _ _, List.prefix_append _ _, List.prefix_rfl,
      fun h => absurd (hc.symm.trans h) Bool.false_ne_true⟩
  · exact ⟨List.prefix_append _ _, List.prefix_rfl, List.prefix_append _ _, fun hc => ⟨hc, rfl⟩⟩

theorem grows_close (h : History α) : Grows h { h with pool := h.pool.close } :=
  ⟨List.prefix_rfl, List.prefix_rfl, List.prefix_rfl, fun _ => ⟨rfl, rfl⟩⟩

/-- **No move takes anything back.** -/
theorem grows_next? {move : Move α} (hk : h.next? move = some k) : Grows h k := by
  cases move with
  | submit task =>
    cases hk
    exact grows_submit h task
  | take worker =>
    obtain ⟨⟨ticket, pool⟩, ht, rfl⟩ := Option.map_eq_some_iff.1 hk
    obtain ⟨before, after, queue, -, -, -, rfl⟩ := take?_cases ht
    exact ⟨List.prefix_rfl, List.prefix_rfl, List.prefix_rfl, fun hc => ⟨hc, rfl⟩⟩
  | finish worker ending =>
    obtain ⟨⟨ticket, pool⟩, ht, rfl⟩ := Option.map_eq_some_iff.1 hk
    obtain ⟨before, after, -, -, rfl⟩ := finish?_cases ht
    exact ⟨List.prefix_rfl, List.prefix_rfl, List.prefix_rfl, fun hc => ⟨hc, rfl⟩⟩
  | close =>
    cases hk
    exact grows_close h
  | leave worker =>
    obtain ⟨pool, ht, rfl⟩ := Option.map_eq_some_iff.1 hk
    obtain ⟨before, after, -, -, -, -, rfl⟩ := leave?_cases ht
    exact ⟨List.prefix_rfl, List.prefix_rfl, List.prefix_rfl, fun hc => ⟨hc, rfl⟩⟩

end History

end Pool

end AgentIntake
