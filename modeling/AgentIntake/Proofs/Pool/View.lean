import AgentIntake.Pool.Schedule
import AgentIntake.Proofs.Pool.History

/-!
# Pools whose tasks are seen differently

A pool does not look at its tasks, so what happens to it does not depend on what they are.
`Pool.map` shows every task of a pool through a function, and each operation does the same before
and after; so do eager workers, who are nothing but operations in a certain order (`settle_map`).

The use of it is to number tasks: a history works on a pool of tickets, the program on a pool of
tasks, and the second is the first seen without the numbers.
-/

namespace AgentIntake

variable {α β ε : Type}

/-! ## 1.  Operations -/

/-- The worker with its task seen through `f`. -/
def Worker.map (f : α → β) : Worker α → Worker β
  | idle => .idle
  | busy task => .busy (f task)
  | gone => .gone

namespace Pool

/-- The pool with its tasks seen through `f`. -/
def map (f : α → β) (p : Pool α) : Pool β :=
  ⟨p.name, p.capacity, p.queue.map f, p.workers.map (Worker.map f), p.isClosed⟩

variable (f : α → β)

theorem submit_map (p : Pool α) (task : α) :
    (p.map f).submit (f task) = (p.submit task).map (map f) := by
  unfold submit
  by_cases hc : p.isClosed = true
  · rw [if_pos hc, if_pos (show (p.map f).isClosed = true from hc)]
    rfl
  · rw [if_neg hc, if_neg (show ¬(p.map f).isClosed = true from hc)]
    have hq : (p.map f).queue.length = p.queue.length := List.length_map _
    rw [hq]
    show (if p.capacity ≤ p.queue.length then _ else _) = _
    split
    · rfl
    · show Except.ok _ = Except.ok _
      simp [map]

/-- A submission to a pool and to its history have the same answer. -/
theorem History.submit_cases (h : History α) (task : α) :
    (∃ pool, (h.pool.map Prod.fst).submit task = .ok (pool.map Prod.fst) ∧
        h.submit task =
          { h with
            pool := pool
            submitted := h.submitted ++ [task]
            accepted := h.accepted ++ [(task, h.submitted.length)] }) ∨
      ∃ e, (h.pool.map Prod.fst).submit task = .error e ∧
        h.submit task =
          { h with
            submitted := h.submitted ++ [task]
            refused := h.refused ++ [((task, h.submitted.length), e)] } := by
  have hsub := submit_map Prod.fst h.pool (task, h.submitted.length)
  unfold History.submit
  dsimp only at hsub ⊢
  rw [hsub]
  cases h.pool.submit (task, h.submitted.length) with
  | ok pool => exact .inl ⟨pool, rfl, rfl⟩
  | error e => exact .inr ⟨e, rfl, rfl⟩

theorem take?_map (p : Pool α) (worker : Nat) :
    (p.map f).take? worker = (p.take? worker).map fun t => (f t.1, t.2.map f) := by
  unfold take?
  have hw : (p.map f).workers[worker]? = p.workers[worker]?.map (Worker.map f) :=
    List.getElem?_map ..
  rw [hw]
  rcases p.workers[worker]? with _ | (_ | task | _) <;> try rfl
  cases hq : p.queue with
  | nil => simp [map, hq, Worker.map]
  | cons task queue => simp [map, hq, Worker.map, List.map_set]

theorem finish?_map (p : Pool α) (worker : Nat) :
    (p.map f).finish? worker = (p.finish? worker).map fun t => (f t.1, t.2.map f) := by
  unfold finish?
  have hw : (p.map f).workers[worker]? = p.workers[worker]?.map (Worker.map f) :=
    List.getElem?_map ..
  rw [hw]
  rcases p.workers[worker]? with _ | (_ | task | _) <;> try rfl
  simp [map, Worker.map, List.map_set]

theorem leave?_map (p : Pool α) (worker : Nat) :
    (p.map f).leave? worker = (p.leave? worker).map (map f) := by
  unfold leave?
  have hw : (p.map f).workers[worker]? = p.workers[worker]?.map (Worker.map f) :=
    List.getElem?_map ..
  rw [hw]
  rcases p.workers[worker]? with _ | (_ | task | _) <;> try rfl
  cases hq : p.queue with
  | nil =>
    simp only [Option.map_some, Worker.map, map, hq, List.map_nil]
    cases p.isClosed <;> simp [map, Worker.map, List.map_set]
  | cons task queue => simp [map, hq, Worker.map]

theorem live_map (p : Pool α) : (p.map f).live = p.live := by
  rw [live, live, map, List.countP_map]
  refine congrArg (List.countP · p.workers) (funext fun worker => ?_)
  cases worker <;> rfl

/-! ## 2.  Eager workers -/

/-- A worker that takes the next task was idle. -/
theorem take?_of_takeNext? {p q : Pool α} {worker : Nat} {task : α}
    (h : p.takeNext? = some (worker, task, q)) : p.take? worker = some (task, q) := by
  unfold takeNext? at h
  split at h
  · cases h
  · obtain ⟨⟨taken, rest⟩, ht, hr⟩ := Option.map_eq_some_iff.1 h
    cases hr
    exact ht

theorem settle_of_none {p : Pool α} (h : p.takeNext? = none) (work : α → Work ε) :
    p.settle work = (p.dismiss, []) := by
  unfold settle
  split
  · rfl
  · rename_i hs
    rw [h] at hs
    cases hs

theorem settle_of_some {p q : Pool α} {worker : Nat} {task : α}
    (h : p.takeNext? = some (worker, task, q)) (work : α → Work ε) :
    p.settle work =
      (((if (work task).hasWait then q else q.finish worker).settle work).1,
        (work task).beforeWait ++
          ((if (work task).hasWait then q else q.finish worker).settle work).2) := by
  conv_lhs => unfold settle
  split
  · rename_i hs
    rw [h] at hs
    cases hs
  · rename_i hs
    rw [h] at hs
    cases hs
    rfl

/-- The dismissal of idle workers is over, or one of them leaves and it goes on. -/
theorem dismiss_cases (p : Pool α) :
    p.dismiss = p ∨ ∃ worker q, p.leave? worker = some q ∧ q.dismiss = p.dismiss ∧
      q.workers.countP Worker.isIdle < p.workers.countP Worker.isIdle := by
  by_cases hc : p.isClosed ∧ p.queue.isEmpty
  · by_cases hi : ∃ v ∈ p.workers, v.isIdle = true
    · obtain ⟨v, hv, hi⟩ := hi
      cases v with
      | busy | gone => cases hi
      | idle =>
        obtain ⟨before, after, hw⟩ := List.append_of_mem hv
        refine .inr ⟨_, _, leave?_of_idle hw (List.isEmpty_iff.1 hc.2) hc.1, ?_, ?_⟩
        · rw [dismiss, if_pos hc, dismiss, if_pos hc, hw]
          simp [Worker.isIdle]
        · rw [hw, List.countP_append, List.countP_append,
            List.countP_cons_of_neg Bool.false_ne_true, List.countP_cons_of_pos rfl]
          exact Nat.add_lt_add_left (Nat.lt_succ_self _) _
    · refine .inl ?_
      have hm : p.workers.map (fun v => if v.isIdle then .gone else v) = p.workers :=
        (List.map_congr_left fun v hv => if_neg fun h => hi ⟨v, hv, h⟩).trans (List.map_id _)
      rw [dismiss, if_pos hc, hm]
  · exact .inl (if_neg hc)

/-- What is done is done for a task. -/
theorem exists_of_mem_settle {work : α → Work ε} {p : Pool α} {e : ε} (h : e ∈ (p.settle work).2) :
    ∃ task, e ∈ (work task).effects := by
  fun_induction settle work p with
  | case1 => cases h
  | case2 p worker task q hn next r effects he ih =>
    rcases List.mem_append.1 h with hm | hm
    · refine ⟨task, ?_⟩
      rw [← Work.beforeWait_append_afterWait]
      exact List.mem_append_left _ hm
    · rw [he] at ih
      exact ih hm

theorem takeNext?_map (p : Pool α) :
    (p.map f).takeNext? = p.takeNext?.map fun t => (t.1, f t.2.1, t.2.2.map f) := by
  have hi : (p.map f).idle? = p.idle? := by
    rw [idle?, idle?, map, List.findIdx?_map]
    refine congrArg (List.findIdx? · p.workers) (funext fun worker => ?_)
    cases worker <;> rfl
  rw [takeNext?, takeNext?, hi]
  cases p.idle? with
  | none => rfl
  | some worker =>
    dsimp only
    rw [take?_map, Option.map_map, Option.map_map]
    rfl

theorem finish_map (p : Pool α) (worker : Nat) :
    (p.map f).finish worker = (p.finish worker).map f := by
  rw [finish, finish, finish?_map]
  cases p.finish? worker <;> rfl

theorem dismiss_map (p : Pool α) : (p.map f).dismiss = p.dismiss.map f := by
  have hq : (p.map f).queue.isEmpty = p.queue.isEmpty := List.isEmpty_map ..
  unfold dismiss
  rw [hq]
  by_cases h : p.isClosed ∧ p.queue.isEmpty
  · rw [if_pos h, if_pos (show (p.map f).isClosed ∧ p.queue.isEmpty from h)]
    show Pool.mk _ _ _ _ _ = Pool.mk _ _ _ _ _
    rw [map, List.map_map, List.map_map]
    refine congrArg (Pool.mk _ _ _ · _) (List.map_congr_left fun worker _ => ?_)
    cases worker <;> rfl
  · rw [if_neg h, if_neg (show ¬((p.map f).isClosed ∧ p.queue.isEmpty) from h)]

/-- **Eager workers do not look at their tasks either.** -/
theorem settle_map (work : β → Work ε) (p : Pool α) :
    (p.map f).settle work =
      ((p.settle fun task => work (f task)).1.map f, (p.settle fun task => work (f task)).2) := by
  generalize hg : (fun task => work (f task)) = g
  fun_induction settle g p with
  | case1 p h =>
    rw [settle_of_none (by rw [takeNext?_map, h]; rfl), dismiss_map]
  | case2 p worker task q h next r effects he ih =>
    have hn : (p.map f).takeNext? = some (worker, f task, q.map f) := by
      rw [takeNext?_map, h]
      rfl
    have hnext : (if (work (f task)).hasWait then q.map f else (q.map f).finish worker) =
        next.map f := by
      subst hg
      rw [finish_map]
      split <;> simp_all [next]
    rw [settle_of_some hn, hnext, ih, he]
    subst hg
    rfl

end Pool

end AgentIntake
