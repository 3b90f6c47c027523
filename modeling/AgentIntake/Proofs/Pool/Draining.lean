import AgentIntake.Pool.Wait
import AgentIntake.Proofs.Pool.Admission

/-!
# Closing and draining

A closed pool stays closed, and its workers leave one after the other once nothing is queued.  How
many are left is kept in a counter, from which a worker that leaves takes one (`counter`); the
counter stops at zero, but no worker ever finds it there (`counted_next?`), so it always says how
many workers have not left.

## Why draining comes to an end

A task that is queued costs two steps of a worker, one to take it and one to be done with it; a task
that is run costs one, and so does a worker, who has to leave.  What they cost together (`effort`)
goes down by one with each step of a worker, and in a closed pool nothing else changes it
(`live_next?`).  While any worker is left, one of them can get on, unless the tasks that are run are
stuck (`Sound.canStep`).  So the workers of a closed pool without stuck tasks are gone after exactly
as many steps, in whatever order they take them.

Whoever waits for that only looks (`Observed`), and takes nothing from the pool.
-/

namespace AgentIntake

namespace Pool

variable {α : Type}

/-! ## 1.  The counter of workers -/

/-- A worker leaves. -/
def Move.isLeave : Move α → Bool
  | leave _ => true
  | submit _ | take _ | finish .. | close => false

/-- It is a worker who moves. -/
def Move.isWorkers : Move α → Bool
  | take _ | finish .. | leave _ => true
  | submit _ | close => false

/-- The counter after a move: a worker that leaves takes one from it, if there is one. -/
def Move.counted (count : Nat) (move : Move α) : Nat :=
  if move.isLeave then count - 1 else count

/-- The counter after moves, from what it was when all workers had been counted in. -/
def counter (threads : Nat) (moves : List (Move α)) : Nat :=
  moves.foldl Move.counted threads

/-- What the workers of a pool have still to do: to take a task and to be done with it, or only the
second; and to leave. -/
def effort (p : Pool α) : Nat :=
  2 * p.queue.length + p.running.length + p.live

/-- Of two crews that differ in one worker the counts differ by what is counted of the two. -/
theorem countP_replace {β : Type} (f : β → Bool) (before after : List β) (v w : β) :
    (before ++ w :: after).countP f + (if f v then 1 else 0) =
      (before ++ v :: after).countP f + if f w then 1 else 0 := by
  rw [List.countP_append, List.countP_append, List.countP_cons, List.countP_cons]
  omega

/-- What a pool has of workers and of tasks that are run, when one worker has become another. -/
theorem live_replace {p q : Pool α} {before after : List (Worker α)} {v w : Worker α}
    (hp : p.workers = before ++ v :: after) (hq : q.workers = before ++ w :: after) :
    q.live + (if v.isLive then 1 else 0) = p.live + (if w.isLive then 1 else 0) ∧
      q.running.length + (if v.task?.isSome then 1 else 0) =
        p.running.length + if w.task?.isSome then 1 else 0 := by
  rw [live, live, running, running, List.length_filterMap_eq_countP,
    List.length_filterMap_eq_countP, hp, hq]
  exact ⟨countP_replace _ _ _ _ _, countP_replace _ _ _ _ _⟩

namespace History

variable {threads capacity : Nat} {h k l : History α}

theorem run?_nil (h : History α) : h.run? [] = some h :=
  rfl

theorem run?_singleton (h : History α) (move : Move α) : h.run? [move] = h.next? move := by
  rw [run?]
  cases h.next? move <;> rfl

theorem run?_append (h : History α) (first second : List (Move α)) :
    h.run? (first ++ second) = (h.run? first).bind (·.run? second) := by
  induction first generalizing h with
  | nil => rfl
  | cons move moves ih =>
    rw [List.cons_append, run?, run?]
    cases h.next? move with
    | none => rfl
    | some g => exact ih g

theorem grows_run? {moves : List (Move α)} (hk : h.run? moves = some k) : Grows h k := by
  induction moves generalizing h with
  | nil =>
    cases hk
    exact .refl _
  | cons move moves ih =>
    obtain ⟨g, hg, hk⟩ := run?_cons hk
    exact (grows_next? hg).trans (ih hk)

/-- **What a move does to the number of workers and to what they have still to do.**  A worker that
leaves was there.  A worker's step is one of those to be done; a submission adds two if it is
accepted, and otherwise nothing changes. -/
theorem live_next? {move : Move α} (hk : h.next? move = some k) :
    k.pool.live + (if move.isLeave then 1 else 0) = h.pool.live ∧
      (move.isWorkers = true → k.pool.effort + 1 = h.pool.effort) ∧
        (move.isWorkers = false → h.pool.isClosed = true → k.pool.effort = h.pool.effort) := by
  have hidle : ∀ {P : Prop}, false = true → P := fun h => absurd h Bool.false_ne_true
  have hworks : ∀ {P : Prop}, true = false → P := fun h => absurd h.symm Bool.false_ne_true
  cases move with
  | submit task =>
    cases hk
    rcases h.submit_eq task with ⟨pool, hp, he⟩ | ⟨e, -, he⟩
    · obtain ⟨hc, -, rfl⟩ := submit_cases hp
      rw [he]
      refine ⟨rfl, hidle, fun _ hclosed => ?_⟩
      rw [hc] at hclosed
      cases hclosed
    · rw [he]
      exact ⟨rfl, hidle, fun _ _ => rfl⟩
  | take worker =>
    obtain ⟨⟨ticket, pool⟩, ht, rfl⟩ := Option.map_eq_some_iff.1 hk
    obtain ⟨before, after, queue, -, hw, hq, hpool⟩ := take?_cases ht
    have hqueue : pool.queue.length + 1 = h.pool.queue.length := by rw [hpool, hq, List.length_cons]
    have hcount := live_replace hw (congrArg workers hpool)
    simp only [Worker.isLive, Worker.task?, Option.isSome_some, Option.isSome_none,
      Bool.false_eq_true, reduceIte] at hcount
    refine ⟨?_, fun _ => ?_, hworks⟩
    · exact Nat.succ_inj.1 hcount.1
    · simp only [effort]
      omega
  | finish worker ending =>
    obtain ⟨⟨ticket, pool⟩, ht, rfl⟩ := Option.map_eq_some_iff.1 hk
    obtain ⟨before, after, -, hw, hpool⟩ := finish?_cases ht
    have hqueue : pool.queue.length = h.pool.queue.length := by rw [hpool]
    have hcount := live_replace hw (congrArg workers hpool)
    simp only [Worker.isLive, Worker.task?, Option.isSome_some, Option.isSome_none,
      Bool.false_eq_true, reduceIte] at hcount
    refine ⟨?_, fun _ => ?_, hworks⟩
    · exact Nat.succ_inj.1 hcount.1
    · simp only [effort]
      omega
  | close =>
    cases hk
    exact ⟨rfl, hidle, fun _ _ => rfl⟩
  | leave worker =>
    obtain ⟨pool, ht, rfl⟩ := Option.map_eq_some_iff.1 hk
    obtain ⟨before, after, -, hw, -, -, hpool⟩ := leave?_cases ht
    have hqueue : pool.queue.length = h.pool.queue.length := by rw [hpool]
    have hcount := live_replace hw (congrArg workers hpool)
    simp only [Worker.isLive, Worker.task?, Option.isSome_none, Bool.false_eq_true, reduceIte]
      at hcount
    refine ⟨?_, fun _ => ?_, hworks⟩
    · exact hcount.1
    · simp only [effort]
      omega

/-- A worker that leaves finds itself counted, so the counter never stops short. -/
theorem counted_next? {move : Move α} (hk : h.next? move = some k) :
    move.counted h.pool.live = k.pool.live ∧ (move.isLeave = true → 0 < h.pool.live) := by
  have hlive := (live_next? hk).1
  rw [Move.counted]
  split at hlive
  · rename_i hleave
    rw [if_pos hleave]
    omega
  · rename_i hleave
    rw [if_neg hleave]
    exact ⟨hlive.symm, fun h => absurd h hleave⟩

/-- **The counter says how many workers have not left.** -/
theorem counter_run? {moves : List (Move α)} (hk : h.run? moves = some k) :
    counter h.pool.live moves = k.pool.live ∧
      k.pool.live + moves.countP Move.isLeave = h.pool.live := by
  induction moves generalizing h with
  | nil =>
    cases hk
    exact ⟨rfl, rfl⟩
  | cons move moves ih =>
    obtain ⟨g, hg, hk⟩ := run?_cons hk
    obtain ⟨hcounter, hleft⟩ := ih hk
    refine ⟨?_, ?_⟩
    · rw [counter, List.foldl_cons, (counted_next? hg).1]
      exact hcounter
    · rw [List.countP_cons, ← Nat.add_assoc, hleft]
      exact (live_next? hg).1

/-- A pool that could be made has workers and room for tasks. -/
theorem fresh_of_make? {name : String} {threads capacity : Nat} {p : Pool (Ticket α)}
    (h : make? name threads capacity = .ok p) :
    0 < threads ∧ 0 < capacity ∧ p = fresh name threads capacity := by
  have ht : threads ≠ 0 := by
    rintro rfl
    cases h
  have hc : capacity ≠ 0 := by
    rintro rfl
    rw [make?, if_neg ht] at h
    cases h
  have ht := Nat.pos_of_ne_zero ht
  have hc := Nat.pos_of_ne_zero hc
  rw [make?_eq_fresh name ht hc] at h
  exact ⟨ht, hc, (Except.ok.inj h).symm⟩

/-- A pool is made with all its workers. -/
theorem live_fresh (name : String) (threads capacity : Nat) :
    (fresh name threads capacity : Pool (Ticket α)).live = threads := by
  rw [live, fresh, List.countP_replicate]
  exact if_pos rfl

/-- While a pool is open none of its workers has left. -/
theorem Sound.live_eq_threads (hs : Sound threads capacity h) (hopen : h.pool.isClosed = false) :
    h.pool.live = threads := by
  rw [live, ← hs.length_workers, List.countP_eq_length]
  intro worker hm
  cases worker with
  | idle | busy => rfl
  | gone =>
    rw [(hs.gone hm).1] at hopen
    cases hopen

/-! ## 2.  Draining -/

/-- A worker can get on: it takes a task, or leaves, or is done with a task that is not stuck. -/
def CanStep (stuck : Ticket α → Prop) (h : History α) : Prop :=
  ∃ (move : Move α) (k : History α), move.isWorkers = true ∧ h.next? move = some k ∧
    ∀ f ∈ k.finished, stuck f.1 → f ∈ h.finished

/-- A worker whose task is not stuck can be done with it. -/
theorem canStep_of_running {stuck : Ticket α → Prop} {t : Ticket α} (ht : t ∈ h.pool.running)
    (hfree : ¬stuck t) : h.CanStep stuck := by
  obtain ⟨before, after, hw⟩ := exists_worker_of_running ht
  have hnext : h.next? (.finish before.length .returned) =
      some
        { h with
          pool := { h.pool with workers := before ++ .idle :: after }
          finished := h.finished ++ [(t, .returned)] } := by
    rw [History.next?, finish?_of_busy hw]
    rfl
  refine ⟨_, _, rfl, hnext, fun f hf hstuck => ?_⟩
  rcases List.mem_append.1 hf with hf | hf
  · exact hf
  · rw [List.mem_singleton.1 hf] at hstuck
    exact absurd hstuck hfree

/-- A worker that waits can take a task. -/
theorem canStep_of_queue {stuck : Ticket α → Prop} {before after : List (Worker (Ticket α))}
    {t : Ticket α} {queue : List (Ticket α)} (hw : h.pool.workers = before ++ .idle :: after)
    (hq : h.pool.queue = t :: queue) : h.CanStep stuck := by
  have hnext : h.next? (.take before.length) =
      some
        { h with
          pool := { h.pool with queue := queue, workers := before ++ .busy t :: after }
          started := h.started ++ [t] } := by
    rw [History.next?, take?_of_idle hw hq]
    rfl
  exact ⟨_, _, rfl, hnext, fun _ hf _ => hf⟩

/-- It can leave when nothing is queued and the pool is closed. -/
theorem canStep_of_closed {stuck : Ticket α → Prop} {before after : List (Worker (Ticket α))}
    (hw : h.pool.workers = before ++ .idle :: after) (hq : h.pool.queue = [])
    (hc : h.pool.isClosed = true) : h.CanStep stuck := by
  have hnext : h.next? (.leave before.length) =
      some { h with pool := { h.pool with workers := before ++ .gone :: after } } := by
    rw [History.next?, leave?_of_idle hw hq hc]
    rfl
  exact ⟨_, _, rfl, hnext, fun _ hf _ => hf⟩

/-- **In a closed pool a worker can get on while one is left**, unless tasks are stuck. -/
theorem Sound.canStep (hs : Sound threads capacity h) (ht : 0 < threads)
    (hc : h.pool.isClosed = true) {stuck : Ticket α → Prop} (hfree : ∀ t ∈ h.pool.running, ¬stuck t)
    (hl : h.pool.live ≠ 0) : h.CanStep stuck := by
  cases hr : h.pool.running with
  | cons t running =>
    have hm : t ∈ h.pool.running := hr ▸ List.mem_cons_self
    exact canStep_of_running hm (hfree t hm)
  | nil =>
    cases hq : h.pool.queue with
    | cons t queue =>
      obtain ⟨before, after, hw⟩ := hs.exists_idle ht hr (hq ▸ List.cons_ne_nil _ _)
      exact canStep_of_queue hw hq
    | nil =>
      obtain ⟨worker, hm, hlive⟩ := List.countP_pos_iff.1 (Nat.pos_of_ne_zero hl)
      cases worker with
      | idle =>
        obtain ⟨before, after, hw⟩ := List.append_of_mem hm
        exact canStep_of_closed hw hq hc
      | busy t => cases List.filterMap_eq_nil_iff.1 hr _ hm
      | gone => cases hlive

/-- In a closed pool each step of a worker is one of those that it takes to drain it. -/
theorem effort_run? (hc : h.pool.isClosed = true) {moves : List (Move α)}
    (hk : h.run? moves = some k) :
    moves.countP Move.isWorkers + k.pool.effort = h.pool.effort := by
  induction moves generalizing h with
  | nil =>
    cases hk
    exact Nat.zero_add _
  | cons move moves ih =>
    obtain ⟨g, hg, hk⟩ := run?_cons hk
    have hrest := ih ((grows_next? hg).closed hc).1 hk
    obtain ⟨-, hworker, hother⟩ := live_next? hg
    rw [List.countP_cons]
    cases hm : move.isWorkers with
    | true =>
      rw [if_pos rfl]
      have := hworker hm
      omega
    | false =>
      rw [if_neg Bool.false_ne_true, ← hother hm hc]
      exact hrest

/-- **The workers of a closed pool drain it**, if they are let. -/
theorem Sound.exists_drained (hs : Sound threads capacity h) (ht : 0 < threads)
    (hc : h.pool.isClosed = true) :
    ∃ (moves : List (Move α)) (k : History α), (∀ move ∈ moves, move.isWorkers = true) ∧
      h.run? moves = some k ∧ k.pool.live = 0 := by
  induction he : h.pool.effort generalizing h with
  | zero =>
    refine ⟨[], h, nofun, rfl, ?_⟩
    rw [effort] at he
    omega
  | succ n ih =>
    by_cases hl : h.pool.live = 0
    · exact ⟨[], h, nofun, rfl, hl⟩
    have hfree : ∀ t ∈ h.pool.running, ¬(fun _ : Ticket α => False) t := fun _ _ => id
    obtain ⟨move, g, hm, hg, -⟩ := hs.canStep ht hc hfree hl
    have heffort := (live_next? hg).2.1 hm
    obtain ⟨moves, k, hmoves, hk, hlive⟩ :=
      ih (hs.next? hg) ((grows_next? hg).closed hc).1 (by omega)
    refine ⟨move :: moves, k, ?_, by rw [History.run?, hg]; exact hk, hlive⟩
    rintro other (_ | ⟨_, hother⟩)
    · exact hm
    · exact hmoves other hother

/-- Where a task is that was accepted. -/
theorem Sound.mem_places (hs : Sound threads capacity h) {t : Ticket α} :
    t ∈ h.accepted ↔
      t ∈ h.pool.queue ∨ t ∈ h.pool.running ∨ t ∈ h.finished.map (·.1) := by
  rw [hs.accounted.mem_iff, List.mem_append, List.mem_append, or_assoc]

/-- **What is queued or run goes on being so until it has finished.** -/
theorem Sound.kept_run? (hs : Sound threads capacity h) {moves : List (Move α)}
    (hk : h.run? moves = some k) {t : Ticket α} (ht : t ∈ h.pool.queue ++ h.pool.running) :
    t ∈ k.pool.queue ∨ t ∈ k.pool.running ∨ t ∈ k.finished.map (·.1) := by
  rw [← (hs.run? hk).mem_places]
  refine (grows_run? hk).accepted.subset (hs.mem_places.2 ?_)
  rcases List.mem_append.1 ht with ht | ht
  · exact .inl ht
  · exact .inr (.inl ht)

/-- A closed pool gets no task that was not queued or run before. -/
theorem pending_next? (hc : h.pool.isClosed = true) {move : Move α} (hk : h.next? move = some k) :
    k.pool.queue ++ k.pool.running ⊆ h.pool.queue ++ h.pool.running := by
  cases move with
  | submit task =>
    cases hk
    rcases h.submit_eq task with ⟨pool, hp, -⟩ | ⟨e, -, he⟩
    · rw [(submit_cases hp).1] at hc
      cases hc
    · rw [he]
      exact List.Subset.refl _
  | take worker =>
    obtain ⟨⟨ticket, pool⟩, ht, rfl⟩ := Option.map_eq_some_iff.1 hk
    obtain ⟨before, after, queue, -, hw, hq, rfl⟩ := take?_cases ht
    rw [hq, running, running, hw]
    exact ((running_busy_perm rfl).append_left _ |>.trans List.perm_middle).subset
  | finish worker ending =>
    obtain ⟨⟨ticket, pool⟩, ht, rfl⟩ := Option.map_eq_some_iff.1 hk
    obtain ⟨before, after, -, hw, rfl⟩ := finish?_cases ht
    rw [running, running, hw]
    exact List.append_subset.2 ⟨List.subset_append_left _ _, fun t hm =>
      List.mem_append_right _ ((running_busy_perm rfl).symm.subset (List.mem_cons_of_mem _ hm))⟩
  | close =>
    cases hk
    exact List.Subset.refl _
  | leave worker =>
    obtain ⟨pool, ht, rfl⟩ := Option.map_eq_some_iff.1 hk
    obtain ⟨before, after, -, hw, -, -, rfl⟩ := leave?_cases ht
    rw [running, running, hw, List.filterMap_append, List.filterMap_append]
    exact List.Subset.refl _

theorem pending_run? (hc : h.pool.isClosed = true) {moves : List (Move α)}
    (hk : h.run? moves = some k) :
    k.pool.queue ++ k.pool.running ⊆ h.pool.queue ++ h.pool.running := by
  induction moves generalizing h with
  | nil =>
    cases hk
    exact List.Subset.refl _
  | cons move moves ih =>
    obtain ⟨g, hg, hk⟩ := run?_cons hk
    exact List.Subset.trans (ih ((grows_next? hg).closed hc).1 hk) (pending_next? hc hg)

/-- How the workers of a closed pool come to leave.

Each step of a worker is one of those that it takes, whatever else happens (`steps`).  If none of
the tasks is stuck a worker can get on, until none is left (`progress`).  So they can get to the
end, by themselves (`reaches`).  There everything has been run that was queued (`emptied`). -/
structure Drains (h : History α) : Prop where
  steps (moves : List (Move α)) (k : History α) : h.run? moves = some k →
    moves.countP Move.isWorkers + k.pool.effort = h.pool.effort
  progress (stuck : Ticket α → Prop) : (∀ t ∈ h.pool.queue ++ h.pool.running, ¬stuck t) →
    ∀ (moves : List (Move α)) (k : History α), h.run? moves = some k →
      k.pool.live = 0 ∨ k.CanStep stuck
  reaches : ∃ (moves : List (Move α)) (k : History α), (∀ move ∈ moves, move.isWorkers = true) ∧
    h.run? moves = some k ∧ k.pool.live = 0
  emptied (moves : List (Move α)) (k : History α) : h.run? moves = some k → k.pool.live = 0 →
    k.pool.queue = [] ∧ k.pool.running = [] ∧
      ∀ t ∈ h.pool.queue ++ h.pool.running, t ∈ k.finished.map (·.1)

theorem Sound.drained (hs : Sound threads capacity h) (ht : 0 < threads)
    (hc : h.pool.isClosed = true) : Drains h where
  steps _ _ hk := effort_run? hc hk
  progress stuck hfree moves k hk := by
    refine Classical.or_iff_not_imp_left.2 fun hl => ?_
    refine (hs.run? hk).canStep ht ((grows_run? hk).closed hc).1 (fun t hm => ?_) hl
    exact hfree t (pending_run? hc hk (List.mem_append_right _ hm))
  reaches := hs.exists_drained ht hc
  emptied moves k hk hl := by
    have hq := (hs.run? hk).queue_eq_nil_of_live ht hl
    have hr := running_eq_nil_of_live hl
    refine ⟨hq, hr, fun t hm => ?_⟩
    simpa [hq, hr] using hs.kept_run? hk hm

/-! ## 3.  Waiting -/

/-- Somebody looks at the pool again and again, and anything may happen to it between two looks;
with each pool stands for how long he has been waiting. -/
inductive Observed : History α → List (Pool (Ticket α) × Nat) → Prop where
  | done (h : History α) : Observed h []
  | look {h k : History α} {moves : List (Move α)} {looks : List (Pool (Ticket α) × Nat)}
    (elapsed : Nat) (run : h.run? moves = some k) (further : Observed k looks) :
    Observed h ((k.pool, elapsed) :: looks)

/-- A wait ends with a look, and nothing has happened but the moves before it. -/
theorem Observed.exists_run {looks : List (Pool (Ticket α) × Nat)} (ho : Observed h looks)
    {timeout : Nat} {outcome : DrainOutcome} {p : Pool (Ticket α)}
    (hw : await? timeout looks = some (outcome, p)) :
    ∃ (moves : List (Move α)) (k : History α) (elapsed : Nat), h.run? moves = some k ∧ k.pool = p ∧
      (p, elapsed) ∈ looks ∧ DrainOutcome.ofLook? timeout elapsed p.live = some outcome := by
  induction ho with
  | done h => cases hw
  | @look h g moves looks elapsed hg _ ih =>
    rw [await?] at hw
    cases hl : DrainOutcome.ofLook? timeout elapsed g.pool.live with
    | some found =>
      rw [hl] at hw
      cases hw
      exact ⟨moves, g, elapsed, hg, rfl, List.mem_cons_self, hl⟩
    | none =>
      rw [hl] at hw
      obtain ⟨more, k, late, hk, hp, hm, hlook⟩ := ih hw
      refine ⟨moves ++ more, k, late, ?_, hp, List.mem_cons_of_mem _ hm, hlook⟩
      rw [run?_append, hg]
      exact hk

/-- A wait ends as soon as a look finds no worker, or finds that the time is up. -/
theorem isSome_await? (timeout : Nat) (looks : List (Pool (Ticket α) × Nat)) :
    (await? timeout looks).isSome = true ↔
      ∃ look ∈ looks, look.1.live = 0 ∨ timeout < look.2 := by
  induction looks with
  | nil => exact iff_of_false Bool.false_ne_true (by simp)
  | cons look looks ih =>
    obtain ⟨p, elapsed⟩ := look
    rw [await?, List.exists_mem_cons_iff]
    rcases DrainOutcome.ofLook?_cases timeout elapsed p.live with
      ⟨hl, he⟩ | ⟨-, ht, he⟩ | ⟨hl, ht, he⟩
    · rw [he]
      exact iff_of_true rfl (.inl (.inl hl))
    · rw [he]
      exact iff_of_true rfl (.inl (.inr ht))
    · rw [he]
      exact ih.trans (or_iff_right fun h => h.elim hl (Nat.not_lt.2 ht)).symm

/-- What a wait comes to that begins at some moment, with looks as they are taken from then on.

It ends as soon as a look finds no worker, or finds that the time is up (`ends`).  It ends well if
no worker is left then, and otherwise because the time is up (`outcome`).  Only others have done
something to the pool, and no task is lost (`passive`). -/
structure Waits (h : History α) (timeout : Nat) (looks : List (Pool (Ticket α) × Nat)) : Prop where
  ends : (await? timeout looks).isSome = true ↔ ∃ look ∈ looks, look.1.live = 0 ∨ timeout < look.2
  outcome (o : DrainOutcome) (p : Pool (Ticket α)) : await? timeout looks = some (o, p) →
    (o = .drained ↔ p.live = 0) ∧ (o = .timedOut ↔ p.live ≠ 0) ∧
      (o = .timedOut → ∃ look ∈ looks, look.1 = p ∧ timeout < look.2)
  passive (o : DrainOutcome) (p : Pool (Ticket α)) : await? timeout looks = some (o, p) →
    ∃ (moves : List (Move α)) (k : History α), h.run? moves = some k ∧ k.pool = p ∧
      ∀ t ∈ h.pool.queue ++ h.pool.running,
        t ∈ p.queue ∨ t ∈ p.running ∨ t ∈ k.finished.map (·.1)

theorem Sound.waits (hs : Sound threads capacity h) (timeout : Nat)
    {looks : List (Pool (Ticket α) × Nat)} (ho : Observed h looks) : h.Waits timeout looks where
  ends := isSome_await? timeout looks
  outcome o p hw := by
    obtain ⟨-, -, elapsed, -, -, hm, hlook⟩ := ho.exists_run hw
    obtain ⟨hdrained, htimedOut, hlate⟩ := DrainOutcome.of_ofLook? hlook
    exact ⟨hdrained, htimedOut, fun h => ⟨_, hm, rfl, hlate h⟩⟩
  passive o p hw := by
    obtain ⟨moves, k, -, hk, rfl, -, -⟩ := ho.exists_run hw
    exact ⟨moves, k, hk, rfl, fun t ht => hs.kept_run? hk ht⟩

/-! ## 4.  The end of a pool -/

/-- How a pool with this many workers comes to its end, after some moves.

It is closed exactly if somebody has closed it (`closed_iff`).  To close it again changes nothing,
and no record is made of it (`close_close`).  It is not opened again (`stays_closed`).  The counter
says how many of the workers have not left (`counter_eq`).  It does not stop short of that: who
leaves finds himself counted (`counts`).  A worker leaves only if nothing is left to do and nothing
will come (`leaves`).  So none leaves while the pool is open, whatever its tasks have come to
(`complete`).  Once it is closed its workers drain it (`drains`).  Whoever waits for that is told
the truth, and changes nothing (`waits`). -/
structure Ends (threads : Nat) (moves : List (Move α)) (h : History α) : Prop where
  closed_iff : h.pool.isClosed = true ↔ .close ∈ moves
  close_close : h.pool.close.close = h.pool.close ∧ h.pool.close.closeRecords = []
  stays_closed : h.pool.isClosed = true → ∀ (more : List (Move α)) (k : History α),
    h.run? more = some k → k.pool.isClosed = true
  counter_eq : counter threads moves = h.pool.live ∧
    h.pool.live + moves.countP Move.isLeave = threads
  counts : ∀ (worker : Nat) (k : History α), h.next? (.leave worker) = some k →
    0 < counter threads moves
  leaves : ∀ (worker : Nat) (k : History α), h.next? (.leave worker) = some k →
    h.pool.isClosed = true ∧ h.pool.queue = []
  complete : h.pool.isClosed = false → h.pool.live = threads
  drains : h.pool.isClosed = true → h.Drains
  waits : ∀ (timeout : Nat) (looks : List (Pool (Ticket α) × Nat)), h.Observed looks →
    h.Waits timeout looks

theorem Sound.ends (hs : Sound threads capacity h) (ht : 0 < threads) {moves : List (Move α)}
    (hclosed : h.pool.isClosed = true ↔ .close ∈ moves)
    (hcounter : counter threads moves = h.pool.live)
    (hleft : h.pool.live + moves.countP Move.isLeave = threads) : h.Ends threads moves where
  closed_iff := hclosed
  close_close := ⟨rfl, rfl⟩
  stays_closed hc _ _ hk := ((grows_run? hk).closed hc).1
  counter_eq := ⟨hcounter, hleft⟩
  counts worker k hk := hcounter ▸ (counted_next? hk).2 rfl
  leaves worker k hk := by
    obtain ⟨pool, hp, -⟩ := Option.map_eq_some_iff.1 hk
    obtain ⟨-, -, -, -, hq, hc, -⟩ := leave?_cases hp
    exact ⟨hc, hq⟩
  complete := hs.live_eq_threads
  drains := hs.drained ht
  waits timeout _ ho := hs.waits timeout ho

end History

/-- **A pool that is closed drains, and nothing else ends it.**  The pool has any positive number of
workers and any positive capacity, and this holds at every moment of every history, however many of
its tasks panic. -/
theorem closed_pool_drains (name : String) {threads capacity : Nat} (ht : 0 < threads)
    (hc : 0 < capacity) :
    ∃ p : Pool (Ticket α), make? name threads capacity = .ok p ∧
      ∀ (moves : List (Move α)) (h : History α), (History.start p).run? moves = some h →
        h.Ends threads moves := by
  refine ⟨History.fresh name threads capacity, make?_eq_fresh name ht hc, fun moves h hr => ?_⟩
  obtain ⟨-, hclosed⟩ := History.pool_run? hr
  obtain ⟨hcounter, hleft⟩ := History.counter_run? hr
  have hlive : (History.start (History.fresh name threads capacity) : History α).pool.live =
      threads := History.live_fresh name threads capacity
  rw [hlive] at hcounter hleft
  refine ((History.sound_start name threads capacity).run? hr).ends ht ?_ hcounter hleft
  simpa [History.start, History.fresh] using hclosed

/-- Two workers and room for one task.  The first task panics, the second is run and the third is
queued when the pool is closed, twice. -/
def untilShut : List (Move Nat) :=
  [.submit 7, .take 0, .finish 0 (.panicked .other), .submit 8, .take 1, .submit 9, .close, .close]

/-- The pool then. -/
def shutPair : History Nat where
  pool := ⟨"pair", 1, [(9, 2)], [.idle, .busy (8, 1)], true⟩
  submitted := [7, 8, 9]
  accepted := [(7, 0), (8, 1), (9, 2)]
  refused := []
  started := [(7, 0), (8, 1)]
  finished := [((7, 0), .panicked .other)]

/-- The pool when both workers have left. -/
def emptyPair : Pool (Ticket Nat) :=
  ⟨"pair", 1, [], [.gone, .gone], true⟩

/-- Whoever waits for no time at all finds both workers; whoever looks again when they have left
finds none, although his time was up. -/
theorem draining_of_a_pair :
    0 < 2 ∧ 0 < 1 ∧ (History.start (History.fresh "pair" 2 1)).run? untilShut = some shutPair ∧
      shutPair.Ends 2 untilShut ∧
        await? 0 [(shutPair.pool, 0), (shutPair.pool, 1)] = some (.timedOut, shutPair.pool) ∧
          shutPair.Waits 0 [(shutPair.pool, 0), (emptyPair, 1)] ∧
            await? 0 [(shutPair.pool, 0), (emptyPair, 1)] = some (.drained, emptyPair) := by
  obtain ⟨p, hp, hends⟩ :=
    closed_pool_drains (α := Nat) "pair" (Nat.succ_pos 1) Nat.one_pos
  cases hp
  have h := hends untilShut shutPair rfl
  have hleft :
    shutPair.run? [.finish 1 .returned, .take 0, .finish 0 .returned, .leave 1, .leave 0] =
      some
        { shutPair with
          pool := emptyPair
          started := [(7, 0), (8, 1), (9, 2)]
          finished := [((7, 0), .panicked .other), ((8, 1), .returned), ((9, 2), .returned)] } :=
            rfl
  have hseen : shutPair.Observed [(shutPair.pool, 0), (emptyPair, 1)] :=
    .look 0 (History.run?_nil shutPair) (.look 1 hleft (.done _))
  exact ⟨Nat.succ_pos 1, Nat.one_pos, rfl, h, rfl, h.waits 0 _ hseen, rfl⟩

end Pool

end AgentIntake
