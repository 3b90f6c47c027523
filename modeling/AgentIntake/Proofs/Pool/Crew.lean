import AgentIntake.Proofs.Pool.Fate
import AgentIntake.Proofs.Pool.View
import AgentIntake.Work

/-!
# What workers do for tasks

A history of a pool says which tasks were started and which have finished.  A `Crew` also says what
was done for them: each task that was started has a `Pass`, which knows what has been done and what
is still to be done, and a worker is done with its task when nothing is.

What a task is to be done is a function of the task and of the tools that it finds when it starts.
Nothing is assumed of the tools, which may be others each time.

`Sound` says that there is one pass for each start and that no pass does anything else than the work
of its task.  So a task that was accepted has one pass at most, and has had it when all workers have
left (`Sound.exists_pass`); a task that was refused has none (`Sound.passesOf_of_refused`).
-/

namespace AgentIntake.Pool

variable {σ α ε : Type}

/-! ## 1.  Passes -/

/-- What is done for a task that was started: the task and the number of its submission, the tools
that it found, what was done, in order, and what is still to be done. -/
structure Pass (σ α ε : Type) where
  ticket : Ticket α
  tools : σ
  done : List ε
  ahead : Work ε

/-- The pass after its next step. -/
def Pass.next? (p : Pass σ α ε) : Option (Pass σ α ε) :=
  match p.ahead with
  | [] => none
  | .effect e :: ahead => some { p with done := p.done ++ [e], ahead := ahead }
  | .wait :: ahead => some { p with ahead := ahead }

theorem Pass.next?_cases {p q : Pass σ α ε} (h : p.next? = some q) :
    q.ticket = p.ticket ∧ q.tools = p.tools ∧
      q.done ++ q.ahead.effects = p.done ++ p.ahead.effects ∧ p.ahead ≠ [] := by
  unfold next? at h
  split at h
  · cases h
  · rename_i e ahead ha
    cases h
    rw [ha]
    exact ⟨rfl, rfl, List.append_assoc .., List.cons_ne_nil _ _⟩
  · rename_i ahead ha
    cases h
    rw [ha]
    exact ⟨rfl, rfl, rfl, List.cons_ne_nil _ _⟩

/-! ## 2.  Crews -/

/-- A pool with its past, and the passes of the tasks that were started, in the order of their
start. -/
structure Crew (σ α ε : Type) where
  history : History α
  passes : List (Pass σ α ε)

/-- Something that a worker does: it takes the first task of the queue and starts it with some
tools, the pass with a place gets on by one step, the worker is done with its task, or it leaves. -/
inductive Turn (σ : Type) where
  | take (worker : Nat) (tools : σ)
  | act (pass : Nat)
  | finish (worker : Nat) (ending : Ending)
  | leave (worker : Nat)

/-- What it is to the pool. -/
def Turn.event? : Turn σ → Option (PoolEvent α)
  | take worker _ => some (.take worker)
  | act _ => none
  | finish worker _ => some (.finish worker)
  | leave worker => some (.leave worker)

/-- The pool after it, if it can happen. -/
def turn? (p : Pool α) (turn : Turn σ) : Option (Pool α) :=
  turn.event?.elim (some p) p.next?

/-- No worker closes or opens the pool. -/
theorem isClosed_turn? {p q : Pool α} {turn : Turn σ} (h : p.turn? turn = some q) :
    q.isClosed = p.isClosed := by
  cases turn with
  | take worker tools =>
    obtain ⟨⟨task, r⟩, ht, rfl⟩ := Option.map_eq_some_iff.1 h
    obtain ⟨before, after, queue, -, -, -, rfl⟩ := take?_cases ht
    rfl
  | act i =>
    cases h
    rfl
  | finish worker ending =>
    obtain ⟨⟨task, r⟩, ht, rfl⟩ := Option.map_eq_some_iff.1 h
    obtain ⟨before, after, -, -, rfl⟩ := finish?_cases ht
    rfl
  | leave worker =>
    obtain ⟨before, after, -, -, -, -, rfl⟩ := leave?_cases h
    rfl

namespace Crew

/-- The crew of a new pool. -/
def start (p : Pool (Ticket α)) : Crew σ α ε :=
  ⟨.start p, []⟩

/-- A task is submitted. -/
def submit (x : Crew σ α ε) (task : α) : Crew σ α ε :=
  { x with history := x.history.submit task }

/-- The pool is closed. -/
def close (x : Crew σ α ε) : Crew σ α ε :=
  { x with history := { x.history with pool := x.history.pool.close } }

/-- Everything has been done for the task with a number. -/
def isDone (x : Crew σ α ε) (number : Nat) : Bool :=
  x.passes.all fun p => p.ticket.2 ≠ number || p.ahead.isEmpty

/-- The passes of the task with a number. -/
def passesOf (x : Crew σ α ε) (number : Nat) : List (Pass σ α ε) :=
  x.passes.filter fun p => p.ticket.2 = number

/-- The crew after a turn of a worker, if it can happen; `work` is what a task is to be done. -/
def turn? (work : σ → α → Work ε) (x : Crew σ α ε) : Turn σ → Option (Crew σ α ε)
  | .take worker tools =>
    (x.history.pool.take? worker).map fun (ticket, pool) =>
      { history := { x.history with pool := pool, started := x.history.started ++ [ticket] }
        passes := x.passes ++ [⟨ticket, tools, [], work tools ticket.1⟩] }
  | .act i =>
    x.passes[i]?.bind fun p => p.next?.map fun q => { x with passes := x.passes.set i q }
  | .finish worker ending =>
    (x.history.pool.finish? worker).bind fun (ticket, pool) =>
      if x.isDone ticket.2 then
        some
          { x with
            history :=
              { x.history with
                pool := pool
                finished := x.history.finished ++ [(ticket, ending)] } }
      else none
  | .leave worker =>
    (x.history.pool.leave? worker).map fun pool =>
      { x with history := { x.history with pool := pool } }

/-- **To a pool whose tasks are seen differently the turn is the same.** -/
theorem turn?_map {β : Type} (f : Ticket α → β) {work : σ → α → Work ε} {x y : Crew σ α ε}
    {turn : Turn σ} (h : x.turn? work turn = some y) :
    (x.history.pool.map f).turn? turn = some (y.history.pool.map f) := by
  cases turn with
  | take worker tools =>
    obtain ⟨⟨ticket, pool⟩, ht, rfl⟩ := Option.map_eq_some_iff.1 h
    show ((x.history.pool.map f).take? worker).map _ = _
    rw [take?_map, ht]
    rfl
  | act i =>
    obtain ⟨p, -, hp⟩ := Option.bind_eq_some_iff.1 h
    obtain ⟨q, -, rfl⟩ := Option.map_eq_some_iff.1 hp
    rfl
  | finish worker ending =>
    obtain ⟨⟨ticket, pool⟩, ht, hd⟩ := Option.bind_eq_some_iff.1 h
    dsimp only at hd
    split at hd
    · cases hd
      show ((x.history.pool.map f).finish? worker).map _ = _
      rw [finish?_map, ht]
      rfl
    · cases hd
  | leave worker =>
    obtain ⟨pool, ht, rfl⟩ := Option.map_eq_some_iff.1 h
    show (x.history.pool.map f).leave? worker = _
    rw [leave?_map, ht]
    rfl

/-- A turn is a move of the pool, or it is nothing to the pool; and it refuses nothing. -/
theorem history_of_turn? {work : σ → α → Work ε} {x y : Crew σ α ε} {turn : Turn σ}
    (h : x.turn? work turn = some y) :
    y.history.refused = x.history.refused ∧
      (y.history = x.history ∨ ∃ move, x.history.next? move = some y.history) := by
  cases turn with
  | take worker tools =>
    obtain ⟨⟨ticket, pool⟩, ht, rfl⟩ := Option.map_eq_some_iff.1 h
    exact ⟨rfl, .inr ⟨.take worker, by rw [History.next?, ht]; rfl⟩⟩
  | act i =>
    obtain ⟨p, -, hp⟩ := Option.bind_eq_some_iff.1 h
    obtain ⟨q, -, rfl⟩ := Option.map_eq_some_iff.1 hp
    exact ⟨rfl, .inl rfl⟩
  | finish worker ending =>
    obtain ⟨⟨ticket, pool⟩, ht, hd⟩ := Option.bind_eq_some_iff.1 h
    dsimp only at hd
    split at hd
    · cases hd
      exact ⟨rfl, .inr ⟨.finish worker ending, by rw [History.next?, ht]; rfl⟩⟩
    · cases hd
  | leave worker =>
    obtain ⟨pool, ht, rfl⟩ := Option.map_eq_some_iff.1 h
    exact ⟨rfl, .inr ⟨.leave worker, by rw [History.next?, ht]; rfl⟩⟩

theorem grows_turn? {work : σ → α → Work ε} {x y : Crew σ α ε} {turn : Turn σ}
    (h : x.turn? work turn = some y) : x.history.Grows y.history := by
  rcases (history_of_turn? h).2 with he | ⟨move, hm⟩
  · exact he ▸ .refl _
  · exact History.grows_next? hm

/-! ## 3.  The invariant -/

/-- What holds of a crew at every moment.

The history of the pool is sound (`history`).  There is a pass for each start (`tickets`).  What was
done and what is still to be done are together the work of the task (`work_eq`).  Nothing is still
to be done for a task that has finished (`settled`). -/
structure Sound (work : σ → α → Work ε) (threads capacity : Nat) (x : Crew σ α ε) : Prop where
  history : x.history.Sound threads capacity
  tickets : x.passes.map (·.ticket) = x.history.started
  work_eq : ∀ p ∈ x.passes, p.done ++ p.ahead.effects = (work p.tools p.ticket.1).effects
  settled : ∀ t ∈ x.history.finished, ∀ p ∈ x.passes, p.ticket = t.1 → p.ahead = []

variable {work : σ → α → Work ε} {threads capacity : Nat} {x y : Crew σ α ε}

theorem sound_start (name : String) (threads capacity : Nat) :
    Sound work threads capacity (start (History.fresh name threads capacity)) :=
  ⟨History.sound_start name threads capacity, rfl, fun _ hp => absurd hp List.not_mem_nil,
    fun _ ht => absurd ht List.not_mem_nil⟩

theorem Sound.submit (hs : Sound work threads capacity x) (task : α) :
    Sound work threads capacity (x.submit task) := by
  obtain ⟨-, hstarted, hfinished⟩ := x.history.past_submit task
  exact
    { hs with
      history := hs.history.submit task
      tickets := hs.tickets.trans hstarted.symm
      settled := fun t ht => hs.settled t (hfinished ▸ ht) }

theorem Sound.close (hs : Sound work threads capacity x) : Sound work threads capacity x.close := by
  have hnext : x.history.next? .close =
      some { x.history with pool := x.history.pool.close } := rfl
  exact { hs with history := hs.history.next? hnext }

/-- A step of a pass keeps it. -/
theorem Sound.set_pass (hs : Sound work threads capacity x) {i : Nat} {p q : Pass σ α ε}
    (hp : x.passes[i]? = some p) (hq : p.next? = some q) :
    Sound work threads capacity { x with passes := x.passes.set i q } := by
  obtain ⟨before, after, -, hb, hset⟩ := exists_split_of_getElem? hp
  obtain ⟨hticket, htools, heffects, hne⟩ := Pass.next?_cases hq
  have hmem : p ∈ x.passes := hb ▸ List.mem_append_right _ List.mem_cons_self
  -- what holds of the other passes holds still
  have hothers : ∀ {P : Pass σ α ε → Prop}, (∀ k ∈ x.passes, P k) → P q →
      ∀ k ∈ x.passes.set i q, P k := by
    intro P hP hnew k hk
    rcases List.mem_or_eq_of_mem_set hk with hk | rfl
    · exact hP k hk
    · exact hnew
  exact
    { history := hs.history
      tickets := by
        rw [hset, ← hs.tickets, hb, List.map_append, List.map_append, List.map_cons,
          List.map_cons, hticket]
      work_eq := by
        refine hothers hs.work_eq ?_
        rw [heffects, hticket, htools]
        exact hs.work_eq p hmem
      settled := fun t ht =>
        hothers (P := fun k => k.ticket = t.1 → k.ahead = []) (hs.settled t ht) fun hk =>
          absurd (hs.settled t ht p hmem (hticket.symm.trans hk)) hne }

/-- **Every turn of a worker keeps it.** -/
theorem Sound.turn? (hs : Sound work threads capacity x) {turn : Turn σ}
    (h : x.turn? work turn = some y) : Sound work threads capacity y := by
  have hhistory : y.history.Sound threads capacity := by
    rcases (history_of_turn? h).2 with he | ⟨move, hm⟩
    · exact he ▸ hs.history
    · exact hs.history.next? hm
  cases turn with
  | take worker tools =>
    obtain ⟨⟨ticket, pool⟩, ht, rfl⟩ := Option.map_eq_some_iff.1 h
    have hnew : ticket ∉ x.history.started := by
      obtain ⟨-, -, queue, -, -, hq, -⟩ := take?_cases ht
      exact hs.history.not_mem_started (hq ▸ List.mem_cons_self)
    exact
      { history := hhistory
        tickets := by
          rw [List.map_append, hs.tickets]
          rfl
        work_eq := fun p hp => by
          rcases List.mem_append.1 hp with hp | hp
          · exact hs.work_eq p hp
          · rw [List.mem_singleton.1 hp]
            rfl
        settled := fun t hf p hp hpt => by
          rcases List.mem_append.1 hp with hp | hp
          · exact hs.settled t hf p hp hpt
          · rw [List.mem_singleton.1 hp] at hpt
            exact absurd (hs.history.mem_started hf) (hpt ▸ hnew) }
  | act i =>
    obtain ⟨p, hp, hmap⟩ := Option.bind_eq_some_iff.1 h
    obtain ⟨q, hq, rfl⟩ := Option.map_eq_some_iff.1 hmap
    exact hs.set_pass hp hq
  | finish worker ending =>
    obtain ⟨⟨ticket, pool⟩, ht, hd⟩ := Option.bind_eq_some_iff.1 h
    dsimp only at hd
    split at hd
    · rename_i hdone
      cases hd
      exact
        { hs with
          history := hhistory
          settled := fun t ht p hp hpt => by
            rcases List.mem_append.1 ht with ht | ht
            · exact hs.settled t ht p hp hpt
            · rw [List.mem_singleton.1 ht] at hpt
              have hd := List.all_eq_true.1 hdone p hp
              simpa [hpt] using hd }
    · cases hd
  | leave worker =>
    obtain ⟨pool, ht, rfl⟩ := Option.map_eq_some_iff.1 h
    exact { hs with history := hhistory }

/-! ## 4.  The passes of a task -/

/-- No task was started twice. -/
theorem Sound.nodup_passes (hs : Sound work threads capacity x) :
    (x.passes.map (·.ticket.2)).Nodup := by
  have h := hs.history.nodup_started
  rwa [← hs.tickets, List.map_map] at h

/-- **A task has one pass at most.** -/
theorem Sound.length_passesOf_le (hs : Sound work threads capacity x) (number : Nat) :
    (x.passesOf number).length ≤ 1 := by
  have hc := List.nodup_iff_count_le_one.1 hs.nodup_passes number
  rw [List.count, List.countP_map, List.countP_eq_length_filter] at hc
  exact hc

/-- A pass is one of a task that was accepted. -/
theorem Sound.mem_accepted (hs : Sound work threads capacity x) {p : Pass σ α ε}
    (hp : p ∈ x.passes) : p.ticket ∈ x.history.accepted :=
  hs.history.started_subset (hs.tickets ▸ List.mem_map_of_mem hp)

/-- **A task that was refused has none.** -/
theorem Sound.passesOf_of_refused (hs : Sound work threads capacity x)
    {r : Ticket α × PoolError} (hr : r ∈ x.history.refused) : x.passesOf r.1.2 = [] := by
  have hn := hs.history.nodup_numbers
  rw [List.map_append] at hn
  refine List.filter_eq_nil_iff.2 fun p hp hpr => ?_
  exact (List.nodup_append.1 hn).2.2 p.ticket.2 (List.mem_map_of_mem (hs.mem_accepted hp)) r.1.2
    (List.mem_map_of_mem (List.mem_map_of_mem hr)) (of_decide_eq_true hpr)

/-- **When all workers have left, a task that was accepted has had its pass**, and nothing is still
to be done for it. -/
theorem Sound.exists_pass (hs : Sound work threads capacity x) (ht : 0 < threads)
    (hl : x.history.pool.live = 0) {t : Ticket α} (hm : t ∈ x.history.accepted) :
    ∃ p, x.passesOf t.2 = [p] ∧ p.ticket = t ∧ p.ahead = [] ∧
      p.done = (work p.tools t.1).effects := by
  obtain ⟨f, hf, rfl⟩ := List.mem_map.1 ((hs.history.oneFate ht).all_finished hl t hm).1
  obtain ⟨p, hp, hpt⟩ := List.mem_map.1 (hs.tickets ▸ hs.history.mem_started hf)
  have hahead := hs.settled f hf p hp hpt
  refine ⟨p, ?_, hpt, hahead, ?_⟩
  · rw [← hpt]
    exact filter_key_eq (·.ticket.2) hs.nodup_passes hp
  · have hw := hs.work_eq p hp
    rwa [hahead, Work.effects, List.append_nil, hpt] at hw

end Crew

end AgentIntake.Pool
