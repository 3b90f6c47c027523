import AgentIntake.Proofs.Pool.Fate

/-!
# Admission to a pool

What a pool answers to a submission depends on whether it has been closed and on how much is queued,
and on the first before the second.  `Admits` says so of every moment of a history.

How many submissions in a row are accepted is then a matter of room.  While no task finishes and
nobody closes the pool, a task that was accepted keeps a worker or a place in the queue for good, so
the pool accepts as many tasks as it has workers and places to spare, and rejects all later ones
(`Sound.filled`).

## Why submitters have to be patient

A task may be queued although a worker waits: the worker has not taken it yet.  Whoever submits just
then may find the queue full before the workers are busy, and a rejection is not the end of all
acceptance.  `isPatient` rules this out, by asking that a task is submitted only when no worker
waits for one that is queued.  Where all workers are busy from the beginning nobody has to be
patient.
-/

namespace AgentIntake

namespace Pool

variable {α : Type}

/-! ## 1.  One submission -/

section

variable {p : Pool α}

/-- There are three answers to a submission. -/
theorem submit_answers (p : Pool α) (task : α) :
    p.isClosed = true ∧ p.submit task = .error (.shutdown p.name) ∨
      p.isClosed = false ∧ p.capacity ≤ p.queue.length ∧
          p.submit task = .error (.rejected p.name p.capacity) ∨
        p.isClosed = false ∧ p.queue.length < p.capacity ∧
          p.submit task = .ok { p with queue := p.queue ++ [task] } := by
  unfold submit
  by_cases hc : p.isClosed = true
  · exact .inl ⟨hc, if_pos hc⟩
  · have hopen := Bool.eq_false_iff.2 hc
    by_cases hq : p.capacity ≤ p.queue.length
    · exact .inr (.inl ⟨hopen, hq, by rw [if_neg hc, if_pos hq]⟩)
    · exact .inr (.inr ⟨hopen, Nat.lt_of_not_le hq, by rw [if_neg hc, if_neg hq]⟩)

theorem submit_eq_ok_iff {task : α} :
    (∃ q, p.submit task = .ok q) ↔ p.isClosed = false ∧ p.queue.length < p.capacity := by
  rcases p.submit_answers task with ⟨hc, hs⟩ | ⟨hc, hq, hs⟩ | ⟨hc, hq, hs⟩
  · simp [hs, hc]
  · simp [hs, hq]
  · simp [hs, hc, hq]

theorem submit_eq_rejected_iff (hle : p.queue.length ≤ p.capacity) {task : α} :
    p.submit task = .error (.rejected p.name p.capacity) ↔
      p.isClosed = false ∧ p.queue.length = p.capacity := by
  rcases p.submit_answers task with ⟨hc, hs⟩ | ⟨hc, hq, hs⟩ | ⟨hc, hq, hs⟩
  · simp [hs, hc]
  · simp [hs, hc, Nat.le_antisymm hle hq]
  · simp [hs, Nat.ne_of_lt hq]

theorem submit_eq_shutdown_iff {task : α} :
    p.submit task = .error (.shutdown p.name) ↔ p.isClosed = true := by
  rcases p.submit_answers task with ⟨hc, hs⟩ | ⟨hc, hq, hs⟩ | ⟨hc, hq, hs⟩ <;> simp [hs, hc]

end

/-- No worker waits while a task is queued. -/
def isPrompt (p : Pool α) : Bool :=
  p.queue.isEmpty || p.workers.all fun worker => !worker.isIdle

/-- Every worker runs a task. -/
def isBusy (p : Pool α) : Bool :=
  p.workers.all fun worker => worker.task?.isSome

theorem length_running_of_isBusy {p : Pool α} (h : p.isBusy = true) :
    p.running.length = p.workers.length :=
  List.filterMap_length_eq_length.2 (List.all_eq_true.1 h)

/-- No worker of a busy pool waits. -/
theorem idle_not_mem {p : Pool α} (h : p.isBusy = true) : .idle ∉ p.workers := fun hm =>
  absurd (List.all_eq_true.1 h _ hm) Bool.false_ne_true

theorem isPrompt_of_isBusy {p : Pool α} (h : p.isBusy = true) : p.isPrompt = true := by
  refine Bool.or_eq_true_iff.2 (.inr (List.all_eq_true.2 fun worker hm => ?_))
  cases worker with
  | idle => exact absurd hm (idle_not_mem h)
  | busy | gone => rfl

/-- How many more tasks there is room for: each keeps a worker or a place in the queue. -/
def room (p : Pool α) : Nat :=
  p.workers.length + p.capacity - (p.running.length + p.queue.length)

/-- A task that is queued takes up room. -/
theorem room_eq_succ {p q : Pool α} {task : α} (h : p.submit task = .ok q) :
    p.room = q.room + 1 := by
  obtain ⟨-, hq, rfl⟩ := submit_cases h
  have hrun := List.length_filterMap_le Worker.task? p.workers
  simp only [room, running, List.length_append, List.length_singleton]
  omega

/-- A task that is taken from the queue needs as much room as before. -/
theorem room_of_take? {p q : Pool α} {worker : Nat} {task : α}
    (h : p.take? worker = some (task, q)) : q.room = p.room := by
  obtain ⟨before, after, queue, -, hw, hq, rfl⟩ := take?_cases h
  have hlen := (@running_busy_perm _ before after .idle task rfl).length_eq
  simp only [room, running, hw, hq, hlen, List.length_append, List.length_cons]
  omega

/-- There is no room where all workers are at work and the queue is full. -/
theorem room_of_full {p : Pool α} (h : p.isBusy = true) (hq : p.queue.length = p.capacity) :
    p.room = 0 := by
  rw [room, length_running_of_isBusy h, hq, Nat.sub_self]

/-! ## 2.  Moves that fill a pool -/

/-- The task that a move submits. -/
def Move.task? : Move α → Option α
  | submit task => some task
  | take _ | finish .. | close | leave _ => none

/-- The tasks that moves submit, in order. -/
def submissions (moves : List (Move α)) : List α :=
  moves.filterMap Move.task?

/-- The move neither finishes a task nor closes the pool. -/
def Move.fills : Move α → Bool
  | submit _ | take _ | leave _ => true
  | finish .. | close => false

namespace History

variable {threads capacity : Nat} {h k : History α}

/-- Whenever the moves submit a task, no worker waits while one is queued. -/
def isPatient (h : History α) : List (Move α) → Bool
  | [] => true
  | move :: moves =>
    (move.task?.isNone || h.pool.isPrompt) && (h.next? move).all (isPatient · moves)

/-- The tasks that moves submit, in order, with the numbers of their submissions. -/
def tickets (h : History α) (moves : List (Move α)) : List (Ticket α) :=
  (submissions moves).zipIdx h.submitted.length

@[simp] theorem length_tickets (h : History α) (moves : List (Move α)) :
    (h.tickets moves).length = (submissions moves).length :=
  List.length_zipIdx

/-- Of the tasks submitted between two moments, the first ones, as many as there is room for, are
accepted, and all others are refused for the reason `e`. -/
structure Filled (e : PoolError) (h k : History α) (tickets : List (Ticket α)) (room : Nat) :
    Prop where
  accepted : k.accepted = h.accepted ++ tickets.take room
  refused : k.refused = h.refused ++ (tickets.drop room).map (·, e)

section

variable {g : History α} {e : PoolError} {ticket : Ticket α} {tickets : List (Ticket α)}
    {room : Nat}

theorem Filled.same (hf : Filled e g k tickets room) (ha : g.accepted = h.accepted)
    (hr : g.refused = h.refused) : Filled e h k tickets room :=
  ⟨ha ▸ hf.accepted, hr ▸ hf.refused⟩

theorem Filled.accept (hf : Filled e g k tickets room) (ha : g.accepted = h.accepted ++ [ticket])
    (hr : g.refused = h.refused) : Filled e h k (ticket :: tickets) (room + 1) where
  accepted := by rw [hf.accepted, ha, List.append_assoc, List.take_succ_cons, List.singleton_append]
  refused := by rw [hf.refused, hr, List.drop_succ_cons]

theorem Filled.refuse (hf : Filled e g k tickets 0) (ha : g.accepted = h.accepted)
    (hr : g.refused = h.refused ++ [(ticket, e)]) : Filled e h k (ticket :: tickets) 0 where
  accepted := by rw [hf.accepted, ha, List.take_zero, List.take_zero]
  refused := by
    rw [hf.refused, hr, List.append_assoc, List.drop_zero, List.drop_zero, List.map_cons,
      List.singleton_append]

end

theorem run?_cons {move : Move α} {moves : List (Move α)} (hk : h.run? (move :: moves) = some k) :
    ∃ g, h.next? move = some g ∧ g.run? moves = some k := by
  rw [run?] at hk
  split at hk
  · cases hk
  · rename_i g hg
    exact ⟨g, hg, hk⟩

/-- A submission is accepted by the pool, or the pool stays as it was. -/
theorem submit_eq (h : History α) (task : α) :
    (∃ pool, h.pool.submit (task, h.submitted.length) = .ok pool ∧
        h.submit task =
          { h with
            pool := pool
            submitted := h.submitted ++ [task]
            accepted := h.accepted ++ [(task, h.submitted.length)] }) ∨
      ∃ e, h.pool.submit (task, h.submitted.length) = .error e ∧
        h.submit task =
          { h with
            submitted := h.submitted ++ [task]
            refused := h.refused ++ [((task, h.submitted.length), e)] } := by
  cases hp : h.pool.submit (task, h.submitted.length) with
  | ok pool => exact .inl ⟨pool, rfl, by simp only [submit, hp]⟩
  | error e => exact .inr ⟨e, rfl, by simp only [submit, hp]⟩

theorem tickets_submit (h : History α) (task : α) (moves : List (Move α)) :
    h.tickets (.submit task :: moves) =
      (task, h.submitted.length) :: (h.submit task).tickets moves := by
  rw [tickets, tickets, (h.past_submit task).1, List.length_append]
  rfl

/-- An open pool whose workers do not wait has all of them at work. -/
theorem Sound.isBusy_of_isPrompt (hs : Sound threads capacity h) (hopen : h.pool.isClosed = false)
    (hp : h.pool.isPrompt = true) (hq : h.pool.queue ≠ []) : h.pool.isBusy = true := by
  have hidle : ∀ worker ∈ h.pool.workers, (!worker.isIdle) = true := by
    rcases Bool.or_eq_true_iff.1 hp with hnil | hall
    · exact absurd (List.isEmpty_iff.1 hnil) hq
    · exact List.all_eq_true.1 hall
  refine List.all_eq_true.2 fun worker hm => ?_
  cases worker with
  | idle => exact absurd (hidle _ hm) Bool.false_ne_true
  | busy task => rfl
  | gone =>
    rw [(hs.gone hm).1] at hopen
    cases hopen

/-- A patient submission is rejected only when there is no room. -/
theorem Sound.room_eq_zero (hs : Sound threads capacity h) (hpos : 0 < capacity)
    (hopen : h.pool.isClosed = false) (hp : h.pool.isPrompt = true) {ticket : Ticket α}
    {e : PoolError} (he : h.pool.submit ticket = .error e) :
    h.pool.room = 0 ∧ e = .rejected h.pool.name h.pool.capacity := by
  have hle : h.pool.queue.length ≤ h.pool.capacity := hs.capacity_eq ▸ hs.length_queue_le
  rcases h.pool.submit_answers ticket with ⟨hc, -⟩ | ⟨-, hq, hr⟩ | ⟨-, -, hok⟩
  · rw [hc] at hopen
    cases hopen
  · have hfull := Nat.le_antisymm hle hq
    have hne : h.pool.queue ≠ [] := by
      intro hnil
      rw [hnil, hs.capacity_eq] at hfull
      exact Nat.ne_of_lt hpos hfull
    exact ⟨room_of_full (hs.isBusy_of_isPrompt hopen hp hne) hfull,
      Except.error.inj (he.symm.trans hr)⟩
  · rw [he] at hok
    cases hok

/-- **While no task finishes, as many tasks are accepted as there are workers and places to spare.**
By induction on the moves: a task that is accepted takes up room, one that is rejected finds none
left, and one that is taken from the queue changes its place only. -/
theorem Sound.filled (hs : Sound threads capacity h) (hpos : 0 < capacity)
    (hopen : h.pool.isClosed = false) {moves : List (Move α)}
    (hfills : ∀ move ∈ moves, move.fills = true) (hpatient : h.isPatient moves = true)
    (hk : h.run? moves = some k) :
    Filled (.rejected h.pool.name h.pool.capacity) h k (h.tickets moves) h.pool.room := by
  induction moves generalizing h with
  | nil =>
    cases hk
    constructor <;> simp [tickets, submissions]
  | cons move moves ih =>
    obtain ⟨g, hg, hk⟩ := run?_cons hk
    have hgs := hs.next? hg
    have hlater : ∀ move ∈ moves, move.fills = true := fun m hm =>
      hfills m (List.mem_cons_of_mem _ hm)
    rw [isPatient, Bool.and_eq_true, hg] at hpatient
    obtain ⟨hprompt, hpatient⟩ := hpatient
    cases move with
    | submit task =>
      cases hg
      rw [tickets_submit]
      rcases h.submit_eq task with ⟨pool, hp, he⟩ | ⟨e, hp, he⟩
      · have hroom := room_eq_succ hp
        obtain ⟨-, -, rfl⟩ := submit_cases hp
        rw [he] at hgs hpatient hk ⊢
        rw [hroom]
        exact (ih hgs hopen hlater hpatient hk).accept rfl rfl
      · obtain ⟨hroom, rfl⟩ := hs.room_eq_zero hpos hopen hprompt hp
        rw [he] at hgs hpatient hk ⊢
        have hrest := ih hgs hopen hlater hpatient hk
        rw [hroom] at hrest ⊢
        exact hrest.refuse rfl rfl
    | take worker =>
      obtain ⟨⟨ticket, pool⟩, ht, rfl⟩ := Option.map_eq_some_iff.1 hg
      rw [← room_of_take? ht]
      obtain ⟨before, after, queue, -, -, -, rfl⟩ := take?_cases ht
      exact (ih hgs hopen hlater hpatient hk).same rfl rfl
    | leave worker =>
      obtain ⟨pool, ht, rfl⟩ := Option.map_eq_some_iff.1 hg
      obtain ⟨before, after, -, -, -, hc, -⟩ := leave?_cases ht
      rw [hc] at hopen
      cases hopen
    | finish | close => exact absurd (hfills _ List.mem_cons_self) Bool.false_ne_true

/-- Where every worker is at work nobody has to be patient: as long as no task finishes, no worker
waits. -/
theorem isPatient_of_isBusy (hb : h.pool.isBusy = true) {moves : List (Move α)}
    (hfills : ∀ move ∈ moves, move.fills = true) : h.isPatient moves = true := by
  induction moves generalizing h with
  | nil => rfl
  | cons move moves ih =>
    have hlater : ∀ move ∈ moves, move.fills = true := fun m hm =>
      hfills m (List.mem_cons_of_mem _ hm)
    rw [isPatient, isPrompt_of_isBusy hb, Bool.or_true, Bool.true_and, Option.all_eq_true]
    intro g hg
    refine ih ?_ hlater
    cases move with
    | submit task =>
      cases hg
      rcases h.submit_eq task with ⟨pool, hp, he⟩ | ⟨e, -, he⟩
      · rw [he]
        obtain ⟨-, -, rfl⟩ := submit_cases hp
        exact hb
      · rw [he]
        exact hb
    | take worker =>
      obtain ⟨⟨ticket, pool⟩, ht, rfl⟩ := Option.map_eq_some_iff.1 hg
      obtain ⟨before, after, queue, -, hw, -, -⟩ := take?_cases ht
      exact absurd (hw ▸ List.mem_append_right _ List.mem_cons_self) (idle_not_mem hb)
    | leave worker =>
      obtain ⟨pool, ht, rfl⟩ := Option.map_eq_some_iff.1 hg
      obtain ⟨before, after, -, hw, -, -, -⟩ := leave?_cases ht
      exact absurd (hw ▸ List.mem_append_right _ List.mem_cons_self) (idle_not_mem hb)
    | finish | close => exact absurd (hfills _ List.mem_cons_self) Bool.false_ne_true

/-! ## 3.  Exact admission -/

/-- No move changes the name of a pool, and only closing it closes it. -/
theorem pool_next? {move : Move α} (hk : h.next? move = some k) :
    k.pool.name = h.pool.name ∧
      (k.pool.isClosed = true ↔ h.pool.isClosed = true ∨ .close = move) := by
  cases move with
  | submit task =>
    cases hk
    rcases h.submit_eq task with ⟨pool, hp, he⟩ | ⟨e, -, he⟩
    · rw [he]
      obtain ⟨-, -, rfl⟩ := submit_cases hp
      simp
    · rw [he]
      simp
  | take worker =>
    obtain ⟨⟨ticket, pool⟩, ht, rfl⟩ := Option.map_eq_some_iff.1 hk
    obtain ⟨before, after, queue, -, -, -, rfl⟩ := take?_cases ht
    simp
  | finish worker ending =>
    obtain ⟨⟨ticket, pool⟩, ht, rfl⟩ := Option.map_eq_some_iff.1 hk
    obtain ⟨before, after, -, -, rfl⟩ := finish?_cases ht
    simp
  | close =>
    cases hk
    simp [Pool.close]
  | leave worker =>
    obtain ⟨pool, ht, rfl⟩ := Option.map_eq_some_iff.1 hk
    obtain ⟨before, after, -, -, -, -, rfl⟩ := leave?_cases ht
    simp

/-- A pool keeps its name, and is closed if somebody has closed it. -/
theorem pool_run? {moves : List (Move α)} (hk : h.run? moves = some k) :
    k.pool.name = h.pool.name ∧
      (k.pool.isClosed = true ↔ h.pool.isClosed = true ∨ .close ∈ moves) := by
  induction moves generalizing h with
  | nil =>
    cases hk
    simp
  | cons move moves ih =>
    obtain ⟨g, hg, hk⟩ := run?_cons hk
    obtain ⟨hname, hclosed⟩ := pool_next? hg
    obtain ⟨hname', hclosed'⟩ := ih hk
    exact ⟨hname'.trans hname, by rw [hclosed', hclosed, List.mem_cons, or_assoc]⟩

/-- What a pool with a name and a capacity answers after some moves.

It is closed exactly if somebody has closed it (`closed_iff`).  A task is accepted exactly if the
pool is open and has a place in its queue (`ok_iff`).  It is rejected exactly if the pool is open
and all places are taken (`rejected_iff`).  It comes too late exactly if the pool has been closed,
full or not (`shutdown_iff`).  A submission that fails changes nothing but what is remembered of
submissions (`unchanged`).  While all workers are at work, nothing is queued and no task finishes,
the first tasks that are submitted are accepted, as many as the queue has places, and all others are
rejected (`saturated`). -/
structure Admits (name : String) (capacity : Nat) (moves : List (Move α)) (h : History α) :
    Prop where
  closed_iff : h.pool.isClosed = true ↔ .close ∈ moves
  ok_iff : ∀ ticket, (∃ pool, h.pool.submit ticket = .ok pool) ↔
    h.pool.isClosed = false ∧ h.pool.queue.length < capacity
  rejected_iff : ∀ ticket, h.pool.submit ticket = .error (.rejected name capacity) ↔
    h.pool.isClosed = false ∧ h.pool.queue.length = capacity
  shutdown_iff : ∀ ticket, h.pool.submit ticket = .error (.shutdown name) ↔
    h.pool.isClosed = true
  unchanged : ∀ task e, h.pool.submit (task, h.submitted.length) = .error e →
    h.submit task =
      { h with
        submitted := h.submitted ++ [task]
        refused := h.refused ++ [((task, h.submitted.length), e)] }
  saturated : h.pool.isClosed = false → h.pool.isBusy = true → h.pool.queue = [] →
    ∀ more k, (∀ move ∈ more, move.fills = true) → h.run? more = some k →
      Filled (.rejected name capacity) h k (h.tickets more)
        (min (submissions more).length capacity)

theorem Filled.min {e : PoolError} {tickets : List (Ticket α)} {room : Nat}
    (hf : Filled e h k tickets room) : Filled e h k tickets (min tickets.length room) := by
  rcases Nat.le_total tickets.length room with hle | hle
  · rw [Nat.min_eq_left hle]
    obtain ⟨ha, hr⟩ := hf
    rw [List.take_of_length_le hle] at ha
    rw [List.drop_of_length_le hle] at hr
    constructor
    · rw [ha, List.take_length]
    · rw [hr, List.drop_length]
  · rw [Nat.min_eq_right hle]
    exact hf

theorem Sound.admits (hs : Sound threads capacity h) (hpos : 0 < capacity) {name : String}
    {moves : List (Move α)} (hname : h.pool.name = name)
    (hclosed : h.pool.isClosed = true ↔ .close ∈ moves) : Admits name capacity moves h := by
  have hcap := hs.capacity_eq
  subst hname
  constructor
  · exact hclosed
  · intro ticket
    rw [submit_eq_ok_iff, hcap]
  · intro ticket
    rw [← hcap, submit_eq_rejected_iff (hcap ▸ hs.length_queue_le)]
  · intro ticket
    exact submit_eq_shutdown_iff
  · intro task e he
    simp only [History.submit, he]
  · intro hopen hbusy hqueue more k hfills hk
    have hroom : h.pool.room = capacity := by
      rw [Pool.room, length_running_of_isBusy hbusy, hqueue, hcap]
      exact Nat.add_sub_cancel_left _ _
    have hfilled := hs.filled hpos hopen hfills (isPatient_of_isBusy hbusy hfills) hk
    rw [hroom, hcap] at hfilled
    exact length_tickets h more ▸ hfilled.min

/-- A new pool has room for as many tasks as it has workers and places in its queue. -/
theorem room_fresh (name : String) (threads capacity : Nat) :
    (fresh name threads capacity : Pool (Ticket α)).room = threads + capacity := by
  have hrun : (fresh name threads capacity : Pool (Ticket α)).running = [] :=
    List.filterMap_eq_nil_iff.2 fun worker hm => by rw [(List.mem_replicate.1 hm).2]; rfl
  rw [Pool.room, hrun]
  simp [fresh]

end History

/-- **Admission to a pool is exact.**  The pool has any positive number of workers and any positive
capacity.  At every moment of every history it answers by its state alone.  When nothing finishes
and each task is submitted only after a waiting worker has taken the one before, a new pool accepts
as many tasks as it has workers and places in its queue, and rejects all that come later. -/
theorem admission_exact (name : String) {threads capacity : Nat} (ht : 0 < threads)
    (hc : 0 < capacity) :
    ∃ p : Pool (Ticket α), make? name threads capacity = .ok p ∧
      (∀ (moves : List (Move α)) (h : History α), (History.start p).run? moves = some h →
        h.Admits name capacity moves) ∧
      ∀ (moves : List (Move α)) (h : History α), (∀ move ∈ moves, move.fills = true) →
        (History.start p).isPatient moves = true → (History.start p).run? moves = some h →
          h.refused.length = (submissions moves).length - threads - capacity ∧
            (History.start p).Filled (.rejected name capacity) h ((History.start p).tickets moves)
              (threads + capacity) := by
  refine ⟨History.fresh name threads capacity, make?_eq_fresh name ht hc, ?_, ?_⟩
  · intro moves h hrun
    obtain ⟨hname, hclosed⟩ := History.pool_run? hrun
    refine ((History.sound_start name threads capacity).run? hrun).admits hc hname ?_
    simpa [History.start, History.fresh] using hclosed
  · intro moves h hfills hpatient hrun
    have hfilled := (History.sound_start name threads capacity).filled hc rfl hfills hpatient hrun
    rw [show (History.start (History.fresh name threads capacity) : History α).pool.room =
      threads + capacity from History.room_fresh name threads capacity] at hfilled
    refine ⟨?_, hfilled⟩
    rw [hfilled.refused, Nat.sub_sub]
    simp [History.start]

/-- Two workers and room for one task; each submission is followed by a worker that takes the task,
as long as one waits. -/
def patientMoves : List (Move Nat) :=
  [.submit 7, .take 1, .submit 8, .take 0, .submit 7, .submit 9, .submit 7]

/-- The end of these moves: three tasks have a place, and the last two were rejected. -/
def patientEnd : History Nat where
  pool := ⟨"pair", 1, [(7, 2)], [.busy (8, 1), .busy (7, 0)], false⟩
  submitted := [7, 8, 7, 9, 7]
  accepted := [(7, 0), (8, 1), (7, 2)]
  refused := [((9, 3), .rejected "pair" 1), ((7, 4), .rejected "pair" 1)]
  started := [(7, 0), (8, 1)]
  finished := []

theorem admission_to_a_pair :
    0 < 2 ∧ 0 < 1 ∧ (∀ move ∈ patientMoves, move.fills = true) ∧
      (History.start (History.fresh "pair" 2 1)).isPatient patientMoves = true ∧
      (History.start (History.fresh "pair" 2 1)).run? patientMoves = some patientEnd ∧
        patientEnd.refused.length = 5 - 2 - 1 ∧ patientEnd.Admits "pair" 1 patientMoves ∧
          (History.start (History.fresh "pair" 2 1)).Filled (.rejected "pair" 1) patientEnd
            [(7, 0), (8, 1), (7, 2), (9, 3), (7, 4)] 3 := by
  have hfills : ∀ move ∈ patientMoves, move.fills = true := by decide
  obtain ⟨p, hp, hadmits, hfilled⟩ :=
    admission_exact (α := Nat) "pair" (Nat.succ_pos 1) Nat.one_pos
  cases hp
  have ⟨hlength, hf⟩ := hfilled patientMoves patientEnd hfills rfl rfl
  exact ⟨Nat.succ_pos 1, Nat.one_pos, hfills, rfl, rfl, hlength,
    hadmits patientMoves patientEnd rfl, hf⟩

end Pool

end AgentIntake
