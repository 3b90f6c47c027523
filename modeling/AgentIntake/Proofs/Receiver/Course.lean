import AgentIntake.Proofs.Dispatch.Trace
import AgentIntake.Proofs.Pool.Crew

/-!
# The course of a receiver

A `Course` is a receiver with its past, taken in the smallest steps and in any order: packets are
delivered, workers get on, and a stop closes one pool after the other and then waits for them.  It
runs the program's own operations, so its receiver is always one that the program can have; beside
it the course remembers what was done for each packet and which warnings were given.

Nothing is assumed of the codec, the handler and the reply handles: a worker finds some when it
starts a task, and others the next time.  Nor of the waits of a stop: each ends at some moment, and
its outcome depends on whether workers are left then.

`Sound` is the invariant, and `Sound.run?` says that it holds of every course.  That a stop of the
program is such a course, whatever happens while it waits, is `Sound.exists_stopped`.
-/

namespace AgentIntake

open Dispatch

variable {ρ η M : Type}

/-- The warning about a packet that the pool does not take. -/
def Delivery.warning? (task : Delivery ρ) (e : PoolError) : Option Log.Record :=
  task.packet?.map fun (path, remote, _) => Receiver.droppedRecord path remote e

namespace Receiver

/-! ## 1.  Deliveries -/

/-- The receiver after a task was handed in, with the records of it.  A packet comes through a
callback; a task of someone else goes into the dispatch pool if there is room. -/
def handIn (r : Receiver ρ η) : Delivery ρ → Receiver ρ η × List Log.Record
  | .send packet => r.send packet
  | .request packet => r.request packet
  | .other =>
    match r.dispatch.submit .other with
    | .ok dispatch => ({ r with dispatch := dispatch }, [])
    | .error _ => (r, [])

/-- What the pool does not take is warned of if it is a packet. -/
theorem handIn_eq (r : Receiver ρ η) (task : Delivery ρ) :
    r.handIn task =
      match r.dispatch.submit task with
      | .ok dispatch => ({ r with dispatch := dispatch }, [])
      | .error e => (r, (task.warning? e).toList) := by
  cases h : r.dispatch.submit task <;> cases task <;>
    simp only [handIn, send, request, deliver, h] <;> rfl

/-- What a worker finds when it starts a task. -/
structure Tools (ρ M : Type) where
  codec : Codec M
  handler : Handler M
  reply : ρ → ReplySender

/-- All that is done for a task. -/
def Tools.acts (tools : Tools ρ M) (task : Delivery ρ) : Work (Act M) :=
  dispatchActs tools.codec tools.handler tools.reply task

/-! ## 2.  Courses -/

/-- A receiver with its past, and how far its stop has got: the past of the dispatch pool and what
its workers did, the warnings about packets, each with the number of the submission, the pools that
the stop has still to close and those it has still to wait for, what its waits have come to, and
what stops have reported. -/
structure Course (ρ η M : Type) where
  receiver : Receiver ρ η
  crew : Pool.Crew (Tools ρ M) (Delivery ρ) (Act M)
  warnings : List (Nat × Log.Record)
  closing : List Executor
  waiting : List Executor
  verdict : ShutdownOutcome
  outcomes : List ShutdownOutcome

/-- Something that happens to a receiver: it is started, or somebody tries to; something happens to
its liveness pool; a task is handed in; a worker of its dispatch pool does something; a stop begins,
closes the next pool, or has waited for the next one. -/
inductive Move (ρ M : Type) where
  | start (lookup : Probe.Lookup) (bound : Except TransportError Unit)
  | liveness (event : PoolEvent Ping)
  | deliver (task : Delivery ρ)
  | work (turn : Pool.Turn (Tools ρ M))
  | stop
  | close
  | wait

/-- The pools of a receiver when nothing is done about them but closing them. -/
abbrev pools : Drain.Executors Executor (Receiver ρ η) :=
  drainable fun _ r => r

namespace Course

/-- A receiver to which nothing has happened. -/
def of (r : Receiver ρ η) : Course ρ η M where
  receiver := r
  crew :=
    .start (Pool.History.fresh r.dispatch.name r.dispatch.workers.length r.dispatch.capacity)
  warnings := []
  closing := []
  waiting := []
  verdict := .drained
  outcomes := []

/-- A task is handed in. -/
def deliver (x : Course ρ η M) (task : Delivery ρ) : Course ρ η M :=
  let (receiver, records) := x.receiver.handIn task
  { x with
    receiver := receiver
    crew := x.crew.submit task
    warnings := x.warnings ++ records.map (x.crew.history.submitted.length, ·) }

/-- A worker of the dispatch pool does something. -/
def work? (x : Course ρ η M) (turn : Pool.Turn (Tools ρ M)) : Option (Course ρ η M) := do
  let dispatch ← x.receiver.dispatch.turn? turn
  let crew ← x.crew.turn? Tools.acts turn
  return { x with receiver := { x.receiver with dispatch := dispatch }, crew := crew }

/-- A stop begins, unless there was one. -/
def stop (x : Course ρ η M) : Course ρ η M :=
  if x.receiver.isStopped then { x with outcomes := x.outcomes ++ [.alreadyStopped] }
  else
    { x with
      receiver := { x.receiver with isStopped := true }
      closing := x.receiver.executors.filterMap id
      waiting := x.receiver.executors.filterMap id
      verdict := .drained }

/-- The stop closes a pool; others are left. -/
def closed (x : Course ρ η M) (k : Executor) (ks : List Executor) : Course ρ η M :=
  { x with
    receiver := (pools.close k x.receiver).1
    crew := if k = .dispatch then x.crew.close else x.crew
    closing := ks }

/-- The stop closes the next pool. -/
def close? (x : Course ρ η M) : Option (Course ρ η M) :=
  match x.closing with
  | [] => none
  | k :: ks => some (x.closed k ks)

/-- What the waits have come to after the wait for a pool. -/
def verdictOf (verdict : ShutdownOutcome) (k : Executor) (r : Receiver ρ η) : ShutdownOutcome :=
  if pools.live k r = 0 then verdict else .timedOut

/-- The wait for a pool ends; the stop is over when no others are left. -/
def waited (x : Course ρ η M) (k : Executor) (ks : List Executor) : Course ρ η M :=
  let verdict := verdictOf x.verdict k x.receiver
  { x with
    waiting := ks
    verdict := verdict
    outcomes := x.outcomes ++ if ks.isEmpty then [verdict] else [] }

/-- The wait for the next pool ends, when all are closed. -/
def wait? (x : Course ρ η M) : Option (Course ρ η M) :=
  match x.closing, x.waiting with
  | [], k :: ks => some (x.waited k ks)
  | _, _ => none

/-- The course after a move, if it can happen. -/
def next? (x : Course ρ η M) : Move ρ M → Option (Course ρ η M)
  | .start lookup bound => some { x with receiver := (x.receiver.start lookup bound).1 }
  | .liveness event =>
    (x.receiver.events.bind (·.next? event)).map fun pool =>
      { x with receiver := { x.receiver with events := some pool } }
  | .deliver task => some (x.deliver task)
  | .work turn => x.work? turn
  | .stop => some x.stop
  | .close => x.close?
  | .wait => x.wait?

/-- The course after moves in order, if they can happen. -/
def run? (x : Course ρ η M) : List (Move ρ M) → Option (Course ρ η M)
  | [] => some x
  | move :: moves =>
    match x.next? move with
    | none => none
    | some y => y.run? moves

/-! ## 3.  The invariant -/

/-- The warnings that a refusal leads to. -/
def warningOf (refusal : Pool.Ticket (Delivery ρ) × PoolError) : Option (Nat × Log.Record) :=
  (refusal.1.1.warning? refusal.2).map (refusal.1.2, ·)

/-- What holds of a course at every moment.

The crew is sound (`crew`).  Its pool is the dispatch pool, with the tasks numbered (`dispatch_eq`).
The warnings are about the packets that were refused, one for each (`warnings_eq`).  The dispatch
pool is closed when the stop has closed it (`closed_iff`).  No pool is closed twice
(`nodup_closing`).  Before a stop there is nothing to close and nothing to wait for (`idle`).  A
stop that has come to an end has closed all pools (`reported`). -/
structure Sound (threads capacity : Nat) (x : Course ρ η M) : Prop where
  crew : x.crew.Sound Tools.acts threads capacity
  dispatch_eq : x.receiver.dispatch = x.crew.history.pool.map Prod.fst
  warnings_eq : x.warnings = x.crew.history.refused.filterMap warningOf
  closed_iff : x.receiver.dispatch.isClosed = true ↔
    x.receiver.isStopped = true ∧ .dispatch ∉ x.closing
  nodup_closing : x.closing.Nodup
  idle : x.receiver.isStopped = false → x.closing = [] ∧ x.waiting = []
  reported : ∀ outcome ∈ x.outcomes, outcome ≠ .alreadyStopped →
    x.receiver.isStopped = true ∧ x.closing = []

variable {threads capacity : Nat} {x y z : Course ρ η M}

/-- What the receiver does besides handing on packets does not concern it. -/
theorem Sound.of_receiver (hs : Sound threads capacity x) {r : Receiver ρ η}
    (hd : r.dispatch = x.receiver.dispatch) (hr : r.isStopped = x.receiver.isStopped) :
    Sound threads capacity { x with receiver := r } where
  crew := hs.crew
  dispatch_eq := hd.trans hs.dispatch_eq
  warnings_eq := hs.warnings_eq
  closed_iff := by
    show r.dispatch.isClosed = true ↔ r.isStopped = true ∧ _
    rw [hd, hr]
    exact hs.closed_iff
  nodup_closing := hs.nodup_closing
  idle h := hs.idle (hr.symm.trans h)
  reported o ho hne := ⟨hr.trans (hs.reported o ho hne).1, (hs.reported o ho hne).2⟩

theorem start_eq (r : Receiver ρ η) (lookup : Probe.Lookup) (bound : Except TransportError Unit) :
    (r.start lookup bound).1.dispatch = r.dispatch ∧
      (r.start lookup bound).1.isStopped = r.isStopped := by
  unfold start
  split
  · exact ⟨rfl, rfl⟩
  · split
    · exact ⟨rfl, rfl⟩
    · cases bound <;> exact ⟨rfl, rfl⟩

/-- **A delivery keeps it.**  The program's pool and the numbered one answer the same, so there is a
warning when the history has a refusal. -/
theorem Sound.deliver (hs : Sound threads capacity x) (task : Delivery ρ) :
    Sound threads capacity (x.deliver task) := by
  have hcrew := hs.crew.submit task
  have hin := x.receiver.handIn_eq task
  unfold Pool.Crew.submit at hcrew
  unfold Course.deliver Pool.Crew.submit
  rw [hs.dispatch_eq] at hin
  rcases x.crew.history.submit_cases task with ⟨pool, hp, hh⟩ | ⟨e, hp, hh⟩
  · rw [hp] at hin
    rw [hh] at hcrew
    rw [hin, hh]
    obtain ⟨-, -, hpool⟩ := Pool.submit_cases hp
    exact
      { hs with
        crew := hcrew
        dispatch_eq := rfl
        warnings_eq := (List.append_nil _).trans hs.warnings_eq
        closed_iff := by
          show (pool.map Prod.fst).isClosed = true ↔ _
          rw [hpool, ← hs.dispatch_eq]
          exact hs.closed_iff }
  · rw [hp] at hin
    rw [hh] at hcrew
    rw [hin, hh]
    refine { hs with crew := hcrew, warnings_eq := ?_ }
    show x.warnings ++ _ = List.filterMap _ (_ ++ [_])
    rw [List.filterMap_append, ← hs.warnings_eq]
    refine congrArg (x.warnings ++ ·) ?_
    cases hw : task.warning? e <;> simp [warningOf, hw]

/-- A turn of a worker keeps it. -/
theorem Sound.work? (hs : Sound threads capacity x) {turn : Pool.Turn (Tools ρ M)}
    (h : x.work? turn = some y) : Sound threads capacity y := by
  obtain ⟨dispatch, hd, h⟩ := Option.bind_eq_some_iff.1 h
  obtain ⟨crew, hc, h⟩ := Option.bind_eq_some_iff.1 h
  cases h
  have hmap := Pool.Crew.turn?_map Prod.fst hc
  rw [← hs.dispatch_eq, hd] at hmap
  exact
    { hs with
      crew := hs.crew.turn? hc
      dispatch_eq := Option.some.inj hmap
      warnings_eq := by
        show x.warnings = crew.history.refused.filterMap _
        rw [(Pool.Crew.history_of_turn? hc).1]
        exact hs.warnings_eq
      closed_iff := by
        show dispatch.isClosed = true ↔ _
        rw [Pool.isClosed_turn? hd]
        exact hs.closed_iff }

/-- The pools of a receiver are different from each other. -/
theorem nodup_executors (r : Receiver ρ η) :
    (r.executors.filterMap id).Nodup ∧ .dispatch ∈ r.executors.filterMap id := by
  unfold executors
  cases r.events with
  | none => exact ⟨List.nodup_singleton _, List.mem_singleton_self _⟩
  | some events => exact ⟨List.nodup_cons.2 ⟨by simp, List.nodup_singleton _⟩, List.mem_cons_self⟩

theorem Sound.stop (hs : Sound threads capacity x) : Sound threads capacity x.stop := by
  obtain ⟨hnodup, hmem⟩ := nodup_executors x.receiver
  unfold Course.stop
  split
  · rename_i hstopped
    refine { hs with reported := fun o ho hne => ?_ }
    rcases List.mem_append.1 ho with ho | ho
    · exact hs.reported o ho hne
    · exact absurd (List.mem_singleton.1 ho) hne
  · rename_i hstopped
    exact
      { hs with
        closed_iff := by
          refine ⟨fun hc => absurd (hs.closed_iff.1 hc).1 hstopped, fun h => absurd hmem h.2⟩
        nodup_closing := hnodup
        idle := fun h => absurd h.symm Bool.false_ne_true
        reported := fun o ho hne => absurd (hs.reported o ho hne).1 hstopped }

theorem Sound.close? (hs : Sound threads capacity x) (h : x.close? = some y) :
    Sound threads capacity y := by
  unfold Course.close? at h
  split at h
  · cases h
  · rename_i k ks hk
    cases h
    have hstopped : x.receiver.isStopped = true := by
      by_contra hn
      rw [(hs.idle (Bool.eq_false_iff.2 hn)).1] at hk
      cases hk
    -- a stop that has still something to close has not reported yet
    have hnone : ∀ o ∈ x.outcomes, o = .alreadyStopped := by
      intro o ho
      by_contra hne
      have hnil := (hs.reported o ho hne).2
      rw [hk] at hnil
      cases hnil
    have hnodup := hs.nodup_closing
    rw [hk, List.nodup_cons] at hnodup
    cases k with
    | dispatch =>
      exact
        { hs with
          crew := hs.crew.close
          dispatch_eq := by
            show x.receiver.dispatch.close = _
            rw [hs.dispatch_eq]
            rfl
          closed_iff := ⟨fun _ => ⟨hstopped, hnodup.1⟩, fun _ => rfl⟩
          nodup_closing := hnodup.2
          idle := fun h => absurd (h.symm.trans hstopped) Bool.false_ne_true
          reported := fun o ho hne => absurd (hnone o ho) hne }
    | events =>
      exact
        { hs with
          closed_iff := by
            refine hs.closed_iff.trans ?_
            rw [hk, List.mem_cons, or_iff_right (by decide)]
            exact Iff.rfl
          nodup_closing := hnodup.2
          idle := fun h => absurd (h.symm.trans hstopped) Bool.false_ne_true
          reported := fun o ho hne => absurd (hnone o ho) hne }

theorem Sound.wait? (hs : Sound threads capacity x) (h : x.wait? = some y) :
    Sound threads capacity y := by
  unfold Course.wait? at h
  split at h
  · rename_i k ks hc hw
    cases h
    have hstopped : x.receiver.isStopped = true := by
      by_contra hn
      rw [(hs.idle (Bool.eq_false_iff.2 hn)).2] at hw
      cases hw
    exact
      { hs with
        idle := fun h => absurd (h.symm.trans hstopped) Bool.false_ne_true
        reported := fun _ _ _ => ⟨hstopped, hc⟩ }
  · cases h

/-- **Every move keeps it.** -/
theorem Sound.next? (hs : Sound threads capacity x) {move : Move ρ M} (h : x.next? move = some y) :
    Sound threads capacity y := by
  cases move with
  | start lookup bound =>
    cases h
    obtain ⟨hd, hr⟩ := start_eq x.receiver lookup bound
    exact hs.of_receiver hd hr
  | liveness event =>
    obtain ⟨pool, -, rfl⟩ := Option.map_eq_some_iff.1 h
    exact hs.of_receiver rfl rfl
  | deliver task =>
    cases h
    exact hs.deliver task
  | work turn => exact hs.work? h
  | stop =>
    cases h
    exact hs.stop
  | close => exact hs.close? h
  | wait => exact hs.wait? h

/-- **The invariant holds of every course.** -/
theorem Sound.run? (hs : Sound threads capacity x) {moves : List (Move ρ M)}
    (h : x.run? moves = some y) : Sound threads capacity y := by
  induction moves generalizing x with
  | nil =>
    cases h
    exact hs
  | cons move moves ih =>
    rw [Course.run?] at h
    split at h
    · cases h
    · rename_i z hz
      exact ih (hs.next? hz) h

/-! ## 4.  Later courses -/

theorem grows_next? {move : Move ρ M} (h : x.next? move = some y) :
    x.crew.history.Grows y.crew.history := by
  cases move with
  | start lookup bound =>
    cases h
    exact .refl _
  | liveness event =>
    obtain ⟨pool, -, rfl⟩ := Option.map_eq_some_iff.1 h
    exact .refl _
  | deliver task =>
    cases h
    exact x.crew.history.grows_submit task
  | work turn =>
    obtain ⟨dispatch, -, h⟩ := Option.bind_eq_some_iff.1 h
    obtain ⟨crew, hc, h⟩ := Option.bind_eq_some_iff.1 h
    cases h
    exact Pool.Crew.grows_turn? hc
  | stop =>
    cases h
    unfold Course.stop
    split <;> exact .refl _
  | close =>
    rw [next?, close?] at h
    split at h
    · cases h
    · cases h
      unfold closed
      dsimp only
      split
      · exact x.crew.history.grows_close
      · exact .refl _
  | wait =>
    rw [next?, wait?] at h
    split at h <;> cases h
    exact .refl _

/-- **The past of a course is the beginning of the past of a later one.** -/
theorem grows_run? {moves : List (Move ρ M)} (h : x.run? moves = some y) :
    x.crew.history.Grows y.crew.history := by
  induction moves generalizing x with
  | nil =>
    cases h
    exact .refl _
  | cons move moves ih =>
    rw [Course.run?] at h
    split at h
    · cases h
    · rename_i z hz
      exact (grows_next? hz).trans (ih h)

/-! ## 5.  The program's stop -/

/-- One course leads to another. -/
def Leads (x y : Course ρ η M) : Prop :=
  ∃ moves, x.run? moves = some y

theorem Leads.cons (move : Move ρ M) (h : x.next? move = some y) (k : Leads y z) : Leads x z := by
  obtain ⟨moves, hm⟩ := k
  refine ⟨move :: moves, ?_⟩
  rw [run?, h]
  exact hm

theorem Leads.trans (h : Leads x y) (k : Leads y z) : Leads x z := by
  obtain ⟨moves, hm⟩ := h
  induction moves generalizing x with
  | nil =>
    cases hm
    exact k
  | cons move moves ih =>
    rw [run?] at hm
    split at hm
    · cases hm
    · rename_i u hu
      exact .cons move hu (ih hm)

/-- One course leads to another while the stop gets no further. -/
structure Meanwhile (x y : Course ρ η M) : Prop where
  leads : Leads x y
  closing : y.closing = x.closing
  waiting : y.waiting = x.waiting
  verdict : y.verdict = x.verdict
  outcomes : y.outcomes = x.outcomes

/-- Pools are closed like in the program. -/
theorem exists_closed (progress : Executor → Receiver ρ η → Receiver ρ η) {ks : List Executor}
    (hk : x.closing = ks) :
    ∃ y, Leads x y ∧ y.receiver = (Drain.closeAll (drainable progress) ks x.receiver).1 ∧
      y.closing = [] ∧ y.waiting = x.waiting ∧ y.verdict = x.verdict ∧
        y.outcomes = x.outcomes := by
  induction ks generalizing x with
  | nil => exact ⟨x, ⟨[], rfl⟩, rfl, hk, rfl, rfl, rfl⟩
  | cons k ks ih =>
    have hnext : x.next? .close = some (x.closed k ks) := by rw [next?, close?, hk]
    obtain ⟨y, hlead, hrest⟩ := ih (x := x.closed k ks) rfl
    exact ⟨y, .cons .close hnext hlead, hrest⟩

theorem Sound.leads (hs : Sound threads capacity x) (h : Leads x y) : Sound threads capacity y := by
  obtain ⟨moves, hm⟩ := h
  exact hs.run? hm

/-- Something happens, and then the wait for a pool ends. -/
theorem Meanwhile.exists_waited (h : Meanwhile x y) (hc : x.closing = []) {k : Executor}
    {ks : List Executor} (hw : x.waiting = k :: ks) :
    ∃ z, Leads x z ∧ z.receiver = y.receiver ∧ z.closing = [] ∧ z.waiting = ks ∧
      z.verdict = verdictOf x.verdict k y.receiver ∧
        z.outcomes = x.outcomes ++ if ks.isEmpty then [z.verdict] else [] := by
  have hnext : y.next? .wait = some (y.waited k ks) := by
    rw [next?, wait?, h.closing, hc, h.waiting, hw]
  refine ⟨y.waited k ks, h.leads.trans (.cons .wait hnext ⟨[], rfl⟩), rfl, h.closing.trans hc, rfl,
    ?_, ?_⟩
  · rw [← h.verdict]
    rfl
  · rw [← h.outcomes]
    rfl

/-- Pools are waited for like in the program. -/
theorem Sound.exists_waited (hs : Sound threads capacity x)
    {progress : Executor → Receiver ρ η → Receiver ρ η}
    (hp : ∀ k (y : Course ρ η M), Sound threads capacity y →
      ∃ z, Meanwhile y z ∧ z.receiver = progress k y.receiver)
    (grace : Nat) (hc : x.closing = []) {k : Executor} {ks : List Executor}
    (hw : x.waiting = k :: ks) :
    ∃ y, Leads x y ∧
      y.receiver =
        (Drain.waitAll (drainable progress) grace x.verdict (k :: ks) x.receiver).1 ∧
      y.outcomes = x.outcomes ++
        [(Drain.waitAll (drainable progress) grace x.verdict (k :: ks) x.receiver).2.2] := by
  induction ks generalizing x k with
  | nil =>
    obtain ⟨u, hu, hr⟩ := hp k x hs
    obtain ⟨y, hlead, hry, -, -, hv, ho⟩ := hu.exists_waited hc hw
    refine ⟨y, hlead, hry.trans hr, ?_⟩
    rw [ho, hv, hr]
    rfl
  | cons l ks ih =>
    obtain ⟨u, hu, hr⟩ := hp k x hs
    obtain ⟨y, hlead, hry, hcy, hwy, hv, ho⟩ := hu.exists_waited hc hw
    obtain ⟨z, hleadz, hrz, hoz⟩ := ih (hs.leads hlead) hcy hwy
    rw [hv, hry, hr] at hrz hoz
    refine ⟨z, hlead.trans hleadz, hrz, ?_⟩
    rw [hoz, ho]
    exact congrArg (· ++ _) (List.append_nil _)

/-- **The program's stop is a course.**  Whatever happens while the stop waits for a pool
(`progress`), when it happens by moves of a course then so does the whole stop: the course ends
with the receiver that the stop ends with, and has reported the same outcome. -/
theorem Sound.exists_stopped (hs : Sound threads capacity x)
    {progress : Executor → Receiver ρ η → Receiver ρ η}
    (hp : ∀ k (y : Course ρ η M), Sound threads capacity y →
      ∃ z, Meanwhile y z ∧ z.receiver = progress k y.receiver) :
    ∃ y, Leads x y ∧ y.receiver = (x.receiver.stop progress).1 ∧
      y.outcomes = x.outcomes ++ [(x.receiver.stop progress).2.2] := by
  by_cases hstopped : x.receiver.isStopped = true
  · have hnext : x.next? .stop =
        some { x with outcomes := x.outcomes ++ [.alreadyStopped] } := by
      rw [Course.next?, Course.stop, if_pos hstopped]
    refine ⟨_, .cons .stop hnext ⟨[], rfl⟩, ?_, ?_⟩ <;> rw [Receiver.stop, if_pos hstopped]
  · have hu : x.stop =
        { x with
          receiver := { x.receiver with isStopped := true }
          closing := x.receiver.executors.filterMap id
          waiting := x.receiver.executors.filterMap id
          verdict := .drained } := by
      rw [Course.stop, if_neg hstopped]
    obtain ⟨k, ks, hks⟩ : ∃ k ks, x.receiver.executors.filterMap id = k :: ks :=
      ⟨.dispatch, _, rfl⟩
    have hclosing : x.stop.closing = k :: ks := by rw [hu, ← hks]
    have hwaiting : x.stop.waiting = k :: ks := by rw [hu, ← hks]
    obtain ⟨y, hy, hry, hcy, hwy, hvy, hoy⟩ := exists_closed progress hclosing
    obtain ⟨z, hz, hrz, hoz⟩ :=
      (hs.stop.leads hy).exists_waited hp x.receiver.grace hcy (hwy.trans hwaiting)
    rw [hry, hvy, hu] at hrz hoz
    rw [hoy, hu] at hoz
    rw [Receiver.stop, if_neg hstopped, Drain.shutdown, hks]
    exact ⟨z, .cons .stop rfl (hy.trans hz), hrz, hoz⟩

end Course

end Receiver

end AgentIntake
