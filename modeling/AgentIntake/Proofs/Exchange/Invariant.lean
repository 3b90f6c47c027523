import AgentIntake.Proofs.Exchange.Parts
import AgentIntake.Proofs.Pool.Fate

/-!
# What holds of an exchange at every moment

`Sound` is the invariant of an exchange, and `Sound.run?` says that it holds however readers and
workers take turns.  It has four parts.

* The pool's own history is sound, and the program's pool is its pool without the numbers.
* What a connection's reader has done and has still to do is a path of the connection's automaton,
  from the beginning to where the connection is now (`Heard`).
* There is one job for each task that was started, and what was done for it and what is still to be
  done are together what the dispatch of its packet is.
* The frames on a stream are those of its connection's reader and those of the jobs that answer it,
  in some order; the first of them is the reader's first.

## Why the order on a stream is not part of it

A worker may answer a request before or after the reader writes a pong, and which of two workers
comes first nobody knows.  So frames are counted (`wire_perm`), and of their order only the
beginning is known (`head_eq`): a reader hands on a request only when it has written the answer to
the handshake.
-/

namespace AgentIntake.Exchange

variable {η M : Type}

/-! ## 1.  Connections -/

/-- What is known of a connection by its number: where it comes from if it was let in, what is
served under the number, and all that was heard of it.  A number that was given belongs to a
connection from this address, which is where its automaton says or has ended; no answer of the
connection's own is left out. -/
inductive Heard (written : Nat → Option TransportError) :
    Option SocketAddress → Option Connection → List Connection.Effect → Prop where
  | unknown : Heard written none none []
  | known {remote : SocketAddress} {c : Option Connection} {effects : List Connection.Effect}
    {t : Connection.Stage} (path : Connection.Stage.Path remote .fresh effects t)
    (whole : t.due = [])
    (agrees : ∀ d, c = some d → d.remote = remote ∧ d.stage = t ∧ d.isClosed = false)
    (fails : ∀ frame failure, .write frame failure ∈ effects → ∃ n, failure = written n) :
    Heard written (some remote) c effects

theorem Heard.or_eq {written : Nat → Option TransportError} {r : Option SocketAddress}
    {c : Option Connection} {effects : List Connection.Effect} (h : Heard written r c effects) :
    (c.map (·.remote)).or r = r := by
  cases h with
  | unknown => rfl
  | known _ _ agrees =>
    cases c with
    | none => rfl
    | some d => exact congrArg some (agrees d rfl).1

theorem Heard.eq_none {written : Nat → Option TransportError} {c : Option Connection}
    {effects : List Connection.Effect} (h : Heard written none c effects) : c = none := by
  cases h
  rfl

theorem Heard.exists_path {written : Nat → Option TransportError} {r : Option SocketAddress}
    {c : Option Connection} {effects : List Connection.Effect} (h : Heard written r c effects) :
    effects = [] ∨
      ∃ remote t, r = some remote ∧ Connection.Stage.Path remote .fresh effects t ∧ t.due = [] := by
  cases h with
  | unknown => exact .inl rfl
  | known path whole => exact .inr ⟨_, _, rfl, path, whole⟩

/-- A connection that is served comes from the address that is known, and it is open. -/
theorem Heard.served {written : Nat → Option TransportError} {r : Option SocketAddress}
    {c : Connection} {effects : List Connection.Effect} (h : Heard written r (some c) effects) :
    r = some c.remote ∧ c.isClosed = false := by
  cases h with
  | known _ _ agrees =>
    obtain ⟨rfl, -, hopen⟩ := agrees c rfl
    exact ⟨rfl, hopen⟩

/-- Its writes fail as they are said to. -/
theorem Heard.exists_written {written : Nat → Option TransportError} {r : Option SocketAddress}
    {c : Option Connection} {effects : List Connection.Effect} (h : Heard written r c effects)
    {frame : Frame} {failure : Option TransportError} (hm : .write frame failure ∈ effects) :
    ∃ n, failure = written n := by
  cases h with
  | unknown => cases hm
  | known _ _ _ fails => exact fails frame failure hm

/-- What an event means for a connection is heard of it. -/
theorem Heard.share {written : Nat → Option TransportError} {r : Option SocketAddress}
    {t u : Traffic η} {id : Nat} {effects more : List Connection.Effect}
    (h : Heard written r (t.connection? id) effects) (k : Traffic.Share written t u id more)
    (hr : t.acceptor.nextId = id → r = none) :
    Heard written (((u.connection? id).map (·.remote)).or r) (u.connection? id)
      (effects ++ more) := by
  cases k with
  | nothing same => rwa [same, List.append_nil, h.or_eq]
  | opened remote new _ serves =>
    rw [hr new] at h ⊢
    generalize t.connection? id = c at h
    cases h
    rw [serves]
    refine .known Connection.Stage.Next.connected.path rfl ?_ fun _ _ hm => ?_
    · rintro d ⟨⟩
      exact ⟨rfl, rfl, rfl⟩
    · simp [Connection.openEffects] at hm
  | @followed c d _ was follows serves =>
    rw [was] at h
    cases h with
    | known path _ agrees fails =>
      obtain ⟨rfl, rfl, -⟩ := agrees c rfl
      have hd : ∀ e, u.connection? id = some e → e = d ∧ d.isClosed = false := by
        intro e he
        rw [serves] at he
        split at he
        · cases he
        · rename_i hopen
          exact ⟨(Option.some.inj he).symm, Bool.eq_false_iff.2 hopen⟩
      have hk : Heard written (some c.remote) (u.connection? id) (effects ++ more) := by
        refine .known (path.append follows.path) (Connection.due_stage d) (fun e he => ?_)
          fun frame failure hm => ?_
        · obtain ⟨rfl, hopen⟩ := hd e he
          exact ⟨follows.remote_eq, rfl, hopen⟩
        · rcases List.mem_append.1 hm with hm | hm
          · exact fails frame failure hm
          · exact follows.exists_written frame failure hm
      rwa [hk.or_eq]

/-- A connection keeps the address that is known. -/
theorem Heard.remote_eq {written : Nat → Option TransportError} {remote : SocketAddress}
    {t u : Traffic η} {id : Nat} {effects more : List Connection.Effect}
    (h : Heard written (some remote) (t.connection? id) effects)
    (k : Traffic.Share written t u id more) (hr : t.acceptor.nextId ≠ id) :
    ((u.connection? id).map (·.remote)).or (some remote) = some remote := by
  cases k with
  | nothing same => rw [same, h.or_eq]
  | opened _ new => exact absurd new hr
  | followed was follows serves =>
    rw [was] at h
    rw [serves]
    split
    · rfl
    · exact (congrArg some follows.remote_eq).trans h.served.1.symm

/-! ## 2.  Frames on a stream -/

/-- A member of a list that grows adds to what the list gives. -/
theorem flatMap_perm_of_grown {α β : Type} {f : α → List β} {before after : List α} {a b : α}
    {more : List β} (h : f b = f a ++ more) :
    ((before ++ b :: after).flatMap f).Perm ((before ++ a :: after).flatMap f ++ more) := by
  rw [List.flatMap_append, List.flatMap_append, List.flatMap_cons, List.flatMap_cons, h,
    List.append_assoc, List.append_assoc, List.append_assoc]
  exact ((List.perm_append_comm).append_left _).append_left _

theorem head?_append_congr {α : Type} {l m : List α} (h : l.head? = m.head?) (more : List α) :
    (l ++ more).head? = (m ++ more).head? := by
  rw [List.head?_append, List.head?_append, h]

theorem head?_append_eq {α : Type} {l m : List α} (h : l.head? = m.head?) (hm : m ≠ [])
    (more : List α) :
    (l ++ more).head? = m.head? := by
  rw [List.head?_append, h]
  cases m with
  | nil => exact absurd rfl hm
  | cons a m => rfl

/-! ## 3.  The invariant -/

/-- What holds of an exchange at every moment.

The history of the pool is sound (`history`).  The program's pool is the pool of the history
(`dispatch_eq`).  The next number was not given yet, and neither were those after it (`unknown`).
What is known of each connection (`heard`).  The requests of a connection were submitted in the
order in which they were handed on (`submitted`).  There is a job for each task that was started
(`tickets`).  What was done for a task and what is still to be done is the dispatch of its packet
(`work`).  Nothing is still to be done for a task that has finished (`settled`).  The frames on a
stream are its reader's and those of the jobs (`wire_perm`).  The first is the reader's first
(`head_eq`). -/
structure Sound (w : Setting M) (threads capacity : Nat) (x : Exchange η M) : Prop where
  history : x.history.Sound threads capacity
  dispatch_eq : x.intake.receiver.dispatch = x.history.pool.map Prod.fst
  unknown : ∀ id, x.intake.traffic.acceptor.nextId ≤ id → x.remote id = none
  heard : ∀ id,
    Heard (w.written id) (x.remote id) (x.intake.traffic.connection? id) (x.seen id ++ x.due id)
  submitted : ∀ id,
    x.history.submitted.filterMap (Delivery.requestOn? id) = Connection.requests (x.seen id)
  tickets : x.jobs.map Job.ticket = x.history.started
  work : ∀ j ∈ x.jobs,
    j.done ++ j.ahead.effects =
      (Intake.dispatchWork w.codec j.handler w.reply j.ticket.1).effects
  settled : ∀ t ∈ x.history.finished, ∀ j ∈ x.jobs, j.ticket = t.1 → j.ahead = []
  wire_perm : ∀ id,
    (x.wire id).Perm (Connection.frames (x.seen id) ++ x.jobs.flatMap (Job.frames id))
  head_eq : ∀ id, (x.wire id).head? = (Connection.frames (x.seen id)).head?

variable {w : Setting M} {threads capacity : Nat} {x y : Exchange η M}

/-- The intake may change in ways that concern neither its pool nor its connections. -/
theorem Sound.of_intake (hs : Sound w threads capacity x) {n : Intake η}
    (hd : n.receiver.dispatch = x.intake.receiver.dispatch)
    (hn : n.traffic.acceptor.nextId = x.intake.traffic.acceptor.nextId)
    (hc : ∀ id, n.traffic.connection? id = x.intake.traffic.connection? id) :
    Sound w threads capacity { x with intake := n } :=
  { hs with
    dispatch_eq := hd.trans hs.dispatch_eq
    unknown := fun id hi => hs.unknown id (hn ▸ hi)
    heard := fun id => by
      rw [hc id]
      exact hs.heard id }

/-- What a reader has done is a path of its connection's automaton. -/
theorem Sound.path_seen (hs : Sound w threads capacity x) (id : Nat) :
    x.seen id = [] ∨
      ∃ remote t, x.remote id = some remote ∧
        Connection.Stage.Path remote .fresh (x.seen id) t := by
  rcases (hs.heard id).exists_path with he | ⟨remote, u, hr, hp, -⟩
  · exact .inl (List.append_eq_nil_iff.1 he).1
  · obtain ⟨t, ht, -⟩ := hp.split
    exact .inr ⟨remote, t, hr, ht⟩

/-- A reader that has handed on a request has written a frame. -/
theorem Sound.frames_ne_nil (hs : Sound w threads capacity x) {id : Nat}
    (h : Connection.requests (x.seen id) ≠ []) : Connection.frames (x.seen id) ≠ [] := by
  intro hf
  rcases hs.path_seen id with hn | ⟨remote, t, -, ht⟩
  · rw [hn] at h
    exact h rfl
  · exact h (Connection.Stage.requests_eq_nil_of_frames ht hf)

/-- A task that was started was accepted. -/
theorem Sound.mem_accepted (hs : Sound w threads capacity x) {j : Job M} (hj : j ∈ x.jobs) :
    j.ticket ∈ x.history.accepted :=
  hs.history.started_subset (hs.tickets ▸ List.mem_map_of_mem hj)

/-- No task was started twice. -/
theorem Sound.nodup_jobs (hs : Sound w threads capacity x) : (x.jobs.map (·.ticket.2)).Nodup := by
  have h := hs.history.nodup_started
  rwa [← hs.tickets, List.map_map] at h

/-- A task that was started was submitted. -/
theorem Sound.mem_submitted (hs : Sound w threads capacity x) {j : Job M} (hj : j ∈ x.jobs) :
    j.ticket.1 ∈ x.history.submitted := by
  have hz := hs.history.numbered.subset (List.mem_append_left _ (hs.mem_accepted hj))
  exact List.mem_of_getElem? (List.mem_zipIdx_iff_getElem?.1 hz)

/-- **A stream that a job writes to is not empty.** -/
theorem Sound.frames_ne_nil_of_job (hs : Sound w threads capacity x) {j : Job M} (hj : j ∈ x.jobs)
    {e : Intake.Effect M} (he : e ∈ j.done ++ j.ahead.effects) {id : Nat} {frame : Frame}
    (hf : e.frameOn? id = some frame) : Connection.frames (x.seen id) ≠ [] := by
  rw [hs.work j hj] at he
  obtain ⟨packet, hp, hc⟩ := Intake.exists_request_of_frameOn? _ _ _ he hf
  refine hs.frames_ne_nil ?_
  rw [← hs.submitted id]
  have hq : j.ticket.1.requestOn? id = some (packet.reply.request, packet.payload) := by
    rw [hp]
    exact if_pos hc
  exact List.ne_nil_of_mem (List.mem_filterMap.2 ⟨_, hs.mem_submitted hj, hq⟩)

/-! ## 4.  Readers -/

/-- Nothing is served under the next number. -/
theorem Sound.next_free (hs : Sound w threads capacity x) :
    x.intake.traffic.connection? x.intake.traffic.acceptor.nextId = none := by
  have h := hs.heard x.intake.traffic.acceptor.nextId
  rw [hs.unknown _ (Nat.le_refl _)] at h
  exact h.eq_none

theorem Sound.hear (hs : Sound w threads capacity x) (event : TrafficEvent) :
    Sound w threads capacity (x.hear w event) := by
  have hshare : ∀ id, Traffic.Share (w.written id) x.intake.traffic
      (x.intake.traffic.next w.written event).1 id
      (Traffic.about id (x.intake.traffic.next w.written event).2) :=
    fun _ => Traffic.share_next w.written hs.next_free event
  have hheard : ∀ id, Heard (w.written id) ((x.hear w event).remote id)
      ((x.hear w event).intake.traffic.connection? id)
      ((x.hear w event).seen id ++ (x.hear w event).due id) := by
    intro id
    have h := (hs.heard id).share (hshare id) fun hi => hs.unknown id (Nat.le_of_eq hi)
    rwa [List.append_assoc] at h
  exact
    { hs with
      unknown := fun id hi => by
        have hle := Nat.le_trans (Traffic.nextId_le_next w.written x.intake.traffic event) hi
        have h := hs.heard id
        rw [hs.unknown id hle] at h
        show (Option.map _ _).or (x.remote id) = none
        rw [hs.unknown id hle, Option.or_none]
        exact congrArg _ ((hshare id).eq_none h.eq_none hi)
      heard := hheard }

theorem perform?_cases {id : Nat} {stamp : UInt64} {sink : Sink}
    (h : x.perform? id stamp sink = some y) :
    ∃ remote effect rest, x.remote id = some remote ∧ x.due id = effect :: rest ∧
      y =
        { x with
          intake :=
            { x.intake with
              receiver :=
                (Intake.listen (M := M) x.intake.receiver stamp sink id remote effect).1 }
          due := fun k => if k = id then rest else x.due k
          seen := fun k => if k = id then x.seen id ++ [effect] else x.seen k
          wire := fun k =>
            x.wire k ++ (Intake.Effect.frameOn? (M := M) k (.traffic (.of id effect))).toList
          history := ((effect.delivery? id remote).map x.history.submit).getD x.history } := by
  unfold perform? at h
  split at h
  · rename_i remote effect rest hr hd
    exact ⟨remote, effect, rest, hr, hd, (Option.some.inj h).symm⟩
  · cases h

/-- The task that an effect hands on is the request that the effect is. -/
theorem requestOn?_delivery? (k id : Nat) (remote : SocketAddress) (effect : Connection.Effect) :
    (effect.delivery? id remote).bind (Delivery.requestOn? k) =
      if id = k then effect.request? else none := by
  cases effect with
  | request request payload => rfl
  | send packet => exact (ite_self none).symm
  | told | handshake | ping | write | logged => exact (ite_self none).symm

/-- The history of a pool to which one task may have been submitted. -/
theorem submitted_getD (h : Pool.History (Delivery ReplyTo)) (task : Option (Delivery ReplyTo)) :
    ((task.map h.submit).getD h).submitted = h.submitted ++ task.toList ∧
      ((task.map h.submit).getD h).started = h.started ∧
        ((task.map h.submit).getD h).finished = h.finished := by
  cases task with
  | none => exact ⟨(List.append_nil _).symm, rfl, rfl⟩
  | some delivery => exact h.past_submit delivery

/-- The requests that an effect leads to, on each connection. -/
theorem filterMap_delivery? (k id : Nat) (remote : SocketAddress) (effect : Connection.Effect) :
    (effect.delivery? id remote).toList.filterMap (Delivery.requestOn? k) =
      if id = k then effect.request?.toList else [] := by
  have ht : (effect.delivery? id remote).toList.filterMap (Delivery.requestOn? k) =
      ((effect.delivery? id remote).bind (Delivery.requestOn? k)).toList := by
    cases effect.delivery? id remote with
    | none => rfl
    | some delivery => exact filterMap_singleton _ delivery
  rw [ht, requestOn?_delivery?]
  by_cases h : id = k
  · rw [if_pos h, if_pos h]
  · rw [if_neg h, if_neg h]
    rfl

/-- The frames that an effect puts on each connection. -/
theorem toList_frameOn? (k id : Nat) (effect : Connection.Effect) :
    (Intake.Effect.frameOn? (M := M) k (.traffic (.of id effect))).toList =
      if id = k then effect.written?.toList else [] := by
  rw [Intake.frameOn?_traffic]
  by_cases h : id = k
  · rw [if_pos h, if_pos h]
  · rw [if_neg h, if_neg h]
    rfl

theorem Sound.perform? (hs : Sound w threads capacity x) {id : Nat} {stamp : UInt64} {sink : Sink}
    (h : x.perform? id stamp sink = some y) : Sound w threads capacity y := by
  obtain ⟨remote, effect, rest, hr, hd, rfl⟩ := perform?_cases h
  clear h
  obtain ⟨hsubmitted, hstarted, hfinished⟩ :=
    submitted_getD x.history (effect.delivery? id remote)
  -- on another connection all is as before, so each part is looked at twice
  exact
    { hs with
      history := by
        cases effect.delivery? id remote with
        | none => exact hs.history
        | some delivery => exact hs.history.submit delivery
      dispatch_eq := Intake.dispatch_listen hs.dispatch_eq stamp sink id remote effect
      heard := fun k => by
        have h := hs.heard k
        by_cases hk : k = id
        · subst hk
          rw [hd] at h
          simpa using h
        · simpa [hk] using h
      submitted := fun k => by
        rw [hsubmitted, List.filterMap_append, hs.submitted k, filterMap_delivery?]
        by_cases hk : k = id
        · subst hk
          simp
        · simp [hk, Ne.symm hk]
      tickets := hs.tickets.trans hstarted.symm
      settled := fun t ht => hs.settled t (hfinished ▸ ht)
      wire_perm := fun k => by
        have h := hs.wire_perm k
        dsimp only
        rw [toList_frameOn?]
        by_cases hk : k = id
        · subst hk
          simp only [if_true, Connection.frames_append, Connection.frames_singleton]
          refine (h.append_right _).trans ?_
          rw [List.append_assoc, List.append_assoc]
          exact (List.perm_append_comm).append_left _
        · simpa [hk, Ne.symm hk] using h
      head_eq := fun k => by
        have h := hs.head_eq k
        dsimp only
        rw [toList_frameOn?]
        by_cases hk : k = id
        · subst hk
          simp only [if_true, Connection.frames_append, Connection.frames_singleton]
          exact head?_append_congr h _
        · simpa [hk, Ne.symm hk] using h }

/-! ## 5.  Workers

The program's pool and that of the history do the same, so each of these moves is one of the
history. -/

section Workers

variable {worker : Nat}

theorem take?_cases (hd : x.intake.receiver.dispatch = x.history.pool.map Prod.fst)
    {handler : Handler M} (h : x.take? w worker handler = some y) :
    ∃ ticket pool, x.history.pool.take? worker = some (ticket, pool) ∧
      y =
        { x with
          intake := withDispatch x.intake (pool.map Prod.fst)
          history := { x.history with pool := pool, started := x.history.started ++ [ticket] }
          jobs :=
            x.jobs ++
              [⟨ticket, handler, [],
                Intake.dispatchWork w.codec handler w.reply ticket.1⟩] } := by
  unfold take? at h
  rw [hd, Pool.take?_map] at h
  cases ht : x.history.pool.take? worker with
  | none =>
    rw [ht] at h
    cases h
  | some result =>
    rw [Pool.History.next?, ht] at h
    exact ⟨result.1, result.2, rfl, (Option.some.inj h).symm⟩

theorem Sound.take? (hs : Sound w threads capacity x) {handler : Handler M}
    (h : x.take? w worker handler = some y) : Sound w threads capacity y := by
  obtain ⟨ticket, pool, ht, rfl⟩ := take?_cases hs.dispatch_eq h
  have hnext : x.history.next? (.take worker) =
      some { x.history with pool := pool, started := x.history.started ++ [ticket] } := by
    rw [Pool.History.next?, ht]
    rfl
  have hnew : ticket ∉ x.history.started := by
    obtain ⟨-, -, queue, -, -, hq, -⟩ := Pool.take?_cases ht
    exact hs.history.not_mem_started (hq ▸ List.mem_cons_self)
  exact
    { hs with
      history := hs.history.next? hnext
      dispatch_eq := rfl
      tickets := by
        rw [List.map_append, hs.tickets]
        rfl
      work := fun j hj => by
        rcases List.mem_append.1 hj with hj | hj
        · exact hs.work j hj
        · rw [List.mem_singleton.1 hj]
          rfl
      settled := fun t hf j hj hjt => by
        rcases List.mem_append.1 hj with hj | hj
        · exact hs.settled t hf j hj hjt
        · rw [List.mem_singleton.1 hj] at hjt
          exact absurd (hs.history.mem_started hf) (hjt ▸ hnew)
      wire_perm := fun id => by
        rw [List.flatMap_append]
        simpa [Job.frames] using hs.wire_perm id }

theorem act?_cases {job : Nat} (h : x.act? job = some y) :
    ∃ before j k after effect, x.jobs = before ++ j :: after ∧ j.next? = some (k, effect) ∧
      y =
        { x with
          wire := fun id => x.wire id ++ (effect.bind (·.frameOn? id)).toList
          jobs := before ++ k :: after } := by
  unfold act? at h
  cases hj : x.jobs[job]? with
  | none =>
    rw [hj] at h
    cases h
  | some j =>
    rw [hj] at h
    obtain ⟨before, after, -, hb, hset⟩ := Pool.exists_split_of_getElem? hj
    cases hn : j.next? with
    | none =>
      simp [hn] at h
    | some result =>
      obtain ⟨k, effect⟩ := result
      simp only [hn, Option.bind_eq_bind, Option.bind_some, hset] at h
      exact ⟨before, j, k, after, effect, hb, hn, (Option.some.inj h).symm⟩

theorem Sound.act? (hs : Sound w threads capacity x) {job : Nat} (h : x.act? job = some y) :
    Sound w threads capacity y := by
  obtain ⟨before, j, k, after, effect, hb, hn, rfl⟩ := act?_cases h
  obtain ⟨hticket, hhandler, hdone, hahead, hne⟩ := Job.next?_cases hn
  have hj : j ∈ x.jobs := hb ▸ List.mem_append_right _ List.mem_cons_self
  have hframes : ∀ id, k.frames id = j.frames id ++ (effect.bind (·.frameOn? id)).toList := by
    intro id
    rw [Job.frames, hdone, List.filterMap_append]
    cases effect with
    | none => rfl
    | some e => exact congrArg _ (filterMap_singleton _ e)
  -- what holds of the other jobs holds still
  have hothers : ∀ {P : Job M → Prop}, (∀ i ∈ x.jobs, P i) → P k →
      ∀ i ∈ before ++ k :: after, P i := by
    intro P hP hk i hi
    rcases List.mem_append.1 hi with hi | hi
    · exact hP i (hb ▸ List.mem_append_left _ hi)
    · rcases List.mem_cons.1 hi with rfl | hi
      · exact hk
      · exact hP i (hb ▸ List.mem_append_right _ (List.mem_cons_of_mem _ hi))
  exact
    { hs with
      tickets := by
        rw [← hs.tickets, hb, List.map_append, List.map_append, List.map_cons,
          List.map_cons, hticket]
      work := by
        refine hothers hs.work ?_
        rw [hticket, hhandler, ← hs.work j hj, hdone, hahead, List.append_assoc]
      settled := fun t ht =>
        hothers (P := fun i => i.ticket = t.1 → i.ahead = []) (hs.settled t ht) fun hk =>
          absurd (hs.settled t ht j hj (hticket.symm.trans hk)) hne
      wire_perm := fun id => by
        refine ((hs.wire_perm id).append_right _).trans ?_
        rw [List.append_assoc, hb]
        exact (flatMap_perm_of_grown (hframes id)).symm.append_left _
      head_eq := fun id => by
        cases hf : effect.bind (·.frameOn? id) with
        | none => simpa [hf] using hs.head_eq id
        | some frame =>
          obtain ⟨e, rfl, he⟩ := Option.bind_eq_some_iff.1 hf
          have hm : e ∈ j.done ++ j.ahead.effects := by
            rw [hahead]
            exact List.mem_append_right _ List.mem_cons_self
          exact head?_append_eq (hs.head_eq id) (hs.frames_ne_nil_of_job hj hm he) _ }

theorem finish?_cases (hd : x.intake.receiver.dispatch = x.history.pool.map Prod.fst)
    {ending : Pool.Ending} (h : x.finish? worker ending = some y) :
    ∃ ticket pool, x.history.pool.finish? worker = some (ticket, pool) ∧
      x.isDone ticket.2 = true ∧
      y =
        { x with
          intake := withDispatch x.intake (pool.map Prod.fst)
          history :=
            { x.history with
              pool := pool
              finished := x.history.finished ++ [(ticket, ending)] } } := by
  unfold finish? at h
  rw [hd, Pool.finish?_map] at h
  cases ht : x.history.pool.finish? worker with
  | none =>
    rw [ht] at h
    cases h
  | some result =>
    rw [Pool.History.next?, ht] at h
    by_cases hdone : x.isDone result.1.2 = true
    · have h : (if x.isDone result.1.2 = true then some _ else none) = some y := h
      rw [if_pos hdone] at h
      exact ⟨result.1, result.2, rfl, hdone, (Option.some.inj h).symm⟩
    · have h : (if x.isDone result.1.2 = true then some _ else none) = some y := h
      rw [if_neg hdone] at h
      cases h

theorem Sound.finish? (hs : Sound w threads capacity x) {ending : Pool.Ending}
    (h : x.finish? worker ending = some y) : Sound w threads capacity y := by
  obtain ⟨ticket, pool, ht, hdone, rfl⟩ := finish?_cases hs.dispatch_eq h
  have hnext : x.history.next? (.finish worker ending) =
      some
        { x.history with
          pool := pool
          finished := x.history.finished ++ [(ticket, ending)] } := by
    rw [Pool.History.next?, ht]
    rfl
  exact
    { hs with
      history := hs.history.next? hnext
      dispatch_eq := rfl
      settled := fun t ht j hj hjt => by
        rcases List.mem_append.1 ht with ht | ht
        · exact hs.settled t ht j hj hjt
        · rw [List.mem_singleton.1 ht] at hjt
          have hd := List.all_eq_true.1 hdone j hj
          simpa [hjt] using hd }

theorem leave?_cases (hd : x.intake.receiver.dispatch = x.history.pool.map Prod.fst)
    (h : x.leave? worker = some y) :
    ∃ pool, x.history.pool.leave? worker = some pool ∧
      y =
        { x with
          intake := withDispatch x.intake (pool.map Prod.fst)
          history := { x.history with pool := pool } } := by
  unfold leave? at h
  rw [hd, Pool.leave?_map] at h
  cases ht : x.history.pool.leave? worker with
  | none =>
    rw [ht] at h
    cases h
  | some pool =>
    rw [Pool.History.next?, ht] at h
    exact ⟨pool, rfl, (Option.some.inj h).symm⟩

theorem Sound.leave? (hs : Sound w threads capacity x) (h : x.leave? worker = some y) :
    Sound w threads capacity y := by
  obtain ⟨pool, ht, rfl⟩ := leave?_cases hs.dispatch_eq h
  have hnext : x.history.next? (.leave worker) = some { x.history with pool := pool } := by
    rw [Pool.History.next?, ht]
    rfl
  exact { hs with history := hs.history.next? hnext, dispatch_eq := rfl }

end Workers

/-! ## 6.  Runs -/

theorem Sound.next? (hs : Sound w threads capacity x) {move : Move M}
    (h : x.next? w move = some y) : Sound w threads capacity y := by
  cases move with
  | start network =>
    cases h
    exact hs.of_intake (Intake.dispatch_start network _) (Intake.nextId_start network _) fun id =>
      Intake.connection?_start network _ id
  | hear event =>
    cases h
    exact hs.hear event
  | perform id stamp sink => exact hs.perform? h
  | take worker handler => exact hs.take? h
  | act job => exact hs.act? h
  | finish worker ending => exact hs.finish? h
  | leave worker => exact hs.leave? h
  | close =>
    cases h
    have hnext : x.history.next? .close =
        some { x.history with pool := x.history.pool.close } := rfl
    exact
      { hs with
        history := hs.history.next? hnext
        dispatch_eq := congrArg Pool.close hs.dispatch_eq }
  | liveness events =>
    cases h
    exact hs.of_intake rfl rfl fun _ => rfl

/-- **The invariant holds however readers and workers take turns.** -/
theorem Sound.run? (hs : Sound w threads capacity x) {moves : List (Move M)}
    (h : x.run? w moves = some y) : Sound w threads capacity y := by
  induction moves generalizing x with
  | nil =>
    cases h
    exact hs
  | cons move moves ih =>
    rw [Exchange.run?] at h
    split at h
    · cases h
    · rename_i z hz
      exact ih (hs.next? hz) h

/-- The pool of an intake as it is made. -/
theorem dispatch_of_make? {config : Config} {cluster : Option η} {observers : List η} {grace : Nat}
    {network : Acceptor.Network} {acceptor : Acceptor η} {n : Intake η}
    {effects : List (Intake.Effect M)}
    (h : Intake.make? config cluster observers grace network acceptor = .ok (n, effects)) :
    Pool.make? Receiver.dispatchPoolName config.workerThreads.toNat config.workerQueueSize.toNat =
        .ok n.receiver.dispatch ∧
      n.traffic.served = [] := by
  unfold Intake.make? Receiver.make? at h
  cases hi : config.invalid? with
  | some e =>
    rw [hi] at h
    cases h
  | none =>
    rw [hi] at h
    cases hp : Pool.make? (α := Delivery ReplyTo) Receiver.dispatchPoolName
        config.workerThreads.toNat config.workerQueueSize.toNat with
    | error e =>
      rw [hp] at h
      cases h
    | ok dispatch =>
      rw [hp] at h
      cases he : Receiver.eventPool? config with
      | error e =>
        rw [he] at h
        cases h
      | ok events =>
        rw [he] at h
        cases h
        exact ⟨rfl, rfl⟩

/-- **The invariant holds of an intake as it is made**, and its pool has a worker. -/
theorem sound_of (w : Setting M) {config : Config} {cluster : Option η} {observers : List η}
    {grace : Nat} {network : Acceptor.Network} {acceptor : Acceptor η} {n : Intake η}
    {effects : List (Intake.Effect M)}
    (h : Intake.make? config cluster observers grace network acceptor = .ok (n, effects)) :
    0 < n.receiver.dispatch.workers.length ∧
      Sound w n.receiver.dispatch.workers.length n.receiver.dispatch.capacity
        (of n : Exchange η M) := by
  obtain ⟨hp, hserved⟩ := dispatch_of_make? h
  unfold Pool.make? at hp
  split at hp
  · cases hp
  · rename_i ht
    split at hp
    · cases hp
    · have hd := (Except.ok.inj hp).symm
      have hw : n.receiver.dispatch.workers = List.replicate config.workerThreads.toNat .idle := by
        rw [hd]
      have hnone : ∀ id, n.traffic.connection? id = none := fun id => by
        rw [Traffic.connection?, hserved]
        rfl
      refine ⟨?_, ?_⟩
      · rw [hw, List.length_replicate]
        exact Nat.pos_of_ne_zero ht
      · exact
          { history := Pool.History.sound_start _ _ _
            dispatch_eq := by
              show n.receiver.dispatch = Pool.map Prod.fst (Pool.History.fresh _ _ _)
              rw [hd, Pool.map, Pool.History.fresh, List.map_replicate, List.length_replicate]
              rfl
            unknown := fun _ _ => rfl
            heard := fun id => by
              show Heard _ none (n.traffic.connection? id) []
              rw [hnone id]
              exact .unknown
            submitted := fun _ => rfl
            tickets := rfl
            work := fun _ hj => absurd hj List.not_mem_nil
            settled := fun _ ht => absurd ht List.not_mem_nil
            wire_perm := fun _ => .refl _
            head_eq := fun _ => rfl }

end AgentIntake.Exchange
