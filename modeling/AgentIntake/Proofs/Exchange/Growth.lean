import AgentIntake.Proofs.Exchange.Invariant
import Mathlib.Data.List.Infix

/-!
# The past of an exchange grows

What was heard, done, written or accepted stays so (`Sound.grows`).  A thing that a reader has to do
is known for good by its place among all that was heard on its connection, and a task by the number
of its submission.

And from every moment the workers can bring everything to an end that was accepted (`Sound.drains`):
there is never a task that waits for something that cannot happen.  This is not to say that they do
so; whether and when a worker gets on is not for the program to decide.
-/

namespace AgentIntake.Exchange

variable {η M : Type} {w : Setting M} {threads capacity : Nat} {x y z : Exchange η M}

/-! ## 1.  Runs -/

/-- One state leads to another. -/
def Leads (w : Setting M) (x y : Exchange η M) : Prop :=
  ∃ moves, x.run? w moves = some y

theorem Leads.refl (w : Setting M) (x : Exchange η M) : Leads w x x :=
  ⟨[], rfl⟩

theorem Leads.cons (move : Move M) (h : x.next? w move = some y) (k : Leads w y z) :
    Leads w x z := by
  obtain ⟨moves, hm⟩ := k
  refine ⟨move :: moves, ?_⟩
  rw [run?, h]
  exact hm

theorem Leads.trans (h : Leads w x y) (k : Leads w y z) : Leads w x z := by
  obtain ⟨moves, hm⟩ := h
  induction moves generalizing x with
  | nil =>
    cases hm
    exact k
  | cons move moves ih =>
    rw [run?] at hm
    split at hm
    · cases hm
    · rename_i u hu
      exact .cons move hu (ih hm)

theorem Leads.next (move : Move M) (h : x.next? w move = some y) : Leads w x y :=
  .cons move h (.refl w y)

theorem Sound.leads (hs : Sound w threads capacity x) (h : Leads w x y) :
    Sound w threads capacity y := by
  obtain ⟨moves, hm⟩ := h
  exact hs.run? hm

/-! ## 2.  Growth -/

/-- The past of the first is the beginning of the past of the second. -/
structure Grows (x y : Exchange η M) : Prop where
  remote : ∀ id r, x.remote id = some r → y.remote id = some r
  heard : ∀ id, x.seen id ++ x.due id <+: y.seen id ++ y.due id
  wire : ∀ id, x.wire id <+: y.wire id
  accepted : x.history.accepted <+: y.history.accepted

theorem Grows.refl (x : Exchange η M) : Grows x x :=
  ⟨fun _ _ h => h, fun _ => List.prefix_rfl, fun _ => List.prefix_rfl, List.prefix_rfl⟩

theorem Grows.trans (h : Grows x y) (k : Grows y z) : Grows x z where
  remote id r hr := k.remote id r (h.remote id r hr)
  heard id := (h.heard id).trans (k.heard id)
  wire id := (h.wire id).trans (k.wire id)
  accepted := h.accepted.trans k.accepted

theorem Sound.grows_hear (hs : Sound w threads capacity x) (event : TrafficEvent) :
    Grows x (x.hear w event) where
  remote id r hr := by
    have hnext : x.intake.traffic.acceptor.nextId ≠ id := by
      intro he
      rw [hs.unknown id (Nat.le_of_eq he)] at hr
      cases hr
    have h := hs.heard id
    rw [hr] at h
    show (Option.map _ _).or (x.remote id) = _
    rw [hr]
    exact h.remote_eq (Traffic.share_next w.written hs.next_free event) hnext
  heard id := by
    show _ <+: x.seen id ++ (x.due id ++ _)
    rw [← List.append_assoc]
    exact List.prefix_append _ _
  wire _ := List.prefix_rfl
  accepted := List.prefix_rfl

/-- A reader that does what is due does not change what was heard. -/
theorem heard_perform? {k : Nat} {stamp : UInt64} {sink : Sink}
    (h : x.perform? k stamp sink = some y) (id : Nat) :
    y.seen id ++ y.due id = x.seen id ++ x.due id := by
  obtain ⟨remote, effect, rest, -, hd, rfl⟩ := perform?_cases h
  dsimp only
  by_cases hk : id = k
  · subst hk
    rw [if_pos rfl, if_pos rfl, hd, List.append_assoc, List.singleton_append]
  · rw [if_neg hk, if_neg hk]

theorem grows_perform? {id : Nat} {stamp : UInt64} {sink : Sink}
    (h : x.perform? id stamp sink = some y) : Grows x y := by
  have hheard := heard_perform? h
  obtain ⟨remote, effect, rest, -, -, rfl⟩ := perform?_cases h
  exact
    { remote := fun _ _ hr => hr
      heard := fun k => hheard k ▸ List.prefix_rfl
      wire := fun _ => List.prefix_append _ _
      accepted := by
        dsimp only
        cases effect.delivery? id remote with
        | none => exact List.prefix_rfl
        | some delivery => exact (x.history.grows_submit delivery).accepted }

theorem Sound.grows_next? (hs : Sound w threads capacity x) {move : Move M}
    (h : x.next? w move = some y) : Grows x y := by
  cases move with
  | hear event =>
    cases h
    exact hs.grows_hear event
  | perform id stamp sink => exact grows_perform? h
  | take worker handler =>
    obtain ⟨-, -, -, rfl⟩ := take?_cases hs.dispatch_eq h
    exact { Grows.refl x with }
  | act job =>
    obtain ⟨-, -, -, -, -, -, -, rfl⟩ := act?_cases h
    exact { Grows.refl x with wire := fun _ => List.prefix_append _ _ }
  | finish worker ending =>
    obtain ⟨-, -, -, -, rfl⟩ := finish?_cases hs.dispatch_eq h
    exact { Grows.refl x with }
  | leave worker =>
    obtain ⟨-, -, rfl⟩ := leave?_cases hs.dispatch_eq h
    exact { Grows.refl x with }
  | start | close | liveness =>
    cases h
    exact { Grows.refl x with }

/-- **What has happened has happened for good.** -/
theorem Sound.grows (hs : Sound w threads capacity x) (h : Leads w x y) : Grows x y := by
  obtain ⟨moves, hm⟩ := h
  induction moves generalizing x with
  | nil =>
    cases hm
    exact .refl _
  | cons move moves ih =>
    rw [Exchange.run?] at hm
    split at hm
    · cases hm
    · rename_i u hu
      exact (hs.grows_next? hu).trans (ih (hs.next? hu) hm)

/-! ## 3.  Everything can come to an end -/

theorem act?_of_next? {before after : List (Job M)} {j k : Job M}
    {effect : Option (Intake.Effect M)}
    (hb : x.jobs = before ++ j :: after) (hn : j.next? = some (k, effect)) :
    x.act? before.length =
      some
        { x with
          wire := fun id => x.wire id ++ (effect.bind (·.frameOn? id)).toList
          jobs := before ++ k :: after } := by
  have hj : x.jobs[before.length]? = some j := by simp [hb]
  unfold act?
  rw [hj]
  simp [hn, hb]

/-- A job can get on to its end, and no other job changes. -/
theorem exists_ended {before after : List (Job M)} {j : Job M}
    (hb : x.jobs = before ++ j :: after) :
    ∃ y k, Leads w x y ∧ y.jobs = before ++ k :: after ∧ k.ticket = j.ticket ∧ k.ahead = [] ∧
      y.history = x.history := by
  -- by induction on what is still to be done
  generalize ha : j.ahead = ahead
  induction ahead generalizing x j with
  | nil => exact ⟨x, j, .refl w x, hb, rfl, ha, rfl⟩
  | cons step ahead ih =>
    have hn : ∃ k effect, j.next? = some (k, effect) ∧ k.ticket = j.ticket ∧ k.ahead = ahead := by
      unfold Job.next?
      rw [ha]
      cases step with
      | effect e => exact ⟨_, _, rfl, rfl, rfl⟩
      | wait => exact ⟨_, _, rfl, rfl, rfl⟩
    obtain ⟨k, effect, hn, hkt, hka⟩ := hn
    have hy := act?_of_next? hb hn
    obtain ⟨z, l, hl, hzb, hlt, hla, hzh⟩ :=
      ih (x := { x with wire := _, jobs := before ++ k :: after }) rfl hka
    exact ⟨z, l, .cons (.act before.length) hy hl, hzb, hlt.trans hkt, hla, hzh⟩

/-- A worker takes a task when its pool lets it. -/
theorem Sound.take?_eq (hs : Sound w threads capacity x) {worker : Nat}
    {ticket : Pool.Ticket (Delivery ReplyTo)} {pool : Pool (Pool.Ticket (Delivery ReplyTo))}
    (h : x.history.pool.take? worker = some (ticket, pool)) (handler : Handler M) :
    x.take? w worker handler =
      some
        { x with
          intake := withDispatch x.intake (pool.map Prod.fst)
          history := { x.history with pool := pool, started := x.history.started ++ [ticket] }
          jobs := x.jobs ++
            [⟨ticket, handler, [], Intake.dispatchWork w.codec handler w.reply ticket.1⟩] } := by
  unfold Exchange.take?
  rw [hs.dispatch_eq, Pool.take?_map, h]
  simp [Pool.History.next?, h]

/-- A worker is done with its task when everything has been done for it. -/
theorem Sound.finish?_eq (hs : Sound w threads capacity x) {worker : Nat} {k : Job M}
    {pool : Pool (Pool.Ticket (Delivery ReplyTo))}
    (h : x.history.pool.finish? worker = some (k.ticket, pool)) (hk : k ∈ x.jobs)
    (ha : k.ahead = []) (ending : Pool.Ending) :
    x.finish? worker ending =
      some
        { x with
          intake := withDispatch x.intake (pool.map Prod.fst)
          history :=
            { x.history with
              pool := pool
              finished := x.history.finished ++ [(k.ticket, ending)] } } := by
  -- no other job is for this task
  have hdone : x.isDone k.ticket.2 = true := by
    refine List.all_eq_true.2 fun i hi => ?_
    by_cases hn : i.ticket.2 = k.ticket.2
    · have hik : i = k := List.inj_on_of_nodup_map hs.nodup_jobs hi hk hn
      simp [hik, ha]
    · simp [hn]
  unfold Exchange.finish?
  rw [hs.dispatch_eq, Pool.finish?_map, h]
  simp [Pool.History.next?, h, hdone]

/-- A worker can be done with the task that it runs. -/
theorem Sound.exists_finished (hs : Sound w threads capacity x)
    {before after : List (Worker (Pool.Ticket (Delivery ReplyTo)))}
    {ticket : Pool.Ticket (Delivery ReplyTo)}
    (hw : x.history.pool.workers = before ++ .busy ticket :: after) :
    ∃ y, Leads w x y ∧
      y.history.pool = { x.history.pool with workers := before ++ .idle :: after } := by
  have hrun : ticket ∈ x.history.pool.running := by
    rw [Pool.running, hw]
    exact List.mem_filterMap.2 ⟨_, List.mem_append_right _ List.mem_cons_self, rfl⟩
  have hstarted := hs.history.started_perm.symm.subset (List.mem_append_left _ hrun)
  rw [← hs.tickets] at hstarted
  obtain ⟨j, hj, rfl⟩ := List.mem_map.1 hstarted
  obtain ⟨first, last, hb⟩ := List.append_of_mem hj
  obtain ⟨y, k, hl, hyb, hkt, hka, hyh⟩ := exists_ended (w := w) hb
  have hk : k ∈ y.jobs := hyb ▸ List.mem_append_right _ List.mem_cons_self
  have hf : y.history.pool.finish? before.length =
      some (k.ticket, { y.history.pool with workers := before ++ .idle :: after }) :=
    Pool.finish?_of_busy (by rw [hyh, hw, hkt])
  have hfinish := (hs.leads hl).finish?_eq hf hk hka .returned
  exact ⟨_, hl.trans (.next (.finish before.length .returned) hfinish), by rw [hyh]⟩

/-- A worker that waits can take a task. -/
theorem Sound.exists_taken (hs : Sound w threads capacity x) (handler : Handler M)
    {before after : List (Worker (Pool.Ticket (Delivery ReplyTo)))}
    {ticket : Pool.Ticket (Delivery ReplyTo)} {queue : List (Pool.Ticket (Delivery ReplyTo))}
    (hw : x.history.pool.workers = before ++ .idle :: after)
    (hq : x.history.pool.queue = ticket :: queue) :
    ∃ y, Leads w x y ∧ y.history.pool =
      { x.history.pool with queue := queue, workers := before ++ .busy ticket :: after } :=
  ⟨_, .next (.take before.length handler) (hs.take?_eq (Pool.take?_of_idle hw hq) handler), rfl⟩

/-- **The workers can bring everything to an end.** -/
theorem Sound.drains (hs : Sound w threads capacity x) (ht : 0 < threads) (handler : Handler M) :
    ∃ y, Leads w x y ∧ y.history.pool.queue = [] ∧ y.history.pool.running = [] := by
  -- a task that is started leaves the queue, and one that finishes leaves its worker
  generalize hm : 2 * x.history.pool.queue.length + x.history.pool.running.length = measure
  induction measure using Nat.strongRecOn generalizing x with
  | ind measure ih =>
    cases hr : x.history.pool.running with
    | cons ticket running =>
      have hmem : ticket ∈ x.history.pool.running := by
        rw [hr]
        exact List.mem_cons_self
      obtain ⟨before, after, hw⟩ := Pool.exists_worker_of_running hmem
      obtain ⟨y, hl, hy⟩ := hs.exists_finished hw
      have hlt : 2 * y.history.pool.queue.length + y.history.pool.running.length < measure := by
        have hlen := Pool.length_running_of_busy .idle hw rfl
        rw [hy, ← hm, hlen]
        exact Nat.lt_succ_self _
      obtain ⟨z, hz, hq, hn⟩ := ih _ hlt (hs.leads hl) rfl
      exact ⟨z, hl.trans hz, hq, hn⟩
    | nil =>
      cases hq : x.history.pool.queue with
      | nil => exact ⟨x, .refl w x, hq, hr⟩
      | cons ticket queue =>
        obtain ⟨before, after, hw⟩ := hs.history.exists_idle ht hr (hq ▸ List.cons_ne_nil _ _)
        obtain ⟨y, hl, hy⟩ := hs.exists_taken handler hw hq
        have hlt : 2 * y.history.pool.queue.length + y.history.pool.running.length < measure := by
          have hyw : y.history.pool.workers = before ++ .busy ticket :: after := by rw [hy]
          have hyq : y.history.pool.queue = queue := by rw [hy]
          have hlen := Pool.length_running_of_busy .idle hyw rfl
          have hx : ({ y.history.pool with workers := before ++ .idle :: after } : Pool _).running =
              [] := by
            rw [← hr, Pool.running, Pool.running, hw]
          rw [hx, List.length_nil] at hlen
          rw [hq, hr, List.length_cons, List.length_nil] at hm
          rw [hlen, hyq]
          omega
        obtain ⟨z, hz, hq, hn⟩ := ih _ hlt (hs.leads hl) rfl
        exact ⟨z, hl.trans hz, hq, hn⟩

end AgentIntake.Exchange
