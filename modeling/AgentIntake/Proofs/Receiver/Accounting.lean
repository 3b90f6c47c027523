import AgentIntake.Proofs.Receiver.Course

/-!
# No packet is lost

A packet that is handed to a receiver is kept or dropped, and it is one or the other for good.  One
that the dispatch pool accepted is decoded once and goes its way once, and when the workers have
left it has gone it to the end; there is no warning about it.  One that the pool refused is never
decoded, and there is one warning about it, which names where it came from.

A stop makes no exception.  What comes after it has closed the dispatch pool is dropped, and what
was accepted before is kept, however the stop ends (`deliveries_accounted_for`).
-/

namespace AgentIntake.Receiver

open Dispatch

variable {ρ η M : Type}

namespace Course

/-! ## 1.  Kept and dropped -/

/-- The task that was handed in under a number. -/
def task? (x : Course ρ η M) (number : Nat) : Option (Delivery ρ) :=
  x.crew.history.submitted[number]?

/-- The dispatch pool has accepted the task with a number. -/
def Accepts (x : Course ρ η M) (number : Nat) : Prop :=
  number ∈ x.crew.history.accepted.map (·.2)

/-- The warnings about the packet with a number. -/
def warningsOf (x : Course ρ η M) (number : Nat) : List Log.Record :=
  (x.warnings.filter (·.1 = number)).map (·.2)

/-- The packet with a number, for which the task is, has not been dropped.

There is no warning about it (`unwarned`).  It is dispatched once at most (`once`).  What was done
for it is the beginning of its way (`on_way`).  Nothing that is done for it looks like its being
dropped (`undropped`).  When the workers have left, it has gone its way to the end, and was decoded
once (`passed`). -/
structure Kept (x : Course ρ η M) (number : Nat) (task : Delivery ρ) (payload : List UInt8) :
    Prop where
  unwarned : x.warningsOf number = []
  once : (x.crew.passesOf number).length ≤ 1
  on_way : ∀ p ∈ x.crew.passesOf number, p.done <+: (p.tools.acts task).effects
  undropped : ∀ p ∈ x.crew.passesOf number, ∀ path remote e,
    .effect (.logged (droppedRecord path remote e)) ∉ p.done
  passed : x.receiver.dispatch.live = 0 →
    ∃ p, x.crew.passesOf number = [p] ∧ p.ahead = [] ∧ decodes p.done = [payload] ∧
      p.done.filterMap Act.effect? =
        (dispatchWork p.tools.codec p.tools.handler p.tools.reply task).effects

/-- The packet with a number has been dropped. -/
structure Dropped (x : Course ρ η M) (number : Nat) (path : Path) (remote : SocketAddress) :
    Prop where
  idle : x.crew.passesOf number = []
  warned : ∃ e, x.warningsOf number = [droppedRecord path remote e]

/-- How the deliveries up to a moment `x` and up to a later moment `y` are accounted for.

A packet that was accepted is kept (`kept`).  A packet that was not accepted is dropped (`dropped`).
What was handed in stays so, and stays accepted or not accepted (`settled`).  What is handed in when
the dispatch pool has been closed is not accepted (`late`).  It has been closed when a stop has got
so far (`closed_iff`).  A stop has got so far when it reports, however it ends (`reported`). -/
structure Accounted (x y : Course ρ η M) : Prop where
  kept : ∀ number task path remote payload, y.task? number = some task →
    task.packet? = some (path, remote, payload) → y.Accepts number → y.Kept number task payload
  dropped : ∀ number task path remote payload, y.task? number = some task →
    task.packet? = some (path, remote, payload) → ¬ y.Accepts number →
      y.Dropped number path remote
  settled : ∀ number task, x.task? number = some task →
    y.task? number = some task ∧ (y.Accepts number ↔ x.Accepts number)
  late : x.receiver.dispatch.isClosed = true →
    ∀ number, x.task? number = none → ¬ y.Accepts number
  closed_iff : y.receiver.dispatch.isClosed = true ↔
    y.receiver.isStopped = true ∧ .dispatch ∉ y.closing
  reported : ∀ outcome ∈ y.outcomes, outcome ≠ .alreadyStopped →
    y.receiver.dispatch.isClosed = true

variable {threads capacity : Nat} {x y : Course ρ η M}

/-! ## 2.  What the pool answered -/

/-- A task is known by its number. -/
theorem Sound.numbered (hs : Sound threads capacity x) {number : Nat} {task : Delivery ρ} :
    x.task? number = some task ↔
      (task, number) ∈ x.crew.history.accepted ∨
        ∃ e, ((task, number), e) ∈ x.crew.history.refused := by
  have hz : x.task? number = some task ↔ (task, number) ∈ x.crew.history.submitted.zipIdx :=
    (List.mem_zipIdx_iff_getElem? (x := (task, number))).symm
  rw [hz, ← hs.crew.history.numbered.mem_iff, List.mem_append, List.mem_map]
  refine or_congr_right ⟨?_, ?_⟩
  · rintro ⟨⟨ticket, e⟩, hr, rfl⟩
    exact ⟨e, hr⟩
  · rintro ⟨e, hr⟩
    exact ⟨_, hr, rfl⟩

theorem Sound.ticket_of_accepts (hs : Sound threads capacity x) {number : Nat} {task : Delivery ρ}
    (ht : x.task? number = some task) (ha : x.Accepts number) :
    (task, number) ∈ x.crew.history.accepted := by
  obtain ⟨⟨found, k⟩, hm, rfl⟩ := List.mem_map.1 ha
  rw [hs.numbered.2 (.inl hm)] at ht
  cases ht
  exact hm

theorem Sound.refusal_of_not_accepts (hs : Sound threads capacity x) {number : Nat}
    {task : Delivery ρ} (ht : x.task? number = some task) (ha : ¬ x.Accepts number) :
    ∃ e, ((task, number), e) ∈ x.crew.history.refused :=
  (hs.numbered.1 ht).resolve_left fun hm => ha (List.mem_map.2 ⟨_, hm, rfl⟩)

/-- What was refused was not accepted. -/
theorem Sound.not_accepts (hs : Sound threads capacity x)
    {r : Pool.Ticket (Delivery ρ) × PoolError} (hr : r ∈ x.crew.history.refused) :
    ¬ x.Accepts r.1.2 := by
  have hn := hs.crew.history.nodup_numbers
  rw [List.map_append] at hn
  exact fun ha => (List.nodup_append.1 hn).2.2 _ ha _
    (List.mem_map_of_mem (List.mem_map_of_mem hr)) rfl

/-! ## 3.  Warnings -/

/-- The warnings about a packet are those that its refusals led to. -/
theorem Sound.warningsOf_eq (hs : Sound threads capacity x) (number : Nat) :
    x.warningsOf number =
      (x.crew.history.refused.filter (·.1.2 = number)).filterMap fun r => r.1.1.warning? r.2 := by
  rw [warningsOf, hs.warnings_eq]
  induction x.crew.history.refused with
  | nil => rfl
  | cons r rs ih =>
    rw [List.filterMap_cons, List.filter_cons]
    cases hw : r.1.1.warning? r.2 with
    | none =>
      rw [warningOf, hw]
      show List.map _ (List.filter _ (List.filterMap _ rs)) = _
      rw [ih]
      split
      · rw [List.filterMap_cons, hw]
      · rfl
    | some record =>
      rw [warningOf, hw]
      show List.map _ (List.filter _ ((r.1.2, record) :: List.filterMap _ rs)) = _
      rw [List.filter_cons]
      dsimp only
      split
      · rw [List.map_cons, ih, List.filterMap_cons, hw]
      · exact ih

theorem Sound.kept (hs : Sound threads capacity x) (hpos : 0 < threads) {number : Nat}
    {task : Delivery ρ} {path : Path} {remote : SocketAddress} {payload : List UInt8}
    (ht : x.task? number = some task) (hp : task.packet? = some (path, remote, payload))
    (ha : x.Accepts number) : x.Kept number task payload := by
  have hmem := hs.ticket_of_accepts ht ha
  -- a pass with this number is one of the task
  have hway : ∀ p ∈ x.crew.passesOf number, p.done <+: (p.tools.acts task).effects := by
    intro p hp
    obtain ⟨hp, hn⟩ := List.mem_filter.1 hp
    have hticket := hs.numbered.2 (.inl (hs.crew.mem_accepted hp))
    rw [of_decide_eq_true hn, ht] at hticket
    rw [Option.some.inj hticket, ← hs.crew.work_eq p hp]
    exact List.prefix_append _ _
  refine
    { unwarned := ?_
      once := hs.crew.length_passesOf_le number
      on_way := hway
      undropped := fun p hp path remote e hd => ?_
      passed := fun hl => ?_ }
  · rw [hs.warningsOf_eq, List.filter_eq_nil_iff.2]
    · rfl
    · intro r hr he
      exact hs.not_accepts hr (of_decide_eq_true he ▸ ha)
  · have hne : Receiver.target ≠ Dispatch.target := by decide
    exact hne (target_of_logged ((hway p hp).subset hd))
  · have hlive : x.crew.history.pool.live = 0 := by
      rw [← hl, hs.dispatch_eq, Pool.live_map]
    obtain ⟨p, hpass, -, hahead, hdone⟩ := hs.crew.exists_pass hpos hlive hmem
    refine ⟨p, hpass, hahead, ?_, ?_⟩ <;> rw [hdone]
    · exact decodes_dispatchActs _ _ _ hp
    · exact effect?_dispatchActs _ _ _ _

theorem Sound.dropped (hs : Sound threads capacity x) {number : Nat}
    {task : Delivery ρ} {path : Path} {remote : SocketAddress} {payload : List UInt8}
    (ht : x.task? number = some task) (hp : task.packet? = some (path, remote, payload))
    (ha : ¬ x.Accepts number) : x.Dropped number path remote := by
  obtain ⟨e, hr⟩ := hs.refusal_of_not_accepts ht ha
  have hn := hs.crew.history.nodup_numbers
  rw [List.map_append, List.map_map] at hn
  refine ⟨hs.crew.passesOf_of_refused hr, e, ?_⟩
  rw [hs.warningsOf_eq]
  have hf := Pool.filter_key_eq (fun r : Pool.Ticket (Delivery ρ) × PoolError => r.1.2)
    (List.nodup_append.1 hn).2.1 hr
  rw [hf, List.filterMap_cons, Delivery.warning?, hp]
  rfl

/-! ## 4.  The account -/

/-- **The invariant accounts for all deliveries.** -/
theorem Sound.accounted (hs : Sound threads capacity x) (hpos : 0 < threads)
    {moves : List (Move ρ M)} (hrun : x.run? moves = some y) : Accounted x y := by
  have hy := hs.run? hrun
  have hgrows := grows_run? hrun
  refine
    { kept := fun _ _ _ _ _ => hy.kept hpos
      dropped := fun _ _ _ _ _ => hy.dropped
      settled := fun number task ht => ?_
      late := fun hc number hnone ha => ?_
      closed_iff := hy.closed_iff
      reported := fun o ho hne => ?_ }
  · have hkeeps : x.Accepts number → y.Accepts number := fun ha =>
      (hgrows.accepted.map _).subset ha
    have hty : y.task? number = some task :=
      hy.numbered.2 ((hs.numbered.1 ht).imp (fun hm => hgrows.accepted.subset hm)
        fun ⟨e, hr⟩ => ⟨e, hgrows.refused.subset hr⟩)
    refine ⟨hty, ⟨fun ha => ?_, hkeeps⟩⟩
    by_contra hn
    obtain ⟨e, hr⟩ := hs.refusal_of_not_accepts ht hn
    exact hy.not_accepts (hgrows.refused.subset hr) ha
  · rw [hs.dispatch_eq] at hc
    rw [Accepts, (hgrows.closed hc).2] at ha
    obtain ⟨⟨task, k⟩, hm, rfl⟩ := List.mem_map.1 ha
    rw [hs.numbered.2 (.inl hm)] at hnone
    cases hnone
  · obtain ⟨hstopped, hclosing⟩ := hy.reported o ho hne
    exact hy.closed_iff.2 ⟨hstopped, hclosing ▸ List.not_mem_nil⟩

end Course

/-- What a valid configuration gives the pools. -/
theorem pos_of_valid {config : Config} (hv : config.invalid? = none) :
    0 < config.workerThreads.toNat ∧ 0 < config.workerQueueSize.toNat ∧
      (config.eventWorkerThreads = 0 ∨ 0 < config.eventWorkerThreads.toNat ∧
        0 < config.eventWorkerQueueSize.toNat) := by
  have hpos : ∀ n : UInt64, n ≠ 0 → 0 < n.toNat := fun n hn =>
    Nat.pos_of_ne_zero fun h => hn (UInt64.toNat_inj.1 h)
  unfold Config.invalid? at hv
  split at hv
  · cases hv
  split at hv
  · cases hv
  split at hv
  · cases hv
  split at hv
  · cases hv
  rename_i hthreads hsize hevents
  refine ⟨hpos _ hthreads, hpos _ hsize, ?_⟩
  by_cases he : config.eventWorkerThreads = 0
  · exact .inl he
  · have h := hpos _ he
    exact .inr ⟨h, hpos _ fun hz => hevents ⟨h, hz⟩⟩

/-- A receiver is built for every valid configuration, with a dispatch pool that has a worker. -/
theorem exists_make? {config : Config} (hv : config.invalid? = none) (cluster : Option η)
    (observers : List η) (grace : Nat) :
    ∃ (r : Receiver ρ η) (effects : List (Effect η)),
      make? config cluster observers grace = .ok (r, effects) ∧ r.isStopped = false ∧
        r.dispatch = ⟨dispatchPoolName, config.workerQueueSize.toNat, [],
          List.replicate config.workerThreads.toNat .idle, false⟩ := by
  obtain ⟨ht, hq, he⟩ := pos_of_valid hv
  obtain ⟨events, hevents⟩ : ∃ events, eventPool? config = .ok events := by
    unfold eventPool?
    rcases he with he | ⟨het, hec⟩
    · rw [if_pos he]
      exact ⟨_, rfl⟩
    · rw [if_neg fun h => Nat.ne_of_gt het (congrArg UInt64.toNat h), Pool.make?_eq _ het hec]
      exact ⟨_, rfl⟩
  rw [make?, hv, Pool.make?_eq _ ht hq, hevents]
  exact ⟨_, _, rfl, rfl, rfl⟩

/-- What a receiver has when it has been built, and what is seen of it. -/
theorem make?_cases {config : Config} {cluster : Option η} {observers : List η} {grace : Nat}
    {r : Receiver ρ η} {built : List (Effect η)}
    (h : make? config cluster observers grace = .ok (r, built)) :
    ∃ dispatch events,
      Pool.make? dispatchPoolName config.workerThreads.toNat config.workerQueueSize.toNat =
          .ok dispatch ∧
        eventPool? config = .ok events ∧
          r = ⟨config.listenIp, config.listenPort, config.probeHosts, observers, false, false,
            false, grace, dispatch, events⟩ ∧
            built = newEffects dispatch events cluster := by
  unfold make? at h
  split at h
  · cases h
  · split at h
    · cases h
    · rename_i hdispatch
      split at h
      · cases h
      · rename_i hevents
        cases h
        exact ⟨_, _, hdispatch, hevents, rfl, rfl⟩

/-- There is a liveness pool if it is given workers. -/
theorem eventPool?_cases {config : Config} {events : Option (Pool Ping)}
    (h : eventPool? config = .ok events) :
    config.eventWorkerThreads = 0 ∧ events = none ∨
      ∃ pool, Pool.make? eventPoolName config.eventWorkerThreads.toNat
        config.eventWorkerQueueSize.toNat = .ok pool ∧ events = some pool := by
  unfold eventPool? at h
  split at h
  · rename_i he
    cases h
    exact .inl ⟨he, rfl⟩
  · cases hm : Pool.make? (α := Ping) eventPoolName config.eventWorkerThreads.toNat
        config.eventWorkerQueueSize.toNat with
    | error e =>
      rw [hm] at h
      cases h
    | ok pool =>
      rw [hm] at h
      cases h
      exact .inr ⟨pool, rfl, rfl⟩

/-- A course begins soundly. -/
theorem Course.sound_of {r : Receiver ρ η} (hr : r.isStopped = false) {name : String}
    {threads capacity : Nat}
    (hd : r.dispatch = ⟨name, capacity, [], List.replicate threads .idle, false⟩) :
    Course.Sound threads capacity (Course.of r : Course ρ η M) := by
  have hlength : r.dispatch.workers.length = threads := by rw [hd, List.length_replicate]
  have hpool : r.dispatch =
      Pool.map Prod.fst (Pool.History.fresh name threads capacity : Pool (Pool.Ticket _)) := by
    rw [hd, Pool.map, Pool.History.fresh, List.map_replicate]
    rfl
  have hcrew : (Course.of r : Course ρ η M).crew =
      .start (Pool.History.fresh name threads capacity) := by
    rw [Course.of, hlength, hd]
  exact
    { crew := hcrew ▸ Pool.Crew.sound_start name threads capacity
      dispatch_eq := by
        rw [hcrew]
        exact hpool
      warnings_eq := by
        rw [hcrew]
        rfl
      closed_iff := by
        show r.dispatch.isClosed = true ↔ r.isStopped = true ∧ _
        rw [hd, hr]
        exact iff_of_false Bool.false_ne_true fun h => Bool.false_ne_true h.1
      nodup_closing := List.nodup_nil
      idle := fun _ => ⟨rfl, rfl⟩
      reported := fun _ ho => absurd ho List.not_mem_nil }

/-- **Nothing that is handed to a receiver is lost, nor done twice.**  The configuration is any
valid one, and whatever happens to the receiver happens in any order: packets are handed in, workers
get on with whatever codec, handler and reply handles they find, and somebody stops the receiver,
who waits as long as he likes. -/
theorem deliveries_accounted_for {config : Config} (hv : config.invalid? = none)
    (cluster : Option η) (observers : List η) (grace : Nat) :
    ∃ (r : Receiver ρ η) (effects : List (Effect η)),
      make? config cluster observers grace = .ok (r, effects) ∧
        ∀ (before after : List (Move ρ M)) (x y : Course ρ η M),
          (Course.of r).run? before = some x → x.run? after = some y → x.Accounted y := by
  obtain ⟨r, effects, hmake, hstopped, hdispatch⟩ := exists_make? hv cluster observers grace
  refine ⟨r, effects, hmake, fun before after x y hx hy => ?_⟩
  exact ((Course.sound_of hstopped hdispatch).run? hx).accounted (pos_of_valid hv).1 hy

/-- One worker, and room for one task. -/
def narrowConfig : Config :=
  { Config.default with workerThreads := 1, workerQueueSize := 1, eventWorkerThreads := 0 }

/-- The receiver of the configuration. -/
def narrowReceiver : Receiver Unit Empty where
  host := "0.0.0.0"
  port := 9994
  probeHosts := []
  observers := []
  observersAdded := false
  isStarted := false
  isStopped := false
  grace := 0
  dispatch := ⟨dispatchPoolName, 1, [], [.idle], false⟩
  events := none

/-- The handler panics at a message that wants no answer, and answers the others with themselves. -/
def narrowTools : Tools Unit (List UInt8) where
  codec := ⟨.value, .value, fun _ => .ok none⟩
  handler := ⟨fun _ => ⟨true, .panicked .other⟩, fun message => .value (some message)⟩
  reply _ _ := .value ()

/-- A packet with one byte that wants no answer. -/
def narrowPacket (byte : UInt8) : SendPacket :=
  ⟨[byte], ⟨.v4 ⟨10, 0, 0, 1⟩, 4000, 0⟩⟩

/-- The worker starts the first of three packets, the second waits and the third finds no room; then
a stop closes the pool. -/
def untilClosed : List (Move Unit (List UInt8)) :=
  [.deliver (.send (narrowPacket 1)), .work (.take 0 narrowTools),
    .deliver (.request { narrowPacket 2 with reply := () }), .deliver (.send (narrowPacket 3)),
    .stop, .close]

/-- The wait of the stop ends before the worker is done, and a fourth packet comes too late; the
worker does all that there is to do and leaves. -/
def untilLeft : List (Move Unit (List UInt8)) :=
  [.wait, .deliver (.send (narrowPacket 4))] ++ List.replicate 5 (.work (.act 0)) ++
    [.work (.finish 0 .returned), .work (.take 0 narrowTools)] ++
    List.replicate 5 (.work (.act 1)) ++ [.work (.finish 0 .returned), .work (.leave 0)]

theorem deliveries_around_a_stop :
    narrowConfig.invalid? = none ∧
      ∃ (effects : List (Effect Empty)) (x y : Course Unit Empty (List UInt8)),
        make? narrowConfig none [] 0 = .ok (narrowReceiver, effects) ∧
          (Course.of narrowReceiver).run? untilClosed = some x ∧ x.run? untilLeft = some y ∧
            y.outcomes = [.timedOut] ∧ y.receiver.dispatch.live = 0 ∧
              y.crew.history.submitted.length = 4 ∧
                y.crew.history.accepted.map (·.2) = [0, 1] ∧ x.Accounted y := by
  have hv : narrowConfig.invalid? = none := rfl
  obtain ⟨r, effects, hmake, h⟩ :=
    deliveries_accounted_for (ρ := Unit) (η := Empty) (M := List UInt8) hv none [] 0
  obtain rfl : narrowReceiver = r := congrArg Prod.fst (Except.ok.inj hmake)
  have hend : (((Course.of narrowReceiver).run? untilClosed).bind (·.run? untilLeft)).map
      (fun y => (y.outcomes, y.receiver.dispatch.live, y.crew.history.submitted.length,
        y.crew.history.accepted.map (·.2))) = some ([.timedOut], 0, 4, [0, 1]) := by
    decide +kernel
  obtain ⟨y, hrun, hy⟩ := Option.map_eq_some_iff.1 hend
  obtain ⟨x, hx, hxy⟩ := Option.bind_eq_some_iff.1 hrun
  simp only [Prod.mk.injEq] at hy
  obtain ⟨houtcomes, hlive, hsubmitted, haccepted⟩ := hy
  exact ⟨hv, effects, x, y, hmake, hx, hxy, houtcomes, hlive, hsubmitted, haccepted,
    h _ _ x y hx hxy⟩

end AgentIntake.Receiver
