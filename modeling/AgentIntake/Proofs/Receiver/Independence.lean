import AgentIntake.Proofs.Pool.Bench
import AgentIntake.Proofs.Receiver.Accounting

/-!
# Messages and signs of life do not meet

A receiver hands messages to one pool and signs of life to another.  The first may be full, its
workers may be held up for good and its handler may panic: signs of life are recorded all the same,
and nothing about them tells what became of the messages.  Nor does anything about messages tell
what became of signs of life.

A `Duty` is a receiver with what the workers of both pools have still to do and what was seen of
them.  It runs the program's own operations, one step at a time and in any order.  Seen from one
side (`messageSide`, `signSide?`) it is a pool with its bench, and a move is a deed of that pool or
nothing at all.  So what is seen on one side depends on the deeds of that side only, whatever is
done between them (`view_run?`).

## What a sink answers

A sink is not the collector's own, and it may answer by the clock.  So its answers come with the
worker's taking the task (`Answers`), like everything else that a worker finds.  The time of a sign
of life is then only handed on, and two signs of life that differ in nothing else count as the same
(`Ping.timeless`).
-/

namespace AgentIntake

open Dispatch Pool

variable {ρ η M : Type}

/-! ## 1.  Signs of life without their times -/

namespace Work

variable {ε δ γ α : Type}

@[simp] theorem map_append (f : ε → δ) (v w : Work ε) : (v ++ w).map f = v.map f ++ w.map f :=
  List.map_append

@[simp] theorem map_one (f : ε → δ) (e : ε) : (one e).map f = one (f e) :=
  rfl

@[simp] theorem map_waiting (f : ε → δ) (r : Reaction γ α) : (waiting r).map f = waiting r := by
  unfold waiting
  split <;> rfl

end Work

/-- The sign of life but for its time. -/
def Ping.timeless (ping : Ping) : Ping :=
  { ping with timestamp := 0 }

namespace Liveness

/-- The effect but for the time of its sign of life. -/
def Effect.timeless : Effect → Effect
  | applied ping state => .applied ping.timeless state
  | emitted ping event => .emitted ping.timeless event
  | logged record => .logged record

/-- It is a call of the sink. -/
def Effect.isCall : Effect → Bool
  | applied .. | emitted .. => true
  | logged _ => false

/-- What a sink answers about one sign of life. -/
structure Answers where
  apply : AgentState → Reaction LifecycleError Unit
  emit : AgentEvent → Reaction LifecycleError Unit

/-- The sink that answers so. -/
def Answers.sink (answers : Answers) : Sink :=
  ⟨fun _ => answers.apply, fun _ => answers.emit⟩

/-- What a sign of life leads to. -/
def trade : Trade Answers Ping Effect where
  work answers ping := recordWork answers.sink ping
  refuse ping e := [.logged (droppedRecord ping e)]

/-- **Nothing that is done for a sign of life depends on its time.** -/
theorem work_timeless (answers : Answers) (ping : Ping) :
    trade.work answers ping.timeless = (trade.work answers ping).map Effect.timeless := by
  have hemit : emitWay answers.sink ping.timeless =
      ((emitWay answers.sink ping).1.map Effect.timeless, (emitWay answers.sink ping).2) := by
    simp [emitWay, Answers.sink, Effect.timeless]
  have hway : way answers.sink ping.timeless =
      ((way answers.sink ping).1.map Effect.timeless, (way answers.sink ping).2) := by
    have hsequence : ping.timeless.sequence = ping.sequence := rfl
    have happly : ∀ p state, answers.sink.apply p state = answers.apply state := fun _ _ => rfl
    unfold way
    rw [hemit, hsequence]
    dsimp only
    rw [happly, happly]
    split
    · cases failure? (answers.apply .running).outcome <;> simp [Effect.timeless]
    · rfl
  show recordWork answers.sink ping.timeless = (recordWork answers.sink ping).map Effect.timeless
  unfold recordWork
  rw [hway]
  simp [Effect.timeless]
  rfl

end Liveness

namespace Receiver

/-- What a packet leads to. -/
def trade : Trade (Tools ρ M) (Delivery ρ) (Act M) where
  work := Tools.acts
  refuse task e := (task.warning? e).toList.map fun record => .effect (.logged record)

/-! ## 2.  A receiver at work -/

/-- A receiver with what the workers of its pools have still to do, and what was seen. -/
structure Duty (ρ η M : Type) where
  receiver : Receiver ρ η
  messages : Bench (Delivery ρ) (Act M)
  signs : Bench Ping Liveness.Effect

namespace Duty

/-- Something that happens to a receiver: a message comes that wants no answer or one, a worker of
the dispatch pool does something (`work`), a sign of life comes, or a worker of the liveness pool
does something (`watch`). -/
inductive Move (ρ M : Type) where
  | send (packet : SendPacket)
  | request (packet : RequestPacket ρ)
  | work (chore : Chore (Tools ρ M))
  | ping (sink : Sink) (ping : Ping)
  | watch (chore : Chore Liveness.Answers)

/-- A receiver to which nothing has happened. -/
def of (r : Receiver ρ η) : Duty ρ η M :=
  ⟨r, .clear, .clear⟩

/-- A packet is handed in. -/
def deliver (x : Duty ρ η M) (task : Delivery ρ) : Duty ρ η M :=
  let (receiver, records) := x.receiver.handIn task
  { x with
    receiver := receiver
    messages := x.messages.see (.handed task (records.map fun record => .effect (.logged record))) }

/-- A worker of the dispatch pool does something. -/
def work? (x : Duty ρ η M) (chore : Chore (Tools ρ M)) : Option (Duty ρ η M) := do
  let (dispatch, messages) ← x.receiver.dispatch.chore? Tools.acts x.messages chore
  return { x with receiver := { x.receiver with dispatch := dispatch }, messages := messages }

/-- A sign of life comes. -/
def ping (x : Duty ρ η M) (sink : Sink) (ping : Ping) : Duty ρ η M :=
  let (receiver, effects) := x.receiver.ping sink ping
  { x with receiver := receiver, signs := x.signs.see (.handed ping effects) }

/-- A worker of the liveness pool does something. -/
def watch? (x : Duty ρ η M) (chore : Chore Liveness.Answers) : Option (Duty ρ η M) := do
  let pool ← x.receiver.events
  let (events, signs) ← pool.chore? Liveness.trade.work x.signs chore
  return { x with receiver := { x.receiver with events := some events }, signs := signs }

/-- The receiver after a move, if it can happen. -/
def next? (x : Duty ρ η M) : Move ρ M → Option (Duty ρ η M)
  | .send packet => some (x.deliver (.send packet))
  | .request packet => some (x.deliver (.request packet))
  | .work chore => x.work? chore
  | .ping sink ping => some (x.ping sink ping)
  | .watch chore => x.watch? chore

/-- The receiver after moves in order, if they can happen. -/
def run? (x : Duty ρ η M) (moves : List (Move ρ M)) : Option (Duty ρ η M) :=
  moves.foldlM next? x

/-! ## 3.  Two sides -/

/-- The deed of the dispatch pool that a move is. -/
def Move.message? : Move ρ M → Option (Deed (Tools ρ M) (Delivery ρ))
  | send packet => some (.hand (.send packet))
  | request packet => some (.hand (.request packet))
  | work chore => some (.chore chore)
  | ping .. | watch _ => none

/-- The deed of the liveness pool that a move is, but for the times of signs of life. -/
def Move.sign? : Move ρ M → Option (Deed Liveness.Answers Ping)
  | ping _ p => some (.hand p.timeless)
  | watch chore => some (.chore chore)
  | send _ | request _ | work _ => none

/-- The dispatch pool with its bench. -/
def messageSide (x : Duty ρ η M) : Pool (Delivery ρ) × Bench (Delivery ρ) (Act M) :=
  (x.receiver.dispatch, x.messages)

/-- The liveness pool with its bench, but for the times of signs of life. -/
def signSide? (x : Duty ρ η M) : Option (Pool Ping × Bench Ping Liveness.Effect) :=
  x.receiver.events.map fun pool =>
    (pool.map Ping.timeless, x.signs.map Ping.timeless Liveness.Effect.timeless)

variable {x y z : Duty ρ η M} {move : Move ρ M}

/-- Handing in a packet is a deed of the dispatch pool. -/
theorem message_deliver (x : Duty ρ η M) (task : Delivery ρ) :
    some (x.deliver task).messageSide = trade.next? x.messageSide (.hand task) := by
  have hin := x.receiver.handIn_eq task
  show _ = trade.next? (x.receiver.dispatch, x.messages) _
  rw [Trade.next?]
  cases hs : x.receiver.dispatch.submit task <;>
    · rw [hs] at hin
      rw [deliver, hin]
      rfl

/-- It is nothing to the liveness pool. -/
theorem sign_deliver (x : Duty ρ η M) (task : Delivery ρ) :
    (x.deliver task).signSide? = x.signSide? := by
  have hevents : (x.receiver.handIn task).1.events = x.receiver.events := by
    rw [x.receiver.handIn_eq task]
    cases x.receiver.dispatch.submit task <;> rfl
  unfold deliver signSide?
  dsimp only
  rw [hevents]

/-- On the side of messages a move is a deed. -/
theorem message_next? {deed : Deed (Tools ρ M) (Delivery ρ)} (h : move.message? = some deed) :
    (x.next? move).map messageSide = trade.next? x.messageSide deed := by
  cases move with
  | send packet =>
    cases h
    exact x.message_deliver (.send packet)
  | request packet =>
    cases h
    exact x.message_deliver (.request packet)
  | work chore =>
    cases h
    show (x.work? chore).map messageSide = x.receiver.dispatch.chore? Tools.acts x.messages chore
    unfold work?
    cases x.receiver.dispatch.chore? Tools.acts x.messages chore <;> rfl
  | ping | watch => cases h

/-- A move that is none leaves this side alone. -/
theorem message_hidden (h : move.message? = none) (hn : x.next? move = some y) :
    y.messageSide = x.messageSide := by
  cases move with
  | send | request | work => cases h
  | ping =>
    cases hn
    rfl
  | watch chore =>
    obtain ⟨pool, -, hn⟩ := Option.bind_eq_some_iff.1 hn
    obtain ⟨after, -, hn⟩ := Option.bind_eq_some_iff.1 hn
    cases hn
    rfl

/-- On the side of signs of life a move is a deed. -/
theorem sign_next? {deed : Deed Liveness.Answers Ping} (h : move.sign? = some deed) :
    (x.next? move).bind signSide? = x.signSide?.bind (Liveness.trade.next? · deed) := by
  have hmap := fun pool => Trade.next?_map (σ := Liveness.Answers) Ping.timeless
    Liveness.Effect.timeless Liveness.work_timeless (fun _ _ => rfl) (pool, x.signs)
  cases move with
  | ping sink p =>
    cases h
    show (x.ping sink p).signSide? = _
    unfold Duty.ping Receiver.ping signSide?
    cases x.receiver.events with
    | none => rfl
    | some pool =>
      refine Eq.trans ?_ (hmap pool (.hand p)).symm
      rw [Trade.next?, Liveness.deliver]
      dsimp only
      cases pool.submit p <;> rfl
  | watch chore =>
    cases h
    show (x.watch? chore).bind signSide? = _
    unfold watch? signSide?
    cases x.receiver.events with
    | none => rfl
    | some pool =>
      refine Eq.trans ?_ (hmap pool (.chore chore)).symm
      rw [Trade.next?]
      show ((pool.chore? _ x.signs chore).bind _).bind _ = _
      cases pool.chore? Liveness.trade.work x.signs chore <;> rfl
  | send | request | work => cases h

/-- A move that is none leaves this side alone. -/
theorem sign_hidden (h : move.sign? = none) (hn : x.next? move = some y) :
    y.signSide? = x.signSide? := by
  cases move with
  | send packet =>
    cases hn
    exact x.sign_deliver _
  | request packet =>
    cases hn
    exact x.sign_deliver _
  | work chore =>
    obtain ⟨after, -, hn⟩ := Option.bind_eq_some_iff.1 hn
    cases hn
    rfl
  | ping | watch => cases h

/-- A receiver keeps its liveness pool. -/
theorem isSome_signSide? (hn : x.next? move = some y) :
    y.signSide?.isSome = x.signSide?.isSome := by
  cases hm : move.sign? with
  | none => rw [sign_hidden hm hn]
  | some deed =>
    cases move with
    | ping sink p =>
      cases hn
      unfold Duty.ping Receiver.ping signSide?
      cases x.receiver.events with
      | none => rfl
      | some pool =>
        rw [Liveness.deliver]
        dsimp only
        cases pool.submit p <;> rfl
    | watch chore =>
      obtain ⟨pool, hp, hn⟩ := Option.bind_eq_some_iff.1 hn
      obtain ⟨after, -, hn⟩ := Option.bind_eq_some_iff.1 hn
      cases hn
      simp [signSide?, hp]
    | send | request | work => cases hm

/-- So a move can happen if it can as a deed. -/
theorem isSome_bind_signSide? (hx : x.signSide?.isSome = true) :
    ((x.next? move).bind signSide?).isSome = (x.next? move).isSome := by
  cases hn : x.next? move with
  | none => rfl
  | some y => exact (isSome_signSide? hn).trans hx

theorem isSome_signSide?_run? {moves : List (Move ρ M)} (h : x.run? moves = some y) :
    y.signSide?.isSome = x.signSide?.isSome := by
  induction moves generalizing x with
  | nil =>
    cases h
    rfl
  | cons move moves ih =>
    rw [run?, List.foldlM_cons] at h
    obtain ⟨z, hz, h⟩ := Option.bind_eq_some_iff.1 h
    exact (ih h).trans (isSome_signSide? hz)

/-! ## 4.  Runs -/

/-- **What is seen from a side depends on the moves of that side only.**  A view is what one sees,
and each move that is a deed changes it as the deed does; the others leave it alone. -/
theorem view_run? {V D : Type} (view? : Duty ρ η M → Option V) (deed? : Move ρ M → Option D)
    (step : V → D → Option V)
    (visible : ∀ {x move deed}, deed? move = some deed →
      (next? x move).bind view? = (view? x).bind (step · deed))
    (hidden : ∀ {x y move}, deed? move = none → next? x move = some y → view? y = view? x)
    {moves : List (Move ρ M)} (h : x.run? moves = some y) :
    view? y = (view? x).bind fun v => (moves.filterMap deed?).foldlM step v := by
  induction moves generalizing x with
  | nil =>
    cases h
    cases view? y <;> rfl
  | cons move moves ih =>
    rw [run?, List.foldlM_cons] at h
    obtain ⟨z, hz, h⟩ := Option.bind_eq_some_iff.1 h
    rw [ih h]
    cases hd : deed? move with
    | none => rw [List.filterMap_cons_none hd, hidden hd hz]
    | some deed =>
      have hv := visible (x := x) hd
      rw [hz, Option.bind_some] at hv
      rw [List.filterMap_cons_some hd, hv, Option.bind_assoc]
      rfl

theorem message_run? {moves : List (Move ρ M)} (h : x.run? moves = some y) :
    some y.messageSide = (moves.filterMap Move.message?).foldlM trade.next? x.messageSide :=
  view_run? (some ∘ messageSide) Move.message? trade.next?
    (fun hd => (Option.map_eq_bind ..).symm.trans (message_next? hd))
    (fun hd hn => congrArg some (message_hidden hd hn)) h

theorem sign_run? {moves : List (Move ρ M)} (h : x.run? moves = some y) :
    y.signSide? = x.signSide?.bind fun side =>
      (moves.filterMap Move.sign?).foldlM Liveness.trade.next? side :=
  view_run? signSide? Move.sign? Liveness.trade.next? sign_next? sign_hidden h

/-! ## 5.  What is seen -/

/-- What others see of the work of the dispatch pool. -/
def dispatched (x : Duty ρ η M) : List (Dispatch.Effect M) :=
  x.messages.done.filterMap Act.effect?

/-- The packets that came, and whether they were accepted. -/
def admissions (x : Duty ρ η M) : List (Delivery ρ × Bool) :=
  x.messages.handed.map fun (task, refusal) => (task, refusal.isEmpty)

/-- The calls of the sink. -/
def sinkCalls (x : Duty ρ η M) : List Liveness.Effect :=
  x.signs.done.filter Liveness.Effect.isCall

/-- The signs of life that were dropped. -/
def droppedSigns (x : Duty ρ η M) : List Ping :=
  (x.signs.handed.filter fun (_, refusal) => !refusal.isEmpty).map Prod.fst

/-- Nothing about messages tells two receivers apart.

The same packets were accepted (`admissions`).  The handler was called for the same messages
(`calls`).  The same replies were sent (`replies`).  Everything that was seen of the dispatch pool
is the same (`seen`).  And the same can happen to it next (`next`). -/
structure SameMessages (x y : Duty ρ η M) : Prop where
  admissions : x.admissions = y.admissions
  calls : calls x.dispatched = calls y.dispatched
  replies : replies x.dispatched = replies y.dispatched
  seen : x.messages.seen = y.messages.seen
  next : ∀ move : Move ρ M, move.message?.isSome = true →
    (x.next? move).isSome = (y.next? move).isSome

/-- Nothing about signs of life tells two receivers apart, but for their times.

The sink was called in the same way (`calls`).  The same signs of life were dropped (`dropped`).
Everything that was seen of the liveness pool is the same (`seen`).  And the same can happen to it
next (`next`). -/
structure SameSigns (x y : Duty ρ η M) : Prop where
  calls : x.sinkCalls.map Liveness.Effect.timeless = y.sinkCalls.map Liveness.Effect.timeless
  dropped : x.droppedSigns.map Ping.timeless = y.droppedSigns.map Ping.timeless
  seen : x.signs.seen.map (Sight.map Ping.timeless Liveness.Effect.timeless) =
    y.signs.seen.map (Sight.map Ping.timeless Liveness.Effect.timeless)
  next : ∀ move : Move ρ M, move.sign?.isSome = true →
    (x.next? move).isSome = (y.next? move).isSome

theorem SameMessages.of_side (h : x.messageSide = y.messageSide) : SameMessages x y := by
  have hbench : x.messages = y.messages := congrArg Prod.snd h
  constructor
  · rw [Duty.admissions, hbench, Duty.admissions]
  · rw [dispatched, hbench, dispatched]
  · rw [dispatched, hbench, dispatched]
  · rw [hbench]
  · intro move hm
    obtain ⟨deed, hd⟩ := Option.isSome_iff_exists.1 hm
    rw [← Option.isSome_map (f := messageSide), message_next? hd, h, ← message_next? hd,
      Option.isSome_map]

/-- Calls of the sink are calls of it whenever they are made. -/
theorem map_sinkCalls (x : Duty ρ η M) : x.sinkCalls.map Liveness.Effect.timeless =
    (x.signs.map Ping.timeless Liveness.Effect.timeless).done.filter Liveness.Effect.isCall := by
  have hcall : Liveness.Effect.isCall ∘ Liveness.Effect.timeless = Liveness.Effect.isCall := by
    funext effect
    cases effect <;> rfl
  rw [Bench.done_map, List.filter_map, hcall, sinkCalls]

theorem map_droppedSigns (x : Duty ρ η M) : x.droppedSigns.map Ping.timeless =
    ((x.signs.map Ping.timeless Liveness.Effect.timeless).handed.filter
      fun (_, refusal) => !refusal.isEmpty).map Prod.fst := by
  rw [Bench.handed_map, List.filter_map, List.map_map, droppedSigns, List.map_map]
  have hempty : ((fun (_, refusal) => !List.isEmpty refusal) ∘
      fun ((ping, refusal) : Ping × List Liveness.Effect) =>
        (ping.timeless, refusal.map Liveness.Effect.timeless)) =
      fun (_, refusal) => !List.isEmpty refusal := by
    funext ⟨ping, refusal⟩
    simp
  rw [hempty]
  rfl

theorem SameSigns.of_side (h : x.signSide? = y.signSide?) (hx : x.signSide?.isSome = true) :
    SameSigns x y := by
  have hbench : x.signs.map Ping.timeless Liveness.Effect.timeless =
      y.signs.map Ping.timeless Liveness.Effect.timeless := by
    obtain ⟨side, hs⟩ := Option.isSome_iff_exists.1 hx
    obtain ⟨_, -, hxs⟩ := Option.map_eq_some_iff.1 hs
    obtain ⟨_, -, hys⟩ := Option.map_eq_some_iff.1 (h.symm.trans hs)
    exact congrArg Prod.snd (hxs.trans hys.symm)
  constructor
  · rw [map_sinkCalls, hbench, map_sinkCalls]
  · rw [map_droppedSigns, hbench, map_droppedSigns]
  · exact congrArg Bench.seen hbench
  · intro move hm
    obtain ⟨deed, hd⟩ := Option.isSome_iff_exists.1 hm
    rw [← isSome_bind_signSide? hx, sign_next? hd, h, ← sign_next? hd,
      isSome_bind_signSide? (h ▸ hx)]

end Duty

/-- A receiver has a liveness pool if the configuration gives it workers. -/
theorem isSome_events_of_make? {config : Config} {cluster : Option η} {observers : List η}
    {grace : Nat} {r : Receiver ρ η} {built : List (Effect η)}
    (h : make? config cluster observers grace = .ok (r, built))
    (he : config.eventWorkerThreads ≠ 0) : r.events.isSome = true := by
  obtain ⟨_, events, -, hevents, rfl, -⟩ := make?_cases h
  rcases eventPool?_cases hevents with ⟨hnone, -⟩ | ⟨pool, -, rfl⟩
  · exact absurd hnone he
  · rfl

/-- **Messages and signs of life do not meet.**  Two runs of a receiver are given that has a
liveness pool.  If they agree on the deeds of the liveness pool, but for the times of signs of life,
then nothing about signs of life tells them apart, whatever became of messages; and the other way
round. -/
theorem messages_and_signs_independent {config : Config} (hv : config.invalid? = none)
    (he : config.eventWorkerThreads ≠ 0) (cluster : Option η) (observers : List η) (grace : Nat) :
    ∃ (r : Receiver ρ η) (built : List (Effect η)),
      make? config cluster observers grace = .ok (r, built) ∧
        ∀ (first second : List (Duty.Move ρ M)) (x y : Duty ρ η M),
          (Duty.of r).run? first = some x → (Duty.of r).run? second = some y →
            (first.filterMap Duty.Move.sign? = second.filterMap Duty.Move.sign? →
              Duty.SameSigns x y) ∧
            (first.filterMap Duty.Move.message? = second.filterMap Duty.Move.message? →
              Duty.SameMessages x y) := by
  obtain ⟨r, built, hmake, -⟩ := exists_make? (ρ := ρ) hv cluster observers grace
  refine ⟨r, built, hmake, fun first second x y hx hy => ⟨fun h => ?_, fun h => ?_⟩⟩
  · have hside : x.signSide? = y.signSide? := by
      rw [Duty.sign_run? hx, h, Duty.sign_run? hy]
    have hpool : (Duty.of r : Duty ρ η M).signSide?.isSome = true := by
      rw [Duty.signSide?, Option.isSome_map]
      exact isSome_events_of_make? hmake he
    exact .of_side hside ((Duty.isSome_signSide?_run? hx).trans hpool)
  · have hside := (Duty.message_run? hx).trans (h ▸ (Duty.message_run? hy).symm)
    exact .of_side (Option.some.inj hside)

/-- One worker and room for one task in each pool. -/
def pairedConfig : Config :=
  { narrowConfig with eventWorkerThreads := 1, eventWorkerQueueSize := 1 }

/-- The receiver of the configuration. -/
def pairedReceiver : Receiver Unit Empty :=
  { narrowReceiver with events := some ⟨eventPoolName, 1, [], [.idle], false⟩ }

/-- A sign of life with a counter and a time. -/
def pairedPing (sequence : Int32) (timestamp : UInt64) : Ping :=
  ⟨⟨⟨.v4 ⟨10, 0, 0, 1⟩, 4000, 0⟩, none⟩, sequence, timestamp⟩

/-- A sink that takes everything at once. -/
def pairedAnswers : Liveness.Answers :=
  ⟨fun _ => .value (), fun _ => .value ()⟩

/-- Three packets come; the worker takes the first and the third finds no room. -/
def pairedMessages : List (Duty.Move Unit (List UInt8)) :=
  [.send (narrowPacket 1), .work (.take 0 narrowTools), .send (narrowPacket 2),
    .send (narrowPacket 3), .work (.act 0), .work (.act 0)]

/-- Two signs of life come at a time, of which the second finds no room; the worker records the
first. -/
def pairedSigns (timestamp : UInt64) : List (Duty.Move Unit (List UInt8)) :=
  [.ping ⟨fun _ _ => .value (), fun _ _ => .value ()⟩ (pairedPing 5 timestamp),
    .ping ⟨fun _ _ => .value (), fun _ _ => .value ()⟩ (pairedPing 6 timestamp),
    .watch (.take 0 pairedAnswers), .watch (.act 0), .watch (.act 0)]

/-- The handler holds its worker up and a packet is dropped, and a sign of life is dropped; without
either the other side looks the same. -/
theorem independent_when_saturated :
    pairedConfig.invalid? = none ∧ pairedConfig.eventWorkerThreads ≠ 0 ∧
      ∃ x y z : Duty Unit Empty (List UInt8),
        (Duty.of pairedReceiver).run? (pairedMessages ++ pairedSigns 1000) = some x ∧
          (Duty.of pairedReceiver).run? (pairedSigns 2000) = some y ∧
            (Duty.of pairedReceiver).run? pairedMessages = some z ∧
              (x.admissions.map Prod.snd = [true, true, false] ∧ x.droppedSigns.length = 1 ∧
                x.sinkCalls.length = 2 ∧ (calls x.dispatched).length = 1) ∧
                Duty.SameSigns x y ∧ Duty.SameMessages x z := by
  have hv : pairedConfig.invalid? = none := rfl
  have he : pairedConfig.eventWorkerThreads ≠ 0 := by decide
  obtain ⟨r, built, hmake, h⟩ := messages_and_signs_independent (ρ := Unit) (η := Empty)
    (M := List UInt8) hv he none [] 0
  obtain rfl : pairedReceiver = r := congrArg Prod.fst (Except.ok.inj hmake)
  have hx : ((Duty.of pairedReceiver).run? (pairedMessages ++ pairedSigns 1000)).map (fun x =>
      (x.admissions.map Prod.snd, x.droppedSigns.length, x.sinkCalls.length,
        (calls x.dispatched).length)) = some ([true, true, false], 1, 2, 1) := by
    decide +kernel
  have hy : ((Duty.of pairedReceiver).run? (pairedSigns 2000)).isSome = true := by decide +kernel
  have hz : ((Duty.of pairedReceiver).run? pairedMessages).isSome = true := by decide +kernel
  obtain ⟨x, hx, hseen⟩ := Option.map_eq_some_iff.1 hx
  obtain ⟨y, hy⟩ := Option.isSome_iff_exists.1 hy
  obtain ⟨z, hz⟩ := Option.isSome_iff_exists.1 hz
  simp only [Prod.mk.injEq] at hseen
  exact ⟨hv, he, x, y, z, hx, hy, hz, hseen, (h _ _ x y hx hy).1 rfl, (h _ _ x z hx hz).2 rfl⟩

end Receiver

end AgentIntake
