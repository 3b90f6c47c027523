import AgentIntake.Proofs.Pool.Draining
import AgentIntake.Proofs.Receiver.Independence

/-!
# Signs of life are recorded once

To record a sign of life is to call a sink that may fail or panic.  The program says by cases what
follows from that (`Liveness.way`).  Here the same is written down with unwinding: a `Run` ends with
a success, a failure or a panic, what follows is done after a success only, and `Run.caught` is the
one place where a panic is stopped.  The two agree (`recording_eq`), so nothing escapes, and what is
done for a sign of life is one of three lists (`effects_cases`), whatever the sink does.

A `Tracker` is what records signs of life, with everything that it was told and has done.  Signs of
life come to it in any number and at any moment; between them its workers get on in any order, and
somebody may close its pool.  Without a pool it does all that is to be done before it returns.  With
one, the call only submits: what is done is done in the one pass of a sign of life that was
accepted, and nothing is ever done for one that was refused but a warning.
-/

namespace AgentIntake

open Pool

namespace Liveness

/-! ## 1.  Recording, with unwinding -/

/-- What is done, in order, and how it ends. -/
structure Run where
  work : Work Effect
  outcome : Attempt LifecycleError Unit

namespace Run

/-- A call of the sink. -/
def call (effect : Effect) (reaction : Reaction LifecycleError Unit) : Run :=
  ⟨.one effect ++ .waiting reaction, reaction.outcome⟩

/-- What follows is done after a success only. -/
def andThen (r s : Run) : Run :=
  match r.outcome with
  | .returned () => ⟨r.work ++ s.work, s.outcome⟩
  | .failed e => ⟨r.work, .failed e⟩
  | .panicked p => ⟨r.work, .panicked p⟩

/-- The calls of the sink. -/
def transitions (sink : Sink) (ping : Ping) : Run :=
  let emitting := call (.emitted ping .agentPing) (sink.emit ping .agentPing)
  if 0 ≤ ping.sequence then
    (call (.applied ping .running) (sink.apply ping .running)).andThen emitting
  else emitting

/-- What is done, and what went wrong, if anything: a panic has become a failure. -/
def caught (r : Run) : Work Effect × Option LifecycleError :=
  (r.work, failure? r.outcome)

end Run

/-- All that is done to record a sign of life. -/
def recording (sink : Sink) (ping : Ping) : Run :=
  let (work, failure) := (Run.transitions sink ping).caught
  ⟨work ++ .one (.logged (record ping failure)), .returned ()⟩

/-- The calls are those of the program's way, and so is what goes wrong with them. -/
theorem caught_transitions (sink : Sink) (ping : Ping) :
    (Run.transitions sink ping).caught = way sink ping := by
  unfold Run.transitions way
  split
  · cases ha : (sink.apply ping .running).outcome with
    | returned | failed | panicked =>
      simp [Run.andThen, Run.call, Run.caught, emitWay, failure?, ha]
  · rfl

/-- **Whatever the sink does, nothing escapes**, and what is done is what the program does. -/
theorem recording_eq (sink : Sink) (ping : Ping) :
    recording sink ping = ⟨recordWork sink ping, .returned ()⟩ := by
  unfold recording recordWork
  rw [caught_transitions]

/-! ## 2.  What is done for one sign of life -/

/-- The state that the sink was told, with its sign of life. -/
def Effect.applied? : Effect → Option (Ping × AgentState)
  | applied ping state => some (ping, state)
  | emitted .. | logged _ => none

/-- The event that the sink was told, with its sign of life. -/
def Effect.emitted? : Effect → Option (Ping × AgentEvent)
  | emitted ping event => some (ping, event)
  | applied .. | logged _ => none

/-- The record that was made. -/
def Effect.record? : Effect → Option Log.Record
  | logged record => some record
  | applied .. | emitted .. => none

/-- The states that the sink was told. -/
def applies (effects : List Effect) : List (Ping × AgentState) :=
  effects.filterMap Effect.applied?

/-- The events that the sink was told. -/
def emits (effects : List Effect) : List (Ping × AgentEvent) :=
  effects.filterMap Effect.emitted?

/-- The records that were made. -/
def recordsOf (effects : List Effect) : List Log.Record :=
  effects.filterMap Effect.record?

/-- All calls of the sink have succeeded. -/
def Succeed (sink : Sink) (effects : List Effect) : Prop :=
  (∀ c ∈ applies effects, (sink.apply c.1 c.2).outcome = .returned ()) ∧
    ∀ c ∈ emits effects, (sink.emit c.1 c.2).outcome = .returned ()

/-- A call of the sink has gone wrong with this. -/
def FailWith (sink : Sink) (effects : List Effect) (e : LifecycleError) : Prop :=
  (∃ c ∈ applies effects, failure? (sink.apply c.1 c.2).outcome = some e) ∨
    ∃ c ∈ emits effects, failure? (sink.emit c.1 c.2).outcome = some e

/-- It is a warning, with the text of an error. -/
structure Warns (message error : String) (r : Log.Record) : Prop where
  level : r.level = .warn
  message : r.message = message
  error : ("error", .shown error) ∈ r.fields

/-- A sign of life has been recorded, and this was done for it: what is done with unwinding, out of
which nothing comes.  If the counter is not negative the sink is first told, once, that the agent is
running.  It is told of the sign of life, once, unless it was told of the state and that went wrong.
The one record, at the end, says that all went well, or it warns of what went wrong. -/
structure Executed (sink : Sink) (ping : Ping) (effects : List Effect) : Prop where
  work : (recording sink ping).work.effects = effects
  contained : (recording sink ping).outcome = .returned ()
  ordered : effects =
    (applies effects).map (fun c => .applied c.1 c.2) ++
      (emits effects).map (fun c => .emitted c.1 c.2) ++ (recordsOf effects).map .logged
  applied : applies effects = if 0 ≤ ping.sequence then [(ping, .running)] else []
  emitted : emits effects = [(ping, .agentPing)] ↔
    ping.sequence < 0 ∨ (sink.apply ping .running).outcome = .returned ()
  unemitted : emits effects = [] ↔
    ¬(ping.sequence < 0 ∨ (sink.apply ping .running).outcome = .returned ())
  recorded : ∃ r, recordsOf effects = [r] ∧
    (Succeed sink effects ∧ r.level = .debug ∧ r.message = "ping recorded" ∨
      ∃ e, FailWith sink effects e ∧ Warns "failed to record ping" (Diagnostic.message e) r)

/-- **There are three things that can be done for a sign of life.** -/
theorem effects_cases (sink : Sink) (ping : Ping) :
    (0 ≤ ping.sequence ∧ ∃ e, failure? (sink.apply ping .running).outcome = some e ∧
      (recordWork sink ping).effects = [.applied ping .running, .logged (record ping (some e))]) ∨
    (0 ≤ ping.sequence ∧ failure? (sink.apply ping .running).outcome = none ∧
      (recordWork sink ping).effects = [.applied ping .running, .emitted ping .agentPing,
        .logged (record ping (failure? (sink.emit ping .agentPing).outcome))]) ∨
    (¬0 ≤ ping.sequence ∧
      (recordWork sink ping).effects = [.emitted ping .agentPing,
        .logged (record ping (failure? (sink.emit ping .agentPing).outcome))]) := by
  have hone : ∀ e : Effect, (Work.one e).effects = [e] := fun _ => rfl
  unfold recordWork way emitWay
  by_cases hs : 0 ≤ ping.sequence
  · rw [if_pos hs]
    cases hf : failure? (sink.apply ping .running).outcome with
    | some e => exact .inl ⟨hs, e, rfl, by simp [hone, hf]⟩
    | none => exact .inr (.inl ⟨hs, rfl, by simp [hone, hf]⟩)
  · rw [if_neg hs]
    exact .inr (.inr ⟨hs, by simp [hone]⟩)

theorem failure?_eq_none_iff {outcome : Attempt LifecycleError Unit} :
    failure? outcome = none ↔ outcome = .returned () := by
  cases outcome <;> simp [failure?]

/-- How the call that makes the event has ended is what the record says. -/
theorem recorded_of_emitted {sink : Sink} {ping : Ping} {effects : List Effect}
    (happlies : ∀ c ∈ applies effects, (sink.apply c.1 c.2).outcome = .returned ())
    (hemits : emits effects = [(ping, .agentPing)])
    (hrecords : recordsOf effects = [record ping (failure? (sink.emit ping .agentPing).outcome)]) :
    ∃ r, recordsOf effects = [r] ∧
      (Succeed sink effects ∧ r.level = .debug ∧ r.message = "ping recorded" ∨
        ∃ e, FailWith sink effects e ∧ Warns "failed to record ping" (Diagnostic.message e) r) := by
  refine ⟨_, hrecords, ?_⟩
  cases hf : failure? (sink.emit ping .agentPing).outcome with
  | none =>
    refine .inl ⟨⟨happlies, fun p hp => ?_⟩, rfl, rfl⟩
    rw [hemits] at hp
    rw [List.mem_singleton.1 hp]
    exact failure?_eq_none_iff.1 hf
  | some e =>
    refine .inr ⟨e, .inr ⟨(ping, .agentPing), hemits ▸ List.mem_singleton_self _, hf⟩, rfl, rfl, ?_⟩
    exact List.mem_append_right _ (List.mem_singleton_self _)

/-- **What is done for a sign of life is what should be.** -/
theorem executed (sink : Sink) (ping : Ping) :
    Executed sink ping (recordWork sink ping).effects := by
  have hwork : (recording sink ping).work.effects = (recordWork sink ping).effects := by
    rw [recording_eq]
  have hcontained : (recording sink ping).outcome = .returned () := by rw [recording_eq]
  generalize heffects : (recordWork sink ping).effects = effects at hwork ⊢
  have hreturned := @failure?_eq_none_iff (sink.apply ping .running).outcome
  rcases effects_cases sink ping with ⟨hs, e, he, hw⟩ | ⟨hs, he, hw⟩ | ⟨hs, hw⟩
  · obtain rfl := heffects.symm.trans hw
    have hbad : ¬(ping.sequence < 0 ∨ (sink.apply ping .running).outcome = .returned ()) := by
      rintro (hneg | hok)
      · exact Int32.not_le.2 hneg hs
      · rw [hreturned.2 hok] at he
        cases he
    exact
      { work := hwork
        contained := hcontained
        ordered := rfl
        applied := (if_pos hs).symm
        emitted := iff_of_false nofun hbad
        unemitted := iff_of_true rfl hbad
        recorded := by
          refine ⟨_, rfl,
            .inr ⟨e, .inl ⟨(ping, .running), List.mem_singleton_self _, he⟩, rfl, rfl, ?_⟩⟩
          exact List.mem_append_right _ (List.mem_singleton_self _) }
  · obtain rfl := heffects.symm.trans hw
    have hgood : ping.sequence < 0 ∨ (sink.apply ping .running).outcome = .returned () :=
      .inr (hreturned.1 he)
    exact
      { work := hwork
        contained := hcontained
        ordered := rfl
        applied := (if_pos hs).symm
        emitted := iff_of_true rfl hgood
        unemitted := iff_of_false nofun fun h => h hgood
        recorded := by
          refine recorded_of_emitted (fun p hp => ?_) rfl rfl
          rw [List.mem_singleton.1 hp]
          exact hreturned.1 he }
  · obtain rfl := heffects.symm.trans hw
    have hgood : ping.sequence < 0 ∨ (sink.apply ping .running).outcome = .returned () :=
      .inl (Int32.not_le.1 hs)
    exact
      { work := hwork
        contained := hcontained
        ordered := rfl
        applied := (if_neg hs).symm
        emitted := iff_of_true rfl hgood
        unemitted := iff_of_false nofun fun h => h hgood
        recorded := recorded_of_emitted nofun rfl rfl }

/-! ## 3.  Trackers -/

/-- A sign of life that came: what the sink answers if it is called at once, the pool that the call
found, and what had been done when the call returned. -/
structure Call where
  ping : Ping
  answers : Answers
  found : Option (Pool Ping)
  effects : List Effect

/-- A recorder of signs of life, with its past: its pool with the past of that, if it has one, and
the calls, in order. -/
structure Tracker where
  crew : Option (Crew Answers Ping Effect)
  calls : List Call

namespace Tracker

/-- Something that happens to a tracker. -/
inductive Move where
  | ping (answers : Answers) (ping : Ping)
  | turn (turn : Turn Answers)
  | close

/-- The pool as the program has it. -/
def executor (x : Tracker) : Option (Pool Ping) :=
  x.crew.map fun c => c.history.pool.map Prod.fst

/-- A sign of life comes. -/
def record (x : Tracker) (answers : Answers) (ping : Ping) : Tracker where
  crew := x.crew.map (·.submit ping)
  calls := x.calls ++
    [⟨ping, answers, x.executor, (deliver answers.sink x.executor ping).2⟩]

/-- The tracker after a move, if it can happen. -/
def next? (x : Tracker) : Move → Option Tracker
  | .ping answers ping => some (x.record answers ping)
  | .turn turn =>
    x.crew.bind fun c => (c.turn? trade.work turn).map fun d => { x with crew := some d }
  | .close => some { x with crew := x.crew.map Crew.close }

/-- The tracker after moves in order, if they can happen. -/
def run? (x : Tracker) : List Move → Option Tracker
  | [] => some x
  | move :: moves => (x.next? move).bind (·.run? moves)

/-- What a move is to the pool that the program has. -/
def Move.onPool? (executor : Option (Pool Ping)) : Move → Option (Option (Pool Ping))
  | .ping answers p => some (deliver answers.sink executor p).1
  | .turn t => (executor.bind (·.turn? t)).map some
  | .close => some (executor.map Pool.close)

/-- **The pool of a tracker is the one that the program has.** -/
theorem executor_next? {x y : Tracker} {move : Move} (h : x.next? move = some y) :
    move.onPool? x.executor = some y.executor := by
  cases move with
  | ping answers ping =>
    cases h
    unfold record executor Move.onPool?
    cases x.crew with
    | none => rfl
    | some c =>
      show some (deliver answers.sink (some (c.history.pool.map Prod.fst)) ping).1 =
        some (some ((c.history.submit ping).pool.map Prod.fst))
      rcases c.history.submit_cases ping with ⟨pool, hp, he⟩ | ⟨e, hp, he⟩
      · rw [he, deliver, hp]
      · rw [he, deliver, hp]
  | turn turn =>
    obtain ⟨c, hcrew, hc⟩ := Option.bind_eq_some_iff.1 h
    obtain ⟨d, hd, rfl⟩ := Option.map_eq_some_iff.1 hc
    have hpool : x.executor = some (c.history.pool.map Prod.fst) := congrArg (Option.map _) hcrew
    rw [Move.onPool?, hpool, Option.bind_some, Crew.turn?_map Prod.fst hd]
    rfl
  | close =>
    cases h
    unfold executor Move.onPool?
    cases x.crew <;> rfl

/-- A new tracker, without a pool or with a new one. -/
inductive New : Tracker → Prop where
  | alone : New ⟨none, []⟩
  | pooled {name : String} {threads capacity : Nat} {p : Pool (Ticket Ping)}
    (made : Pool.make? name threads capacity = .ok p) : New ⟨some (.start p), []⟩

end Tracker

/-! ## 4.  What a call does -/

/-- What has been done when a call returns: all that is to be done, if there is no pool; nothing
yet, if the pool is open and has room; and otherwise a warning, while the sink is not called. -/
inductive Call.Lawful (call : Call) : Prop where
  | inline (found : call.found = none)
    (executed : Executed call.answers.sink call.ping call.effects)
  | accepted {p : Pool Ping} (found : call.found = some p) (isOpen : p.isClosed = false)
    (room : p.queue.length < p.capacity) (silent : call.effects = [])
  | shut {p : Pool Ping} (found : call.found = some p) (isClosed : p.isClosed = true)
    {r : Log.Record} (warned : call.effects = [.logged r])
    (warns : Warns "ping dropped" (PoolError.shutdown p.name).message r)
  | full {p : Pool Ping} (found : call.found = some p) (isOpen : p.isClosed = false)
    (noRoom : p.capacity ≤ p.queue.length) {r : Log.Record} (warned : call.effects = [.logged r])
    (warns : Warns "ping dropped" (PoolError.rejected p.name p.capacity).message r)

theorem warns_droppedRecord (ping : Ping) (e : PoolError) :
    Warns "ping dropped" e.message (droppedRecord ping e) :=
  ⟨rfl, rfl, List.mem_cons_of_mem _ (List.mem_singleton_self _)⟩

/-- **Every call does what it should.** -/
theorem lawful_deliver (answers : Answers) (executor : Option (Pool Ping)) (ping : Ping) :
    Call.Lawful ⟨ping, answers, executor, (deliver answers.sink executor ping).2⟩ := by
  cases executor with
  | none => exact .inline rfl (executed answers.sink ping)
  | some p =>
    have hwarned : ∀ e, p.submit ping = .error e →
        (deliver answers.sink (some p) ping).2 = [.logged (droppedRecord ping e)] := by
      intro e he
      rw [deliver, he]
    rcases p.submit_answers ping with ⟨hc, he⟩ | ⟨hc, hq, he⟩ | ⟨hc, hq, he⟩
    · exact .shut rfl hc (hwarned _ he) (warns_droppedRecord ping _)
    · exact .full rfl hc hq (hwarned _ he) (warns_droppedRecord ping _)
    · refine .accepted rfl hc hq ?_
      show (deliver answers.sink (some p) ping).2 = []
      rw [deliver, he]

/-! ## 5.  What becomes of a sign of life -/

/-- What a pool has answered to the call with a number. -/
inductive Call.Answered (h : History Ping) (number : Nat) (call : Call) : Prop where
  | accepted (mem : (call.ping, number) ∈ h.accepted) (silent : call.effects = [])
  | refused (e : PoolError) (mem : ((call.ping, number), e) ∈ h.refused)
    (warned : call.effects = [.logged (droppedRecord call.ping e)])

/-- An answer stays. -/
theorem Call.Answered.grows {g h : History Ping} {number : Nat} {call : Call}
    (ha : call.Answered g number) (hgrows : g.Grows h) : call.Answered h number := by
  cases ha with
  | accepted mem silent => exact .accepted (hgrows.accepted.subset mem) silent
  | refused e mem warned => exact .refused e (hgrows.refused.subset mem) warned

/-- What becomes of a sign of life that came under a number to a tracker with a pool.  It is
recorded, once at most, and the call has done nothing itself; or it is dropped with one warning, and
nothing else is ever done for it. -/
inductive Call.Fate (c : Crew Answers Ping Effect) (number : Nat) (call : Call) : Prop where
  | recorded (silent : call.effects = []) (once : (c.passesOf number).length ≤ 1)
    (executed : ∀ p ∈ c.passesOf number,
      Executed p.tools.sink call.ping (p.done ++ p.ahead.effects))
  | dropped {r : Log.Record} {e : PoolError} (warned : call.effects = [.logged r])
    (warns : Warns "ping dropped" e.message r) (idle : c.passesOf number = [])

/-- What becomes of the signs of life that came to a tracker with a pool.

Each is recorded or dropped (`fates`).  What is recorded has come, and was not dropped (`own`).
When the workers have left all is recorded that was not dropped (`drained`). -/
structure Pooled (c : Crew Answers Ping Effect) (calls : List Call) : Prop where
  fates : ∀ (number : Nat) (call : Call), calls[number]? = some call → call.Fate c number
  own : ∀ p ∈ c.passes, ∃ call, calls[p.ticket.2]? = some call ∧ call.ping = p.ticket.1 ∧
    call.effects = []
  drained : c.history.pool.live = 0 → ∀ (number : Nat) (call : Call), calls[number]? = some call →
    call.effects = [] →
      ∃ p, c.passesOf number = [p] ∧ p.ahead = [] ∧ Executed p.tools.sink call.ping p.done

/-- How signs of life are recorded.

Every call has done what it should (`calls`).  Without a pool every sign of life has been recorded
when the call returned (`alone`).  With a pool each is recorded once or dropped (`pooled`). -/
structure Tracker.Recorded (x : Tracker) : Prop where
  calls : ∀ call ∈ x.calls, call.Lawful
  alone : x.crew = none → ∀ call ∈ x.calls, Executed call.answers.sink call.ping call.effects
  pooled : ∀ c, x.crew = some c → Pooled c x.calls

namespace Tracker

/-- What holds of the pool of a tracker and of its calls at every moment. -/
structure Sound (threads capacity : Nat) (c : Crew Answers Ping Effect) (calls : List Call) :
    Prop where
  crew : c.Sound trade.work threads capacity
  length_eq : calls.length = c.history.submitted.length
  answered : ∀ (number : Nat) (call : Call), calls[number]? = some call →
    call.Answered c.history number

variable {threads capacity : Nat} {c d : Crew Answers Ping Effect} {calls : List Call}
  {x y : Tracker}

theorem sound_start (name : String) (threads capacity : Nat) :
    Sound threads capacity (.start (History.fresh name threads capacity)) [] where
  crew := Crew.sound_start name threads capacity
  length_eq := rfl
  answered number call hcall := by
    rw [List.getElem?_nil] at hcall
    cases hcall

/-- The account is right as long as nothing is submitted. -/
theorem Sound.grows (hs : Sound threads capacity c calls) (hd : d.Sound trade.work threads capacity)
    (hgrows : c.history.Grows d.history) (hsubmitted : d.history.submitted = c.history.submitted) :
    Sound threads capacity d calls where
  crew := hd
  length_eq := hs.length_eq.trans (congrArg List.length hsubmitted.symm)
  answered number call hcall := (hs.answered number call hcall).grows hgrows

/-- A further call has an answer. -/
theorem Sound.record (hs : Sound threads capacity c calls) (answers : Answers) (ping : Ping) :
    Sound threads capacity (c.submit ping)
      (calls ++ [⟨ping, answers, some (c.history.pool.map Prod.fst),
        (deliver answers.sink (some (c.history.pool.map Prod.fst)) ping).2⟩]) := by
  have hgrows := c.history.grows_submit ping
  refine
    { crew := hs.crew.submit ping
      length_eq := by
        rw [List.length_append, hs.length_eq]
        show _ = (c.history.submit ping).submitted.length
        rw [(c.history.past_submit ping).1, List.length_append]
        rfl
      answered := fun number call hcall => ?_ }
  rcases Nat.lt_or_ge number calls.length with hlt | hge
  · rw [List.getElem?_append_left hlt] at hcall
    exact (hs.answered number call hcall).grows hgrows
  · obtain ⟨hn, rfl⟩ : number = calls.length ∧ _ = call := by
      rw [List.getElem?_append_right hge, List.getElem?_singleton] at hcall
      split at hcall
      · exact ⟨by omega, Option.some.inj hcall⟩
      · cases hcall
    rw [hn, hs.length_eq]
    rcases c.history.submit_cases ping with ⟨pool, hp, he⟩ | ⟨e, hp, he⟩
    · refine .accepted ?_ ?_
      · show _ ∈ (c.history.submit ping).accepted
        rw [he]
        exact List.mem_append_right _ (List.mem_singleton_self _)
      · show (deliver _ _ _).2 = []
        rw [deliver, hp]
    · refine .refused e ?_ ?_
      · show _ ∈ (c.history.submit ping).refused
        rw [he]
        exact List.mem_append_right _ (List.mem_singleton_self _)
      · show (deliver _ _ _).2 = _
        rw [deliver, hp]

/-- A turn of a worker is no submission. -/
theorem submitted_turn? {turn : Turn Answers} (h : c.turn? trade.work turn = some d) :
    d.history.submitted = c.history.submitted := by
  cases turn with
  | take worker tools =>
    obtain ⟨_, _, rfl⟩ := Option.map_eq_some_iff.1 h
    rfl
  | act i =>
    obtain ⟨_, _, hp⟩ := Option.bind_eq_some_iff.1 h
    obtain ⟨_, _, rfl⟩ := Option.map_eq_some_iff.1 hp
    rfl
  | finish worker ending =>
    obtain ⟨_, _, hd⟩ := Option.bind_eq_some_iff.1 h
    dsimp only at hd
    split at hd
    · cases hd
      rfl
    · cases hd
  | leave worker =>
    obtain ⟨_, _, rfl⟩ := Option.map_eq_some_iff.1 h
    rfl

/-- The task of a ticket that was accepted is the one that was submitted under its number. -/
theorem Sound.getElem?_submitted (hs : Sound threads capacity c calls) {t : Ticket Ping}
    (ht : t ∈ c.history.accepted) : c.history.submitted[t.2]? = some t.1 := by
  refine List.mem_zipIdx_iff_getElem?.1 ?_
  exact hs.crew.history.numbered.subset (List.mem_append_left _ ht)

/-- **Each sign of life is recorded or dropped.** -/
theorem Sound.fate (hs : Sound threads capacity c calls) {number : Nat} {call : Call}
    (hcall : calls[number]? = some call) : call.Fate c number := by
  cases hs.answered number call hcall with
  | refused e mem warned =>
    exact .dropped warned (warns_droppedRecord _ e) (hs.crew.passesOf_of_refused mem)
  | accepted mem silent =>
    refine .recorded silent (hs.crew.length_passesOf_le number) fun p hp => ?_
    obtain ⟨hp, hn⟩ := List.mem_filter.1 hp
    have hticket := hs.getElem?_submitted (hs.crew.mem_accepted hp)
    rw [of_decide_eq_true hn, hs.getElem?_submitted mem] at hticket
    rw [hs.crew.work_eq p hp, ← Option.some.inj hticket]
    exact executed p.tools.sink call.ping

/-- What has a pass has come, and was accepted. -/
theorem Sound.exists_call (hs : Sound threads capacity c calls) {p : Pass Answers Ping Effect}
    (hp : p ∈ c.passes) :
    ∃ call, calls[p.ticket.2]? = some call ∧ call.ping = p.ticket.1 ∧ call.effects = [] := by
  have hsubmitted := hs.getElem?_submitted (hs.crew.mem_accepted hp)
  have hlt : p.ticket.2 < calls.length := by
    rw [hs.length_eq]
    exact (List.getElem?_eq_some_iff.1 hsubmitted).1
  refine ⟨calls[p.ticket.2], List.getElem?_eq_getElem hlt, ?_⟩
  cases hs.answered _ _ (List.getElem?_eq_getElem hlt) with
  | accepted mem silent =>
    rw [hs.getElem?_submitted mem] at hsubmitted
    exact ⟨Option.some.inj hsubmitted, silent⟩
  | refused e mem warned =>
    have hidle := hs.crew.passesOf_of_refused mem
    exact absurd (decide_eq_true rfl) (List.filter_eq_nil_iff.1 hidle p hp)

theorem Sound.pooled (hs : Sound threads capacity c calls) (ht : 0 < threads) : Pooled c calls where
  fates _ _ := hs.fate
  own _ := hs.exists_call
  drained hl number call hcall hsilent := by
    cases hs.answered number call hcall with
    | refused e mem warned =>
      rw [hsilent] at warned
      cases warned
    | accepted mem silent =>
      obtain ⟨p, hp, -, hahead, hdone⟩ := hs.crew.exists_pass ht hl mem
      refine ⟨p, hp, hahead, ?_⟩
      rw [hdone]
      exact executed p.tools.sink call.ping

/-! ## 6.  Every moment -/

/-- What each move keeps holds at every moment. -/
theorem run?_induction {P : Tracker → Prop}
    (hnext : ∀ {x y : Tracker} {move : Move}, P x → x.next? move = some y → P y) (hx : P x)
    {moves : List Move} (h : x.run? moves = some y) : P y := by
  induction moves generalizing x with
  | nil =>
    cases h
    exact hx
  | cons move moves ih =>
    obtain ⟨z, hz, hy⟩ := Option.bind_eq_some_iff.1 h
    exact ih (hnext hx hz) hy

theorem lawful_next? {move : Move} (hx : ∀ call ∈ x.calls, call.Lawful)
    (h : x.next? move = some y) : ∀ call ∈ y.calls, call.Lawful := by
  cases move with
  | ping answers ping =>
    cases h
    intro call hcall
    rcases List.mem_append.1 hcall with hcall | hcall
    · exact hx call hcall
    · rw [List.mem_singleton.1 hcall]
      exact lawful_deliver answers x.executor ping
  | turn turn =>
    obtain ⟨c, -, hd⟩ := Option.bind_eq_some_iff.1 h
    obtain ⟨d, -, rfl⟩ := Option.map_eq_some_iff.1 hd
    exact hx
  | close =>
    cases h
    exact hx

/-- A tracker without a pool gets none, and no call finds one. -/
theorem alone_next? {move : Move} (hx : x.crew = none ∧ ∀ call ∈ x.calls, call.found = none)
    (h : x.next? move = some y) : y.crew = none ∧ ∀ call ∈ y.calls, call.found = none := by
  obtain ⟨hcrew, hcalls⟩ := hx
  cases move with
  | ping answers ping =>
    cases h
    refine ⟨congrArg (Option.map _) hcrew, fun call hcall => ?_⟩
    rcases List.mem_append.1 hcall with hcall | hcall
    · exact hcalls call hcall
    · rw [List.mem_singleton.1 hcall]
      exact congrArg (Option.map _) hcrew
  | turn turn =>
    rw [next?, hcrew] at h
    cases h
  | close =>
    cases h
    exact ⟨congrArg (Option.map _) hcrew, hcalls⟩

/-- **Whatever happens, a tracker with a pool keeps account.** -/
theorem sound_next? {move : Move} (hx : ∃ c, x.crew = some c ∧ Sound threads capacity c x.calls)
    (h : x.next? move = some y) : ∃ d, y.crew = some d ∧ Sound threads capacity d y.calls := by
  obtain ⟨c, hcrew, hs⟩ := hx
  cases move with
  | ping answers ping =>
    cases h
    refine ⟨c.submit ping, congrArg (Option.map _) hcrew, ?_⟩
    have hfound : x.executor = some (c.history.pool.map Prod.fst) := congrArg (Option.map _) hcrew
    rw [Tracker.record, hfound]
    exact hs.record answers ping
  | turn turn =>
    rw [next?, hcrew] at h
    obtain ⟨d, hd, rfl⟩ := Option.map_eq_some_iff.1 h
    exact ⟨d, rfl, hs.grows (hs.crew.turn? hd) (Crew.grows_turn? hd) (submitted_turn? hd)⟩
  | close =>
    cases h
    exact ⟨c.close, congrArg (Option.map _) hcrew,
      hs.grows hs.crew.close c.history.grows_close rfl⟩

end Tracker

/-- **Signs of life are recorded once or dropped.**  The tracker has a pool or not; the sink answers
each call as it likes; signs of life come in any number and with any counters; workers get on in any
order and the pool may be closed at any moment. -/
theorem pings_recorded_once {x y : Tracker} (hx : x.New) {moves : List Tracker.Move}
    (h : x.run? moves = some y) : y.Recorded := by
  have hnew : x.calls = [] := by cases hx <;> rfl
  have hlawful : ∀ call ∈ y.calls, call.Lawful := by
    refine Tracker.run?_induction Tracker.lawful_next? (fun call hcall => ?_) h
    rw [hnew] at hcall
    cases hcall
  cases hx with
  | alone =>
    obtain ⟨hcrew, hfound⟩ := Tracker.run?_induction Tracker.alone_next?
      ⟨rfl, fun _ hcall => absurd hcall List.not_mem_nil⟩ h
    refine ⟨hlawful, fun _ call hcall => ?_, fun c hc => absurd (hcrew.symm.trans hc) nofun⟩
    have hnone := hfound call hcall
    cases hlawful call hcall with
    | inline found executed => exact executed
    | accepted found | shut found | full found =>
      rw [hnone] at found
      cases found
  | @pooled name threads capacity p made =>
    obtain ⟨ht, -, rfl⟩ := History.fresh_of_make? made
    have hstart := Tracker.sound_start name threads capacity
    obtain ⟨d, hcrew, hs⟩ := Tracker.run?_induction Tracker.sound_next? ⟨_, rfl, hstart⟩ h
    refine ⟨hlawful, fun hnone => absurd (hnone.symm.trans hcrew) nofun, fun c hc => ?_⟩
    cases hcrew.symm.trans hc
    exact hs.pooled ht

/-- A sign of life with a counter. -/
def signOf (sequence : Int32) : Ping :=
  ⟨⟨⟨.v4 ⟨10, 0, 0, 1⟩, 4000, 0⟩, none⟩, sequence, 1000⟩

/-- A sink that takes the state and panics at the event. -/
def halfway : Answers :=
  ⟨fun _ => .value (), fun _ => ⟨false, .panicked (.text "no room")⟩⟩

/-- One worker, and room for one task: the first sign of life is being recorded and the second waits
when the third comes and is dropped.  The pool is closed, a fourth is dropped, and the workers
finish. -/
def fourSigns : List Tracker.Move :=
  [.ping halfway (signOf 3), .turn (.take 0 halfway), .ping halfway (signOf (-1)),
    .ping halfway (signOf 5), .turn (.act 0), .turn (.act 0), .turn (.act 0), .close,
    .ping halfway (signOf 6), .turn (.finish 0 .returned), .turn (.take 0 halfway), .turn (.act 1),
    .turn (.act 1), .turn (.finish 0 .returned), .turn (.leave 0)]

/-- Of the four two are dropped and two are recorded, with two calls of the sink and with one. -/
theorem recording_of_four_signs :
    Tracker.New ⟨some (.start (History.fresh "signs" 1 1)), []⟩ ∧
      ∃ (c : Crew Answers Ping Effect) (y : Tracker), y.crew = some c ∧
        Tracker.run? ⟨some (.start (History.fresh "signs" 1 1)), []⟩ fourSigns = some y ∧
        y.Recorded ∧ c.history.pool.live = 0 ∧
        y.calls.map (fun call => (recordsOf call.effects).map (·.message)) =
          [[], [], ["ping dropped"], ["ping dropped"]] ∧
        c.passes.map (fun p => ((applies p.done).length, (emits p.done).length,
          (recordsOf p.done).map (·.message))) =
          [(1, 1, ["failed to record ping"]), (0, 1, ["failed to record ping"])] := by
  have hnew : Tracker.New ⟨some (.start (History.fresh "signs" 1 1)), []⟩ :=
    @Tracker.New.pooled "signs" 1 1 _ rfl
  exact ⟨hnew, _, _, rfl, rfl, @pings_recorded_once _ _ hnew fourSigns rfl, rfl, rfl, rfl⟩

end Liveness

end AgentIntake
