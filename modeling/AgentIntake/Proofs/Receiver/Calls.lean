import AgentIntake.Intake
import AgentIntake.Proofs.Receiver.Accounting

/-!
# Calls of a receiver

A receiver is started and stopped, and between the calls something happens to its pools.  An `Entry`
is one call with all that it leads to, and `life` makes calls in order.

What a call does depends on three flags of the receiver, and `Step` says once what that is; later
proofs only look at its cases.  A start is refused or is an attempt to bind, and a stop does nothing
or closes everything.

## What happens between the calls

Packets are handed in and workers get on, before a stop and while it waits.  That is an `Activity`,
and whether a stop can wait long enough depends on it.  But no packet and no worker closes a pool,
so an activity leaves everything else about a receiver as it is (`Alike`).
-/

namespace AgentIntake

/-! ## 1.  Pools that nobody closes -/

namespace Pool

variable {α : Type}

/-- The pool after events, but for those that cannot happen; nobody closes it. -/
def advance (p : Pool α) : List (PoolEvent α) → Pool α
  | [] => p
  | .close :: events => p.advance events
  | event :: events => ((p.next? event).getD p).advance events

theorem isClosed_next? {p q : Pool α} {event : PoolEvent α} (h : p.next? event = some q)
    (hne : event ≠ .close) : q.isClosed = p.isClosed := by
  cases event with
  | close => exact absurd rfl hne
  | accept task =>
    rw [next?] at h
    cases hs : p.submit task with
    | error e =>
      rw [hs] at h
      cases h
    | ok r =>
      rw [hs] at h
      cases h
      obtain ⟨-, -, rfl⟩ := submit_cases hs
      rfl
  | take worker =>
    obtain ⟨⟨task, r⟩, hr, rfl⟩ := Option.map_eq_some_iff.1 h
    obtain ⟨_, _, _, -, -, -, rfl⟩ := take?_cases hr
    rfl
  | finish worker =>
    obtain ⟨⟨task, r⟩, hr, rfl⟩ := Option.map_eq_some_iff.1 h
    obtain ⟨_, _, -, -, rfl⟩ := finish?_cases hr
    rfl
  | leave worker =>
    obtain ⟨_, _, -, -, -, -, rfl⟩ := leave?_cases h
    rfl

@[simp] theorem isClosed_advance (p : Pool α) (events : List (PoolEvent α)) :
    (p.advance events).isClosed = p.isClosed := by
  fun_induction advance p events with
  | case1 => rfl
  | case2 p events ih => exact ih
  | case3 p event events hne ih =>
    rw [ih]
    cases h : p.next? event with
    | none => rfl
    | some q => exact isClosed_next? h hne

end Pool

namespace Receiver

variable {ρ η : Type}

/-! ## 2.  Calls -/

/-- What happens to the pools of a receiver. -/
structure Activity (ρ : Type) where
  dispatch : List (PoolEvent (Delivery ρ))
  events : List (PoolEvent Ping)

/-- The receiver after something has happened to its pools. -/
def advance (r : Receiver ρ η) (activity : Activity ρ) : Receiver ρ η :=
  { r with
    dispatch := r.dispatch.advance activity.dispatch
    events := r.events.map (·.advance activity.events) }

/-- What is done to a receiver.  It is started, with what the probe hosts stand for then and with
how binding ends if it comes to that; it is stopped, with what happens while each pool is waited
for; or something happens to its pools between two calls. -/
inductive Call (ρ : Type) where
  | start (lookup : Probe.Lookup) (bound : Except TransportError Unit)
  | stop (meanwhile : Executor → Activity ρ)
  | between (activity : Activity ρ)

/-- What a call returns. -/
inductive Answer where
  | started (result : Except ReceiverError Unit)
  | stopped (outcome : ShutdownOutcome)
  | none

/-- One call with all that it leads to: the receiver before and after it, what others see, and what
is returned. -/
structure Entry (ρ η : Type) where
  earlier : Receiver ρ η
  call : Call ρ
  effects : List (Effect η)
  answer : Answer
  later : Receiver ρ η

/-- Makes a call. -/
def take (r : Receiver ρ η) (call : Call ρ) : Entry ρ η :=
  match call with
  | .start lookup bound =>
    let (s, effects, result) := r.start lookup bound
    ⟨r, call, effects, .started result, s⟩
  | .stop meanwhile =>
    let (s, effects, outcome) := r.stop fun k s => s.advance (meanwhile k)
    ⟨r, call, effects, .stopped outcome, s⟩
  | .between activity => ⟨r, call, [], .none, r.advance activity⟩

/-- Makes calls in order. -/
def life (r : Receiver ρ η) : List (Call ρ) → List (Entry ρ η)
  | [] => []
  | call :: calls => r.take call :: (r.take call).later.life calls

@[simp] theorem call_take (r : Receiver ρ η) (call : Call ρ) : (r.take call).call = call := by
  cases call <;> rfl

/-- A life is one of the calls that are made, in their order. -/
@[simp] theorem map_call_life (r : Receiver ρ η) (calls : List (Call ρ)) :
    (r.life calls).map Entry.call = calls := by
  induction calls generalizing r with
  | nil => rfl
  | cons call calls ih => simp [life, ih]

/-- All that others see. -/
def trace (log : List (Entry ρ η)) : List (Effect η) :=
  log.flatMap Entry.effects

@[simp] theorem trace_append_singleton (log : List (Entry ρ η)) (e : Entry ρ η) :
    trace (log ++ [e]) = trace log ++ e.effects := by
  simp [trace]

/-! ## 3.  What is seen of effects -/

/-- Where a list ends with something, that is what one meets or it comes later. -/
theorem append_singleton_cases {α : Type} {l first rest : List α} {last a : α}
    (h : l ++ [last] = first ++ a :: rest) :
    first = l ∧ a = last ∧ rest = [] ∨
      ∃ middle, l = first ++ a :: middle ∧ rest = middle ++ [last] := by
  rcases List.eq_nil_or_concat rest with rfl | ⟨middle, b, rfl⟩
  · obtain ⟨hl, ha⟩ := List.append_inj' h rfl
    exact .inl ⟨hl.symm, (List.cons.inj ha).1.symm, rfl⟩
  · have hm : l ++ [last] = first ++ a :: middle ++ [b] := by simpa using h
    obtain ⟨hl, hb⟩ := List.append_inj' hm rfl
    exact .inr ⟨middle, hl, by rw [(List.cons.inj hb).1, List.concat_eq_append]⟩

namespace Effect

/-- The address at which the acceptor is to listen. -/
def bind? : Effect η → Option (String × UInt16)
  | acceptor (.bind host port) => some (host, port)
  | acceptor (.addObserver _) | acceptor (.setIgnored _) | acceptor .setListener
  | acceptor .close | health _ | logged _ => none

/-- The observer of whom the acceptor is told. -/
def observer? : Effect η → Option η
  | acceptor (.addObserver observer) => some observer
  | acceptor (.bind ..) | acceptor (.setIgnored _) | acceptor .setListener | acceptor .close
  | health _ | logged _ => none

/-- The stage that is reported. -/
def report? : Effect η → Option HealthEvent
  | health event => some event
  | acceptor _ | logged _ => none

/-- The acceptor is closed. -/
def isClose : Effect η → Bool
  | acceptor .close => true
  | acceptor (.addObserver _) | acceptor (.setIgnored _) | acceptor .setListener
  | acceptor (.bind ..) | health _ | logged _ => false

end Effect

/-- The attempts to bind the acceptor. -/
def binds (effects : List (Effect η)) : List (String × UInt16) :=
  effects.filterMap Effect.bind?

/-- The observers of whom the acceptor is told. -/
def observed (effects : List (Effect η)) : List η :=
  effects.filterMap Effect.observer?

/-- The stages that are reported. -/
def reports (effects : List (Effect η)) : List HealthEvent :=
  effects.filterMap Effect.report?

/-- How often the acceptor is closed. -/
def closes (effects : List (Effect η)) : Nat :=
  effects.countP Effect.isClose

section

variable (effect : Effect η) (effects first second : List (Effect η))

@[simp] theorem binds_cons : binds (effect :: effects) = effect.bind?.toList ++ binds effects := by
  cases h : effect.bind? <;> simp [binds, h]

@[simp] theorem observed_cons :
    observed (effect :: effects) = effect.observer?.toList ++ observed effects := by
  cases h : effect.observer? <;> simp [observed, h]

@[simp] theorem reports_cons :
    reports (effect :: effects) = effect.report?.toList ++ reports effects := by
  cases h : effect.report? <;> simp [reports, h]

@[simp] theorem closes_cons :
    closes (effect :: effects) = closes effects + if effect.isClose then 1 else 0 :=
  List.countP_cons

@[simp] theorem seen_nil :
    binds ([] : List (Effect η)) = [] ∧ observed ([] : List (Effect η)) = [] ∧
      reports ([] : List (Effect η)) = [] ∧ closes ([] : List (Effect η)) = 0 :=
  ⟨rfl, rfl, rfl, rfl⟩

@[simp] theorem binds_append : binds (first ++ second) = binds first ++ binds second :=
  List.filterMap_append

@[simp] theorem observed_append : observed (first ++ second) = observed first ++ observed second :=
  List.filterMap_append

@[simp] theorem reports_append : reports (first ++ second) = reports first ++ reports second :=
  List.filterMap_append

@[simp] theorem closes_append : closes (first ++ second) = closes first + closes second :=
  List.countP_append

end

/-- Records are none of these. -/
@[simp] theorem seen_logged (records : List Log.Record) :
    binds (records.map (.logged (η := η))) = [] ∧ observed (records.map (.logged (η := η))) = [] ∧
      reports (records.map (.logged (η := η))) = [] ∧
        closes (records.map (.logged (η := η))) = 0 := by
  simp [binds, observed, reports, closes, Effect.bind?, Effect.observer?, Effect.report?,
    Effect.isClose, List.filterMap_map, Function.comp_def, List.countP_map]

/-- The acceptor has the observers of whom it was told, in order. -/
theorem observers_obeyAll {M : Type} (network : Acceptor.Network) (a : Acceptor η)
    (effects : List (Effect η)) :
    (Intake.obeyAll (M := M) network a effects).1.observers = a.observers ++ observed effects := by
  induction effects generalizing a with
  | nil => exact (List.append_nil _).symm
  | cons effect effects ih =>
    cases effect with
    | health | logged => exact ih a
    | acceptor call =>
      refine (ih _).trans ?_
      cases call with
      | addObserver observer => exact List.append_assoc _ _ _
      | setIgnored | setListener => rfl
      | bind host port =>
        show (a.bind network host port).1.observers ++ _ = _
        unfold Acceptor.bind
        split <;> rfl
      | close =>
        show a.close.1.observers ++ _ = _
        unfold Acceptor.close
        split <;> rfl

/-! ## 4.  Starting -/

/-- Why the probe hosts cannot be resolved, if they are and cannot. -/
def probeFailure? (hosts : List String) (lookup : Probe.Lookup) : Option Probe.Failure :=
  if hosts.isEmpty then none
  else
    match Probe.resolve lookup hosts with
    | .ok _ => none
    | .error e => some e

/-- What an attempt to bind reports before. -/
def attemptReports (host : String) (port : UInt16) (failure : Option Probe.Failure) :
    List HealthEvent :=
  .receiverStarting host port :: failure.toList.map .probeFailed

section

variable (r : Receiver ρ η) (lookup : Probe.Lookup)

/-- What is done about the probe hosts is no bind and no closing, and tells of no observer. -/
theorem seen_probeEffects :
    binds (r.probeEffects lookup) = [] ∧ observed (r.probeEffects lookup) = [] ∧
      reports (r.probeEffects lookup) =
        (probeFailure? r.probeHosts lookup).toList.map .probeFailed ∧
        closes (r.probeEffects lookup) = 0 := by
  unfold probeEffects probeFailure?
  split
  · exact ⟨rfl, rfl, rfl, rfl⟩
  · cases Probe.resolve lookup r.probeHosts <;> exact ⟨rfl, rfl, rfl, rfl⟩

/-- The observers are told of in order, and nothing else is done about them. -/
theorem seen_observers (observers : List η) :
    binds (observers.map fun o => Effect.acceptor (.addObserver o)) = [] ∧
      observed (observers.map fun o => Effect.acceptor (.addObserver o)) = observers ∧
        reports (observers.map fun o => Effect.acceptor (.addObserver o)) = [] ∧
          closes (observers.map fun o => Effect.acceptor (.addObserver o)) = 0 := by
  simp [binds, observed, reports, closes, Effect.bind?, Effect.observer?, Effect.report?,
    Effect.isClose, List.filterMap_map, Function.comp_def, List.countP_map]

/-- **What is seen of an attempt to bind.** -/
theorem seen_startEffects :
    binds (r.startEffects lookup) = [(r.host, r.port)] ∧
      observed (r.startEffects lookup) = (if r.observersAdded then [] else r.observers) ∧
        reports (r.startEffects lookup) =
          attemptReports r.host r.port (probeFailure? r.probeHosts lookup) ∧
          closes (r.startEffects lookup) = 0 := by
  have hbegin : r.startEffects lookup =
      [.health (.receiverStarting r.host r.port)] ++
        ((if r.observersAdded then []
          else r.observers.map fun observer => .acceptor (.addObserver observer)) ++
        r.probeEffects lookup ++ [.acceptor .setListener, .acceptor (.bind r.host r.port)]) := by
    simp [startEffects]
  obtain ⟨hpb, hpo, hpr, hpc⟩ := r.seen_probeEffects lookup
  obtain ⟨hob, hoo, hor, hoc⟩ := seen_observers r.observers
  rw [hbegin, attemptReports]
  split <;>
    simp [hpb, hpo, hpr, hpc, hob, hoo, hor, hoc, Effect.bind?, Effect.observer?, Effect.report?,
      Effect.isClose]

/-- Addresses are ignored that the probe hosts were resolved to. -/
theorem resolve_of_mem_startEffects {addresses : List IpAddress}
    (h : .acceptor (.setIgnored addresses) ∈ r.startEffects lookup) :
    Probe.resolve lookup r.probeHosts = .ok addresses := by
  have hp : .acceptor (.setIgnored addresses) ∈ r.probeEffects lookup := by
    unfold startEffects at h
    split at h <;> simpa using h
  unfold probeEffects at hp
  split at hp
  · simp at hp
  · split at hp
    · rename_i found hf
      rw [hf]
      simpa using (by simpa using hp : addresses = found).symm
    · simp at hp

/-- The acceptor has its listener before it is bound. -/
theorem setListener_of_bind {earlier later : List (Effect η)} {host : String} {port : UInt16}
    (h : r.startEffects lookup = earlier ++ .acceptor (.bind host port) :: later) :
    .acceptor .setListener ∈ earlier := by
  obtain ⟨first, hf⟩ : ∃ first, r.startEffects lookup =
      first ++ [.acceptor .setListener, .acceptor (.bind r.host r.port)] := ⟨_, rfl⟩
  -- the one bind is the last effect
  have hnone : binds (first ++ [.acceptor .setListener]) = [] := by
    have hb := (r.seen_startEffects lookup).1
    rw [hf] at hb
    simpa [Effect.bind?] using hb
  have hs : (first ++ [.acceptor .setListener]) ++ [.acceptor (.bind r.host r.port)] =
      earlier ++ .acceptor (.bind host port) :: later := by
    simpa [hf] using h
  rcases append_singleton_cases hs with ⟨rfl, -, -⟩ | ⟨middle, hm, -⟩
  · simp
  · rw [hm] at hnone
    simp [Effect.bind?] at hnone

end

/-! ## 5.  Stopping -/

/-- No pool has been closed. -/
structure IsOpen (r : Receiver ρ η) : Prop where
  dispatch : r.dispatch.isClosed = false
  events : ∀ pool ∈ r.events, pool.isClosed = false

/-- All pools have been closed. -/
structure IsShut (r : Receiver ρ η) : Prop where
  dispatch : r.dispatch.isClosed = true
  events : ∀ pool ∈ r.events, pool.isClosed = true

/-- The second receiver is the first one after some activity. -/
structure Alike (r s : Receiver ρ η) : Prop where
  eq : s = { r with dispatch := s.dispatch, events := s.events }
  dispatch : s.dispatch.isClosed = r.dispatch.isClosed
  events : s.events.map Pool.isClosed = r.events.map Pool.isClosed

theorem Alike.refl (r : Receiver ρ η) : Alike r r :=
  ⟨rfl, rfl, rfl⟩

theorem Alike.trans {r s t : Receiver ρ η} (h : Alike r s) (k : Alike s t) : Alike r t where
  eq := by
    rw [k.eq, h.eq]
  dispatch := k.dispatch.trans h.dispatch
  events := k.events.trans h.events

theorem alike_advance (r : Receiver ρ η) (activity : Activity ρ) :
    Alike r (r.advance activity) where
  eq := rfl
  dispatch := by simp [advance]
  events := by simp [advance, Function.comp_def]

/-- A pool that there is now was there, closed or not. -/
theorem Alike.exists_events {r s : Receiver ρ η} (h : Alike r s) {pool : Pool Ping}
    (hp : pool ∈ s.events) : ∃ before ∈ r.events, pool.isClosed = before.isClosed := by
  have he := h.events
  rw [Option.mem_def.1 hp] at he
  obtain ⟨before, hb, hclosed⟩ := Option.map_eq_some_iff.1 he.symm
  exact ⟨before, hb, hclosed.symm⟩

theorem Alike.isOpen {r s : Receiver ρ η} (h : Alike r s) (ho : r.IsOpen) : s.IsOpen where
  dispatch := h.dispatch.trans ho.dispatch
  events pool hp := by
    obtain ⟨before, hb, hclosed⟩ := h.exists_events hp
    exact hclosed.trans (ho.events before hb)

/-- A receiver with its pools closed. -/
def shut (r : Receiver ρ η) : Receiver ρ η :=
  { r with dispatch := r.dispatch.close, events := r.events.map Pool.close }

theorem Alike.isShut {r s : Receiver ρ η} (h : Alike r.shut s) : s.IsShut where
  dispatch := h.dispatch
  events pool hp := by
    obtain ⟨closed, hb, hclosed⟩ := h.exists_events hp
    obtain ⟨before, -, rfl⟩ := Option.map_eq_some_iff.1 hb
    exact hclosed

/-- The records of closing the pools. -/
def closeRecords (r : Receiver ρ η) : List Log.Record :=
  r.dispatch.closeRecords ++ (r.events.map Pool.closeRecords).getD []

/-- What is seen of a first stop: the acceptor is closed, then the pools, and then they are waited
for. -/
def stopEffects (r : Receiver ρ η) (waited : List Log.Record) (outcome : ShutdownOutcome) :
    List (Effect η) :=
  [.health .receiverStopping, .acceptor .close] ++ (r.closeRecords ++ waited).map .logged ++
    [.health (.receiverStopped outcome)]

/-- What is seen of a first stop is one closing and no bind, and tells of no observer. -/
theorem seen_stopEffects (r : Receiver ρ η) (waited : List Log.Record)
    (outcome : ShutdownOutcome) :
    binds (r.stopEffects waited outcome) = [] ∧ observed (r.stopEffects waited outcome) = [] ∧
      reports (r.stopEffects waited outcome) = [.receiverStopping, .receiverStopped outcome] ∧
        closes (r.stopEffects waited outcome) = 1 := by
  obtain ⟨hb, ho, hr, hc⟩ := seen_logged (η := η) (r.closeRecords ++ waited)
  unfold stopEffects
  rw [binds_append, binds_append, observed_append, observed_append, reports_append, reports_append,
    closes_append, closes_append, hb, ho, hr, hc]
  exact ⟨rfl, rfl, rfl, rfl⟩

/-- The pools are closed one after the other. -/
theorem closeAll_eq (progress : Executor → Receiver ρ η → Receiver ρ η) (r : Receiver ρ η) :
    Drain.closeAll (drainable progress) (r.executors.filterMap id) r =
      (r.shut, r.closeRecords) := by
  unfold executors shut closeRecords
  cases he : r.events with
  | none => simp [Drain.closeAll, drainable, he]
  | some events => simp [Drain.closeAll, drainable, he]

/-- Waiting for pools comes to one of two outcomes and changes nothing but what goes on
meanwhile. -/
theorem waitAll_cases (meanwhile : Executor → Activity ρ) (grace : Nat) (ks : List Executor)
    {outcome : ShutdownOutcome} (ho : outcome = .drained ∨ outcome = .timedOut)
    (r : Receiver ρ η) :
    ∃ s waited end',
      Drain.waitAll (drainable fun k s => s.advance (meanwhile k)) grace outcome ks r =
        (s, waited, end') ∧ Alike r s ∧ (end' = .drained ∨ end' = .timedOut) := by
  induction ks generalizing r outcome with
  | nil => exact ⟨r, [], outcome, rfl, .refl r, ho⟩
  | cons k ks ih =>
    have hnext : ∀ live : Nat, (if live = 0 then outcome else .timedOut) = .drained ∨
        (if live = 0 then outcome else ShutdownOutcome.timedOut) = .timedOut := by
      intro live
      split
      · exact ho
      · exact .inr rfl
    obtain ⟨s, waited, end', hw, hs, he⟩ := ih (hnext _) (r.advance (meanwhile k))
    exact ⟨s, _, end', congrArg (fun x => (x.1, _ :: x.2.1, x.2.2)) hw,
      (r.alike_advance (meanwhile k)).trans hs, he⟩

/-- **A first stop** closes the acceptor, then the pools, and then waits. -/
theorem stop_of_running {r : Receiver ρ η} (h : r.isStopped = false)
    (meanwhile : Executor → Activity ρ) :
    ∃ s waited outcome, r.stop (fun k s => s.advance (meanwhile k)) =
        (s, r.stopEffects waited outcome, outcome) ∧
      Alike ({ r with isStopped := true } : Receiver ρ η).shut s ∧
        (outcome = .drained ∨ outcome = .timedOut) := by
  obtain ⟨s, waited, outcome, hw, hs, ho⟩ := waitAll_cases meanwhile r.grace
    (r.executors.filterMap id) (.inl rfl) ({ r with isStopped := true } : Receiver ρ η).shut
  have hc := closeAll_eq (fun k s => s.advance (meanwhile k)) { r with isStopped := true }
  refine ⟨s, waited, outcome, ?_, hs, ho⟩
  rw [stop, h, if_neg Bool.false_ne_true, Drain.shutdown]
  dsimp only
  rw [show r.executors = ({ r with isStopped := true } : Receiver ρ η).executors from rfl, hc]
  dsimp only
  rw [show ({ r with isStopped := true } : Receiver ρ η).executors = r.executors from rfl, hw]
  rfl

/-! ## 6.  What a call does -/

/-- What a call of a receiver does.  A start is refused after a stop (`late`) or after one that
succeeded (`again`), or it is an attempt to bind; a stop closes everything, or does nothing after
another (`idle`). -/
inductive Step (r : Receiver ρ η) : Entry ρ η → Prop where
  | late {lookup : Probe.Lookup} {bound : Except TransportError Unit}
    (stopped : r.isStopped = true) :
    Step r ⟨r, .start lookup bound, [], .started (.error .stopped), r⟩
  | again {lookup : Probe.Lookup} {bound : Except TransportError Unit}
    (running : r.isStopped = false) (started : r.isStarted = true) :
    Step r ⟨r, .start lookup bound, [], .started (.error .alreadyStarted), r⟩
  | failed {lookup : Probe.Lookup} {e : TransportError} (running : r.isStopped = false)
    (unstarted : r.isStarted = false) :
    Step r ⟨r, .start lookup (.error e), r.startEffects lookup, .started (.error (.bind e)),
      { r with observersAdded := true }⟩
  | bound {lookup : Probe.Lookup} (running : r.isStopped = false)
    (unstarted : r.isStarted = false) :
    Step r ⟨r, .start lookup (.ok ()),
      r.startEffects lookup ++ [.health (.receiverBound r.host r.port)], .started (.ok ()),
      { r with observersAdded := true, isStarted := true }⟩
  | idle {meanwhile : Executor → Activity ρ} (stopped : r.isStopped = true) :
    Step r ⟨r, .stop meanwhile, [], .stopped .alreadyStopped, r⟩
  | stop {meanwhile : Executor → Activity ρ} {s : Receiver ρ η} {waited : List Log.Record}
    {outcome : ShutdownOutcome} (running : r.isStopped = false)
    (alike : Alike ({ r with isStopped := true } : Receiver ρ η).shut s)
    (first : outcome ≠ .alreadyStopped) :
    Step r ⟨r, .stop meanwhile, r.stopEffects waited outcome, .stopped outcome, s⟩
  | between {activity : Activity ρ} :
    Step r ⟨r, .between activity, [], .none, r.advance activity⟩

/-- **What a call of a receiver does.** -/
theorem step_take (r : Receiver ρ η) (call : Call ρ) : Step r (r.take call) := by
  cases call with
  | start lookup bound =>
    by_cases hstopped : r.isStopped = true
    · rw [take, start, if_pos hstopped]
      exact .late hstopped
    · rw [take, start, if_neg hstopped]
      have hrunning := Bool.eq_false_iff.2 hstopped
      by_cases hstarted : r.isStarted = true
      · rw [if_pos hstarted]
        exact .again hrunning hstarted
      · rw [if_neg hstarted]
        have hunstarted := Bool.eq_false_iff.2 hstarted
        cases bound with
        | error e => exact .failed hrunning hunstarted
        | ok => exact .bound hrunning hunstarted
  | stop meanwhile =>
    by_cases hstopped : r.isStopped = true
    · rw [take, Receiver.stop, if_pos hstopped]
      exact .idle hstopped
    · have hrunning := Bool.eq_false_iff.2 hstopped
      obtain ⟨s, waited, outcome, hs, halike, hend⟩ := stop_of_running hrunning meanwhile
      rw [take, hs]
      refine .stop hrunning halike ?_
      rcases hend with rfl | rfl <;> decide
  | between activity => exact .between

end Receiver

end AgentIntake
