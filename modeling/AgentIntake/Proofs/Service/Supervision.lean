import AgentIntake.Proofs.Pool.Admission
import AgentIntake.Proofs.Pool.View
import AgentIntake.Proofs.Acceptor.Binding
import AgentIntake.Proofs.Receiver.Calls
import AgentIntake.Proofs.Receiver.Room
import AgentIntake.Service

/-!
# Whatever was started is stopped

A life of the service ends in one of five ways: bootstrap fails, the queues of the intake have no
room, the acceptor cannot be bound, the wait for a signal fails, or the service is stopped in good
order.  In the first two nothing has been started; in the others the intake has been stopped, once,
and that is the last thing that is reported.

What the life comes to depends on the first thing that failed.  How long the workers took has a say
in it only if nothing did (`Supervised`).

Between the launch and the signal anything may happen to the intake: connections come and go, and
workers get on (`Spell`).  Nothing of that stops the intake or is a stage of its life
(`serves_serving`), so all stages are reported by the launch and by the stop.
-/

namespace AgentIntake

/-! ## 1.  Reports -/

namespace Intake

variable {η M : Type}

/-- The stage that is reported. -/
def Effect.report? : Effect M → Option HealthEvent
  | health event => some event
  | traffic _ | sent _ | requested .. | liveness .. | logged _ => none

/-- The stages that are reported. -/
def reports (effects : List (Effect M)) : List HealthEvent :=
  effects.filterMap Effect.report?

@[simp] theorem reports_append (first second : List (Effect M)) :
    reports (first ++ second) = reports first ++ reports second :=
  List.filterMap_append

/-- Effects none of which reports a stage. -/
theorem reports_eq_nil {effects : List (Effect M)} (h : ∀ e ∈ effects, e.report? = none) :
    reports effects = [] :=
  List.filterMap_eq_nil_iff.2 h

theorem reports_obey (network : Acceptor.Network) (a : Acceptor η) (call : AcceptorCall η) :
    reports (obey (M := M) network a call).2 = [] := by
  cases call with
  | addObserver | setIgnored | setListener => rfl
  | bind host port =>
    refine reports_eq_nil fun e he => ?_
    obtain ⟨r, -, rfl⟩ := List.mem_map.1 he
    rfl
  | close =>
    refine reports_eq_nil fun e he => ?_
    rcases List.mem_append.1 he with he | he
    · obtain ⟨id, -, rfl⟩ := List.mem_map.1 he
      rfl
    · obtain ⟨r, -, rfl⟩ := List.mem_map.1 he
      rfl

/-- The stages of an intake are those of its receiver. -/
theorem reports_obeyAll (network : Acceptor.Network) (a : Acceptor η)
    (effects : List (Receiver.Effect η)) :
    reports (obeyAll (M := M) network a effects).2 = Receiver.reports effects := by
  induction effects generalizing a with
  | nil => rfl
  | cons effect effects ih =>
    cases effect with
    | health event => exact congrArg (event :: ·) (ih a)
    | logged record => exact ih a
    | acceptor call =>
      have hall : (obeyAll (M := M) network a (.acceptor call :: effects)).2 =
          (obey network a call).2 ++
            (obeyAll network (obey (M := M) network a call).1 effects).2 := rfl
      rw [hall, reports_append, reports_obey, ih]
      rfl

/-- The acceptor stays as it is where it is not called. -/
theorem acceptor_obeyAll (network : Acceptor.Network) (a : Acceptor η)
    {effects : List (Receiver.Effect η)} (h : ∀ call, .acceptor call ∉ effects) :
    (obeyAll (M := M) network a effects).1 = a := by
  induction effects with
  | nil => rfl
  | cons effect effects ih =>
    cases effect with
    | acceptor call => exact absurd List.mem_cons_self (h call)
    | health | logged => exact ih fun call hm => h call (List.mem_cons_of_mem _ hm)

/-- A stop closes the acceptor and leaves it alone then. -/
theorem acceptor_obeyAll_stopEffects {ρ : Type} (network : Acceptor.Network) (a : Acceptor η)
    (r : Receiver ρ η) (waited : List Log.Record) (outcome : ShutdownOutcome) :
    (obeyAll (M := M) network a (r.stopEffects waited outcome)).1 = a.close.1 := by
  have hquiet : ∀ call : AcceptorCall η, Receiver.Effect.acceptor call ∉
      (r.closeRecords ++ waited).map Receiver.Effect.logged ++
        [.health (.receiverStopped outcome)] := by
    simp
  exact acceptor_obeyAll network _ hquiet

/-! ## 2.  Serving -/

/-- The receiver goes on as before: it is not stopped by what happens, and no stage is reported. -/
structure Serves (r s : Receiver ReplyTo η) (effects : List (Effect M)) : Prop where
  isStopped : s.isStopped = r.isStopped
  reports : reports effects = []

theorem Serves.refl (r : Receiver ReplyTo η) : Serves (M := M) r r [] :=
  ⟨rfl, rfl⟩

theorem Serves.trans {r s t : Receiver ReplyTo η} {first second : List (Effect M)}
    (h : Serves r s first) (g : Serves s t second) : Serves r t (first ++ second) where
  isStopped := g.isStopped.trans h.isStopped
  reports := by rw [reports_append, h.reports, g.reports]; rfl

theorem isStopped_deliver {ρ : Type} (r : Receiver ρ η) (path : Dispatch.Path)
    (remote : SocketAddress) (delivery : Delivery ρ) :
    (r.deliver path remote delivery).1.isStopped = r.isStopped := by
  unfold Receiver.deliver
  split <;> rfl

theorem serves_listen (r : Receiver ReplyTo η) (stamp : UInt64) (sink : Sink) (id : Nat)
    (remote : SocketAddress) (e : Connection.Effect) :
    Serves (M := M) r (listen (M := M) r stamp sink id remote e).1
      (listen r stamp sink id remote e).2 := by
  have hrecords : ∀ records, reports (recordsOf (M := M) id records) = [] := by
    intro records
    refine reports_eq_nil fun e he => ?_
    obtain ⟨r, -, rfl⟩ := List.mem_map.1 he
    rfl
  cases e with
  | handshake properties => exact ⟨rfl, hrecords _⟩
  | send packet => exact ⟨isStopped_deliver .., hrecords _⟩
  | request request payload => exact ⟨isStopped_deliver .., hrecords _⟩
  | ping packet peer =>
    refine ⟨rfl, reports_eq_nil fun e he => ?_⟩
    obtain ⟨effect, -, rfl⟩ := List.mem_map.1 he
    rfl
  | told | write | logged => exact .refl r

theorem serves_listenAll (stamp : UInt64) (sink : Sink) (remotes : Nat → Option SocketAddress)
    (r : Receiver ReplyTo η) (effects : List Traffic.Effect) :
    Serves (M := M) r (listenAll (M := M) stamp sink remotes r effects).1
      (listenAll stamp sink remotes r effects).2 := by
  induction effects generalizing r with
  | nil => exact .refl r
  | cons effect rest ih =>
    have htold : ∀ {s more}, Serves (M := M) r s more →
        Serves (M := M) r s (.traffic effect :: more) := fun h => ⟨h.isStopped, h.reports⟩
    cases effect with
    | admitted | dropped | cut | logged => exact htold ((Serves.refl r).trans (ih r))
    | of id e =>
      unfold listenAll
      dsimp only
      split
      · exact htold ((serves_listen r stamp sink id _ e).trans (ih _))
      · exact htold ((Serves.refl r).trans (ih r))

/-- Workers report no stage if their tasks do not. -/
theorem reports_settle {α : Type} (work : α → Work (Effect M))
    (h : ∀ task, ∀ e ∈ (work task).effects, e.report? = none) (p : Pool α) :
    reports (p.settle work).2 = [] := by
  refine reports_eq_nil fun e he => ?_
  obtain ⟨task, ht⟩ := Pool.exists_of_mem_settle he
  exact h task e ht

theorem report?_of_mem_dispatchWork {codec : Codec M} {handler : Handler M}
    {reply : ReplyTo → ReplySender} {task : Delivery ReplyTo} {e : Effect M}
    (h : e ∈ (dispatchWork codec handler reply task).effects) : e.report? = none := by
  replace h : e ∈ ((Receiver.dispatchWork codec handler reply task).map _).effects := h
  rw [Work.effects_map] at h
  obtain ⟨effect, -, rfl⟩ := List.mem_map.1 h
  cases task <;> rfl

theorem serves_settle (n : Intake η) (codec : Codec M) (handler : Handler M)
    (reply : ReplyTo → ReplySender) (sink : Sink) :
    Serves n.receiver (n.settle codec handler reply sink).1.receiver
      (n.settle codec handler reply sink).2 := by
  have hdispatch := reports_settle (dispatchWork codec handler reply)
    (fun _ _ => report?_of_mem_dispatchWork) n.receiver.dispatch
  unfold settle
  cases n.receiver.events with
  | none => exact ⟨rfl, hdispatch⟩
  | some pool =>
    have hevents := reports_settle
      (fun ping => (Liveness.recordWork sink ping).map (Effect.liveness (M := M) none))
      (fun ping e he => by
        rw [Work.effects_map] at he
        obtain ⟨effect, -, rfl⟩ := List.mem_map.1 he
        rfl) pool
    exact ⟨rfl, by rw [reports_append, hdispatch, hevents]; rfl⟩

end Intake

namespace Service

open Intake (reports Serves)

theorem serves_next (n : Collector) (written : Nat → Nat → Option TransportError)
    (stamp : UInt64) (event : TrafficEvent) :
    Serves n.receiver (next n written stamp event).1.receiver (next n written stamp event).2 := by
  have htaken :
    Serves n.receiver (n.take (M := Envelope) written stamp Placeholder.sink event).1.receiver
      (n.take written stamp Placeholder.sink event).2 :=
    Intake.serves_listenAll stamp Placeholder.sink _ n.receiver (n.traffic.next written event).2
  exact htaken.trans
    (Intake.serves_settle (n.take (M := Envelope) written stamp Placeholder.sink event).1
    Placeholder.codec Placeholder.handler (fun _ _ => .value ()) Placeholder.sink)

/-- What happens to a running intake in one go: a connection does something and the workers get on,
or something happens to the pools, in any order. -/
inductive Spell where
  | traffic (written : Nat → Nat → Option TransportError) (stamp : UInt64) (event : TrafficEvent)
  | pools (activity : Receiver.Activity ReplyTo)

/-- The intake after a spell, and what others see of it. -/
def Spell.pass (n : Collector) : Spell → Collector × List (Intake.Effect Envelope)
  | traffic written stamp event => next n written stamp event
  | pools activity => ({ n with receiver := n.receiver.advance activity }, [])

/-- The intake after spells in order, and what others see of them. -/
def serving : List Spell → Collector → Collector × List (Intake.Effect Envelope)
  | [], n => (n, [])
  | spell :: rest, n =>
    ((serving rest (spell.pass n).1).1, (spell.pass n).2 ++ (serving rest (spell.pass n).1).2)

/-- **Nothing that happens between launch and stop is a stage or stops the intake.** -/
theorem serves_serving (spells : List Spell) (n : Collector) :
    Serves n.receiver (serving spells n).1.receiver (serving spells n).2 := by
  induction spells generalizing n with
  | nil => exact .refl n.receiver
  | cons spell rest ih =>
    have hspell : Serves n.receiver (spell.pass n).1.receiver (spell.pass n).2 := by
      cases spell with
      | traffic written stamp event => exact serves_next n written stamp event
      | pools activity => exact ⟨rfl, rfl⟩
    exact hspell.trans (ih (spell.pass n).1)

/-! ## 3.  Stopping -/

/-- The stages of events are those of the intake's effects. -/
theorem health_intake (effects : List (Intake.Effect Envelope)) :
    (effects.map Event.intake).filterMap Event.health? = reports effects := by
  rw [List.filterMap_map]
  refine List.filterMap_congr fun e _ => ?_
  cases e <;> rfl

/-- The intake is closed for good: its acceptor does not listen and is never bound again, and its
pools take no tasks any more. -/
structure Shut (n : Collector) : Prop where
  isClosed : n.traffic.acceptor.isClosed = true
  bound : n.traffic.acceptor.bound = none
  dispatch (task : Delivery ReplyTo) : n.receiver.dispatch.submit task =
    .error (.shutdown n.receiver.dispatch.name)
  events : ∀ pool ∈ n.receiver.events, ∀ ping, pool.submit ping = .error (.shutdown pool.name)

/-- What happens to the pools while one of them is waited for. -/
def waiting (meanwhile : Receiver.Executor → Receiver.Activity ReplyTo) : Progress :=
  fun k r => r.advance (meanwhile k)

/-- **A running intake that is stopped is closed for good**, and two stages are reported. -/
theorem exists_stopped {n : Collector} (h : n.receiver.isStopped = false)
    (network : Acceptor.Network) (meanwhile : Receiver.Executor → Receiver.Activity ReplyTo) :
    ∃ left effects outcome, stopped n network (waiting meanwhile) =
        (left, effects.map .intake, outcome) ∧
      reports effects = [.receiverStopping, .receiverStopped outcome] ∧
        (outcome = .drained ∨ outcome = .timedOut) ∧ Shut left := by
  obtain ⟨s, waited, outcome, hstop, halike, hend⟩ := Receiver.stop_of_running h meanwhile
  have hshut := halike.isShut
  let acted := Intake.obeyAll (M := Envelope) network n.traffic.acceptor
    (n.receiver.stopEffects waited outcome)
  have hacceptor : acted.1 = n.traffic.acceptor.close.1 :=
    Intake.acceptor_obeyAll_stopEffects network _ n.receiver waited outcome
  refine ⟨⟨s, { n.traffic with acceptor := acted.1 }⟩, acted.2, outcome, ?_, ?_, hend, ?_⟩
  · rw [stopped, Intake.stop, show n.receiver.stop (waiting meanwhile) = _ from hstop]
    rfl
  · rw [Intake.reports_obeyAll, (n.receiver.seen_stopEffects waited outcome).2.2.1]
  · constructor
    · exact (congrArg Acceptor.isClosed hacceptor).trans (Acceptor.isClosed_close _)
    · exact (congrArg Acceptor.bound hacceptor).trans (Acceptor.bound_close _)
    · exact fun task => Pool.submit_eq_shutdown_iff.2 hshut.dispatch
    · exact fun pool hp ping => Pool.submit_eq_shutdown_iff.2 (hshut.events pool hp)

/-- What a service comes to that has run: to the failure of the wait for a signal, or to the outcome
of the stop. -/
def verdict (outcome : ShutdownOutcome) :
    Except SignalError (Option Nat) → Except LaunchError ShutdownOutcome
  | .error e => .error (.signal e)
  | .ok _ => .ok outcome

/-- **However the wait for a signal ended, the intake is stopped.** -/
theorem exists_shutdown {n : Collector} (h : n.receiver.isStopped = false)
    (network : Acceptor.Network) (meanwhile : Receiver.Executor → Receiver.Activity ReplyTo)
    (signal : Except SignalError (Option Nat)) :
    ∃ left events outcome, shutdown n network (waiting meanwhile) signal =
        (left, events, verdict outcome signal) ∧
      events.filterMap Event.health? = [.receiverStopping, .receiverStopped outcome] ∧
        (outcome = .drained ∨ outcome = .timedOut) ∧ Shut left := by
  obtain ⟨left, effects, outcome, hstop, hreports, hwaited, hshut⟩ :=
    exists_stopped h network meanwhile
  have hhealth := (health_intake effects).trans hreports
  cases signal with
  | error e =>
    refine ⟨left, effects.map .intake, outcome, ?_, hhealth, hwaited, hshut⟩
    simp only [shutdown, hstop]
    rfl
  | ok number =>
    refine ⟨left, (number.map fun n => Event.logged (signalRecord n)).toList ++ effects.map .intake,
      outcome, ?_, ?_, hwaited, hshut⟩
    · have hne : outcome ≠ .interrupted := by
        rcases hwaited with rfl | rfl <;> decide
      simp only [shutdown, hstop, if_neg hne]
      rfl
    · cases number <;> exact hhealth

/-! ## 4.  Starting -/

/-- The report of an acceptor that is bound. -/
def boundReports {α : Type} (host : String) (port : UInt16) :
    Except TransportError α → List HealthEvent
  | .ok _ => [.receiverBound host port]
  | .error _ => []

/-- **A first start is an attempt to bind**, and it fails only if binding does. -/
theorem exists_started {r : Receiver ReplyTo Empty} (running : r.isStopped = false)
    (unstarted : r.isStarted = false) (lookup : Probe.Lookup) (bound : Except TransportError Unit) :
    ∃ s effects, r.start lookup bound = (s, effects, bound.mapError .bind) ∧ s.isStopped = false ∧
      Receiver.reports effects =
        Receiver.attemptReports r.host r.port (Receiver.probeFailure? r.probeHosts lookup) ++
          boundReports r.host r.port bound := by
  have hreports := (r.seen_startEffects lookup).2.2.1
  cases bound with
  | error e =>
    refine ⟨{ r with observersAdded := true }, r.startEffects lookup, ?_, running, ?_⟩
    · simp only [Receiver.start, running, unstarted]
      rfl
    · rw [hreports, boundReports, List.append_nil]
  | ok =>
    refine ⟨{ r with observersAdded := true, isStarted := true },
      r.startEffects lookup ++ [.health (.receiverBound r.host r.port)], ?_, running, ?_⟩
    · simp only [Receiver.start, running, unstarted]
      rfl
    · rw [Receiver.reports_append, hreports]
      rfl

/-- How binding the acceptor of a configuration ends in a network. -/
def binding (network : Acceptor.Network) (config : Config) : Except TransportError SocketAddress :=
  (Acceptor.resolve network config.listenIp config.listenPort).bind network.listen

/-- What is reported of the start of a configuration's intake. -/
def startReports (network : Acceptor.Network) (config : Config) : List HealthEvent :=
  Receiver.attemptReports config.listenIp config.listenPort
      (Receiver.probeFailure? config.probeHosts network.lookup) ++
    boundReports config.listenIp config.listenPort (binding network config)

/-- The intake has just been built for a configuration, and its acceptor is new. -/
structure Fresh (config : Config) (n : Collector) : Prop where
  acceptor : n.traffic.acceptor = .new
  address : n.receiver.host = config.listenIp ∧ n.receiver.port = config.listenPort
  probeHosts : n.receiver.probeHosts = config.probeHosts
  unstarted : n.receiver.isStarted = false
  running : n.receiver.isStopped = false

/-- **An intake is built for every valid configuration whose queues have room.** -/
theorem exists_fresh {room : Room} {config : Config} (hv : config.invalid? = none)
    (hf : room.Fits config) (network : Acceptor.Network) :
    ∃ (n : Collector) (built : List (Intake.Effect Envelope)),
      Intake.new room config none [] grace network .new = (built, .returned n) ∧ Fresh config n ∧
        reports built = [] := by
  obtain ⟨r, seen, hmake, -, -⟩ :=
    Receiver.exists_make? (ρ := ReplyTo) (η := Empty) hv none [] grace
  have hnew := Receiver.new_of_fits hv none [] grace hf hmake
  obtain ⟨dispatch, events, -, -, hr, hseen⟩ := Receiver.make?_cases hmake
  refine ⟨⟨r, .of (Intake.obeyAll (M := Envelope) network .new seen).1⟩,
    (Intake.obeyAll network .new seen).2, by rw [Intake.new, hnew]; rfl, ?_, ?_⟩
  · subst hr hseen
    refine ⟨Intake.acceptor_obeyAll network _ fun call => ?_, ⟨rfl, rfl⟩, rfl, rfl, rfl⟩
    cases events <;> simp [Receiver.newEffects]
  · rw [Intake.reports_obeyAll, hseen]
    cases events <;> rfl

theorem Fresh.bound {config : Config} {n : Collector} (h : Fresh config n)
    (network : Acceptor.Network) : n.bound network = (binding network config).map fun _ => () := by
  rw [Intake.bound, h.acceptor, h.address.1, h.address.2, Acceptor.bind,
    Acceptor.bindable_of_ready rfl rfl rfl, binding]
  cases (Acceptor.resolve network config.listenIp config.listenPort).bind network.listen <;> rfl

/-- **The start of a new intake fails only if binding does.** -/
theorem Fresh.exists_start {config : Config} {n : Collector} (h : Fresh config n)
    (network : Acceptor.Network) :
    ∃ (m : Collector) (effects : List (Intake.Effect Envelope)),
      n.start network = (m, effects, ((binding network config).map fun _ => ()).mapError .bind) ∧
        m.receiver.isStopped = false ∧ reports effects = startReports network config := by
  obtain ⟨s, seen, hstart, hrunning, hreports⟩ :=
    exists_started h.running h.unstarted network.lookup ((binding network config).map fun _ => ())
  let acted := Intake.obeyAll (M := Envelope) network n.traffic.acceptor seen
  refine ⟨⟨s, { n.traffic with acceptor := acted.1 }⟩, acted.2, ?_, hrunning, ?_⟩
  · rw [Intake.start, h.bound, hstart]
    rfl
  · rw [Intake.reports_obeyAll, hreports, h.address.1, h.address.2, h.probeHosts, startReports]
    cases binding network config <;> rfl

/-! ## 5.  A whole life -/

/-- The stages of a life. -/
def Life.trace (l : Life) : List HealthEvent :=
  l.events.filterMap Event.health?

/-- The life has ended with a bootstrap that failed: no stage of an intake is reported, and none was
built. -/
structure Unlaunched (e : BootstrapError) (l : Life) : Prop where
  trace : l.trace = [.bootstrapStarting, .bootstrapFailed e]
  result : l.result = .failed (.bootstrap e)
  left : l.left = none

/-- The life has ended with an intake for which there was no room: none was built, and no stage of
one is reported. -/
structure Unroomed (config : Config) (l : Life) : Prop where
  trace : l.trace = [.bootstrapStarting, .bootstrapSucceeded config]
  result : ∃ p, l.result = .panicked p
  left : l.left = none

/-- The life has got as far as an intake, which has been stopped with an outcome; the stop comes
last and is reported once (`trace`), the workers have left in time or not (`waited`), and the intake
is closed for good (`shut`).  If the acceptor could not be bound, that is what the life has come to
(`unbound`); otherwise it has come to a failure of the wait for a signal, however the stop has ended
(`unsignalled`), and if nothing failed to what is reported of the stop (`ended`). -/
structure Supervised (config : Config) (network : Acceptor.Network)
    (signal : Except SignalError (Option Nat)) (outcome : ShutdownOutcome) (l : Life) : Prop where
  trace : l.trace = [.bootstrapStarting, .bootstrapSucceeded config] ++
    startReports network config ++
    [.receiverStopping, .receiverStopped outcome]
  waited : outcome = .drained ∨ outcome = .timedOut
  unbound {e : TransportError} : binding network config = .error e →
    l.result = .failed (.receiver (.bind e))
  unsignalled {own : SocketAddress} {e : SignalError} : binding network config = .ok own →
    signal = .error e → l.result = .failed (.signal e)
  ended {own : SocketAddress} {number : Option Nat} : binding network config = .ok own →
    signal = .ok number → l.result = .returned outcome
  shut : ∃ n, l.left = some n ∧ Shut n

section

variable {room : Room} {config : Config} {network : Acceptor.Network}

/-- If the acceptor can be bound the intake runs. -/
theorem exists_running (hv : config.invalid? = none) (hf : room.Fits config) {own : SocketAddress}
    (hb : binding network config = .ok own) (progress : Progress) :
    ∃ events n, started room config network progress = (events, .returned n) ∧
      n.receiver.isStopped = false ∧
      events.filterMap Event.health? = startReports network config := by
  obtain ⟨n, built, hmake, hfresh, hbuilt⟩ := exists_fresh hv hf network
  obtain ⟨m, effects, hstart, hrunning, hreports⟩ := hfresh.exists_start network
  rw [hb] at hstart
  refine ⟨(built ++ effects).map .intake ++ [.noted acceptThread acceptingRecord], m, ?_,
    hrunning, ?_⟩
  · simp only [started, hmake, hstart]
    rfl
  · rw [List.filterMap_append, health_intake, Intake.reports_append, hbuilt, hreports]
    exact List.append_nil _

/-- If it cannot the intake is stopped. -/
theorem exists_given_up (hv : config.invalid? = none) (hf : room.Fits config) {e : TransportError}
    (hb : binding network config = .error e)
    (meanwhile : Receiver.Executor → Receiver.Activity ReplyTo) :
    ∃ events left outcome, started room config network (waiting meanwhile) =
        (events, .failed (.receiver (.bind e), some left)) ∧
      events.filterMap Event.health? =
          startReports network config ++ [.receiverStopping, .receiverStopped outcome] ∧
        (outcome = .drained ∨ outcome = .timedOut) ∧ Shut left := by
  obtain ⟨n, built, hmake, hfresh, hbuilt⟩ := exists_fresh hv hf network
  obtain ⟨m, effects, hstart, hrunning, hreports⟩ := hfresh.exists_start network
  obtain ⟨left, more, outcome, hstop, hstopped, hwaited, hshut⟩ :=
    exists_stopped hrunning network meanwhile
  rw [hb] at hstart
  refine ⟨(built ++ effects).map .intake ++ more.map .intake, left, outcome, ?_, ?_, hwaited, hshut⟩
  · simp only [started, hmake, hstart, hstop]
    rfl
  · rw [List.filterMap_append, health_intake, health_intake, Intake.reports_append,
      hbuilt, hreports, hstopped]
    rfl

/-- Without room for its queues there is no intake. -/
theorem exists_panicked (hv : config.invalid? = none) (hf : ¬ room.Fits config)
    (network : Acceptor.Network) (progress : Progress) :
    ∃ events p, started room config network progress = (events, .panicked p) ∧
      events.filterMap Event.health? = [] := by
  obtain ⟨p, records, hnew⟩ :=
    Receiver.new_of_not_fits (ρ := ReplyTo) (η := Empty) hv none [] grace hf
  let seen : List (Receiver.Effect Empty) := records.map .logged
  refine ⟨(Intake.obeyAll (M := Envelope) network .new seen).2.map .intake, p, ?_, ?_⟩
  · rw [started, Intake.new, hnew]
    rfl
  · rw [health_intake, Intake.reports_obeyAll, Receiver.reports, List.filterMap_map]
    exact List.filterMap_eq_nil_iff.2 fun _ _ => rfl

end

section

variable {room : Room} {slot : Telemetry.Slot} {loaded : Except LoadError Config}

/-- Without a bootstrap there is nothing to supervise. -/
theorem unlaunched_of_error {e : BootstrapError} (h : Bootstrap.prepare slot loaded = .error e)
    (network : Acceptor.Network) (progress : Progress)
    (serve : Collector → Collector × List (Intake.Effect Envelope))
    (signal : Except SignalError (Option Nat)) :
    Unlaunched e (life room slot loaded network progress serve signal) := by
  have hrun : Bootstrap.run slot loaded = (slot.telemetry?,
      [(slot.telemetry?, .bootstrapStarting), (slot.telemetry?, .bootstrapFailed e)],
      .error e) := by
    rw [Bootstrap.run, h]
  have hlife : life room slot loaded network progress serve signal =
      ⟨slot.telemetry?, [.reported (slot.telemetry?, .bootstrapStarting),
        .reported (slot.telemetry?, .bootstrapFailed e)], none, .failed (.bootstrap e)⟩ := by
    rw [life, launch, hrun]
    rfl
  rw [hlife]
  exact ⟨rfl, rfl, rfl⟩

theorem run_of_ok {telemetry : Telemetry} {config : Config}
    (h : Bootstrap.prepare slot loaded = .ok (telemetry, config)) :
    Bootstrap.run slot loaded = (some telemetry,
      [(slot.telemetry?, .bootstrapStarting), (some telemetry, .bootstrapSucceeded config)],
      .ok config) := by
  rw [Bootstrap.run, h]

/-- After a bootstrap there may be no room for the intake. -/
theorem unroomed_of_ok {telemetry : Telemetry} {config : Config}
    (h : Bootstrap.prepare slot loaded = .ok (telemetry, config)) (hv : config.invalid? = none)
    (hf : ¬ room.Fits config) (network : Acceptor.Network) (progress : Progress)
    (serve : Collector → Collector × List (Intake.Effect Envelope))
    (signal : Except SignalError (Option Nat)) :
    Unroomed config (life room slot loaded network progress serve signal) := by
  obtain ⟨events, p, hstarted, htrace⟩ := exists_panicked hv hf network progress
  rw [life, launch, run_of_ok h]
  dsimp only
  rw [hstarted]
  refine ⟨?_, ⟨p, rfl⟩, rfl⟩
  rw [Life.trace, List.filterMap_append, htrace, List.append_nil]
  rfl

/-- After a bootstrap an intake that has room is stopped on every way out. -/
theorem supervised_of_ok {telemetry : Telemetry} {config : Config}
    (h : Bootstrap.prepare slot loaded = .ok (telemetry, config)) (hv : config.invalid? = none)
    (hf : room.Fits config) (network : Acceptor.Network)
    (meanwhile : Receiver.Executor → Receiver.Activity ReplyTo) (spells : List Spell)
    (signal : Except SignalError (Option Nat)) :
    ∃ outcome, Supervised config network signal outcome
      (life room slot loaded network (waiting meanwhile) (serving spells) signal) := by
  have hrun := run_of_ok h
  let reported : List Event := [.reported (slot.telemetry?, .bootstrapStarting),
    .reported (some telemetry, .bootstrapSucceeded config)]
  cases hb : binding network config with
  | error e =>
    obtain ⟨events, left, outcome, hstarted, htrace, hwaited, hshut⟩ :=
      exists_given_up hv hf hb meanwhile
    have hlife : life room slot loaded network (waiting meanwhile) (serving spells) signal =
        ⟨some telemetry, reported ++ events, some left, .failed (.receiver (.bind e))⟩ := by
      simp only [life, launch, hrun, hstarted]
      rfl
    rw [hlife]
    refine ⟨outcome, ?_, hwaited, ?_, ?_, ?_, left, rfl, hshut⟩
    · rw [Life.trace, List.filterMap_append, htrace, List.append_assoc]
      rfl
    · intro other ho
      cases hb.symm.trans ho
      rfl
    · intro own other ho
      cases hb.symm.trans ho
    · intro own number ho
      cases hb.symm.trans ho
  | ok own =>
    obtain ⟨events, n, hstarted, hrunning, htrace⟩ := exists_running hv hf hb (waiting meanwhile)
    have hserves := serves_serving spells n
    obtain ⟨left, more, outcome, hshutdown, hstopped, hwaited, hshut⟩ :=
      exists_shutdown (hserves.isStopped.trans hrunning) network meanwhile signal
    have hlife : life room slot loaded network (waiting meanwhile) (serving spells) signal =
        ⟨some telemetry, reported ++ events ++ (serving spells n).2.map .intake ++ more, some left,
          .ofExcept (verdict outcome signal)⟩ := by
      simp only [life, launch, hrun, hstarted, hshutdown]
      rfl
    rw [hlife]
    refine ⟨outcome, ?_, hwaited, ?_, ?_, ?_, left, rfl, hshut⟩
    · rw [Life.trace, List.filterMap_append, List.filterMap_append, List.filterMap_append, htrace,
        health_intake, hserves.reports, hstopped, List.append_nil]
      rfl
    · intro e he
      cases hb.symm.trans he
    · rintro _ e - rfl
      rfl
    · rintro _ number - rfl
      rfl

end

/-- What a life comes to, by the first thing that failed.  There is no configuration (`unloaded`),
or it is not valid (`invalid`), or telemetry cannot be installed (`uninstalled`), or there is no
room for the queues of the intake (`unroomed`); otherwise the intake is built, and stopped in the
end (`launched`). -/
structure Ends (room : Room) (slot : Telemetry.Slot) (loaded : Except LoadError Config)
    (network : Acceptor.Network) (signal : Except SignalError (Option Nat)) (l : Life) : Prop where
  unloaded {e : LoadError} : loaded = .error e → Unlaunched (.configuration e) l
  invalid {config : Config} {e : Config.Invalid} : loaded = .ok config → config.invalid? = some e →
    Unlaunched (.invalid e) l
  uninstalled {config : Config} {e : TelemetryError} : loaded = .ok config →
    config.invalid? = none →
    slot.install config = .error e → Unlaunched (.telemetry e) l
  unroomed {config : Config} {telemetry : Telemetry} : loaded = .ok config →
    config.invalid? = none → slot.install config = .ok telemetry → ¬ room.Fits config →
      Unroomed config l
  launched {config : Config} {telemetry : Telemetry} : loaded = .ok config →
    config.invalid? = none → slot.install config = .ok telemetry → room.Fits config →
      ∃ outcome, Supervised config network signal outcome l

/-- A worker does not leave in time, and the wait for a signal has failed before; then the failure
counts, and the stop is reported all the same. -/
example :
    let network : Acceptor.Network := ⟨fun _ => .error "unknown", .ok⟩
    let ended := life .ample (.taken ⟨[], .json⟩) (.ok Receiver.narrowConfig) network
      (waiting fun _ => ⟨[], []⟩) (serving []) (.error ⟨"no handlers"⟩)
    ended.trace = [.bootstrapStarting, .bootstrapSucceeded Receiver.narrowConfig,
        .receiverStarting "0.0.0.0" 9994, .receiverBound "0.0.0.0" 9994, .receiverStopping,
        .receiverStopped .timedOut] ∧
      ended.result = .failed (.signal ⟨"no handlers"⟩) :=
  ⟨rfl, rfl⟩

end Service

end AgentIntake
