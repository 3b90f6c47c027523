import AgentIntake.Bootstrap.Basic
import AgentIntake.Intake
import AgentIntake.Placeholder

/-!
# The service

The life of a collector: bootstrap, building and starting the intake, serving until a signal comes,
stopping.  Whatever was started is stopped, on every way out.  Where the system has no room for the
queues of the intake, building it ends the life by a panic, before anything is started.

`launch` goes as far as the intake runs, and `shutdown` is the rest; between them connections come
and go.
-/

namespace AgentIntake.Service

/-- The intake of the service, which no observers follow. -/
abbrev Collector := Intake Empty

/-- Something that happens in a life.  A stage is reported under the telemetry of that moment;
records of the main thread are `logged`, those of any other thread `noted`. -/
inductive Event where
  | reported (report : Bootstrap.Report)
  | intake (effect : Intake.Effect Envelope)
  | noted (thread : String) (record : Log.Record)
  | logged (record : Log.Record)

/-! ## 1.  Records -/

/-- The thread that launches and stops the service. -/
def mainThread : String := "main"

/-- The thread on which the acceptor waits for connections. -/
def acceptThread : String := "collector-tcp-acceptor"

/-- The record of the acceptor's thread when it begins to wait. -/
def acceptingRecord : Log.Record :=
  ⟨.info, Connection.target, "accept loop active", []⟩

/-- The thread of a connection. -/
def connectionThread (id : Nat) : String :=
  s!"collector-tcp-connection-{id}"

/-- The record of a failure to accept connections. -/
def acceptFailedRecord (cause : String) : Log.Record :=
  ⟨.warn, Connection.target, "socket accept error", [("error", .shown cause)]⟩

/-- The record of a signal. -/
def signalRecord (number : Nat) : Log.Record :=
  ⟨.info, Log.targetOf "process", "shutdown signal received", [("signal", .whole number)]⟩

/-- The thread on which an effect happens: that of its connection, that of a pool's first worker, or
the main one.  No task of the service waits, so the first worker is idle whenever there is a task to
take. -/
def threadOf : Intake.Effect Envelope → String
  | .traffic (.of id _) | .liveness (some id) _ => connectionThread id
  | .traffic (.admitted _) | .traffic .dropped | .traffic (.logged _) => acceptThread
  | .sent _ | .requested .. => Pool.threadName Receiver.dispatchPoolName 0
  | .liveness none _ => Pool.threadName Receiver.eventPoolName 0
  | .health _ | .traffic (.cut _) | .logged _ => mainThread

/-- The notes that the placeholder collaborators make of an effect. -/
def notes : Intake.Effect Envelope → List Log.Record
  | .sent (.called path message) | .requested _ (.called path message) =>
    [Placeholder.messageRecord path message]
  | .liveness _ (.applied ping state) => [Placeholder.stateRecord ping state]
  | .liveness _ (.emitted ping event) => [Placeholder.eventRecord ping event]
  | _ => []

/-- The records of an effect with the thread that makes them; `health` is the record that a reporter
makes of a stage. -/
def effectRecords (health : HealthEvent → Option Log.Record) (effect : Intake.Effect Envelope) :
    List (String × Log.Record) :=
  ((effect.record? health).toList ++ notes effect).map fun r => (threadOf effect, r)

/-- The records of an event with the thread that makes them, each under the telemetry of that time;
`telemetry` is that of the whole life after the bootstrap. -/
def Event.records (health : HealthEvent → Option Log.Record) (telemetry : Option Telemetry) :
    Event → List (Option Telemetry × String × Log.Record)
  | .reported (before, event) => (health event).toList.map fun r => (before, mainThread, r)
  | .intake effect => (effectRecords health effect).map fun r => (telemetry, r)
  | .noted thread r => [(telemetry, thread, r)]
  | .logged r => [(telemetry, mainThread, r)]

/-- The stage that an event reports. -/
def Event.health? : Event → Option HealthEvent
  | .reported (_, event) | .intake (.health event) => some event
  | .intake _ | .noted .. | .logged _ => none

/-! ## 2.  Stages -/

/-- The time a stop waits for each pool, in milliseconds. -/
def grace : Nat := Drain.defaultGrace

/-- What happens to a receiver's pools while one of them is waited for. -/
abbrev Progress := Receiver.Executor → Receiver ReplyTo Empty → Receiver ReplyTo Empty

/-- Stops the intake. -/
def stopped (n : Collector) (network : Acceptor.Network) (progress : Progress) :
    Collector × List Event × ShutdownOutcome :=
  let (m, effects, outcome) := n.stop network progress
  (m, effects.map .intake, outcome)

/-- Why a launch failed, and the intake that it leaves behind, if it has built one. -/
abbrev Failure := LaunchError × Option Collector

/-- Builds and starts the intake of a configuration; if it cannot be started it is stopped. -/
def started (room : Room) (config : Config) (network : Acceptor.Network) (progress : Progress) :
    List Event × Attempt Failure Collector :=
  match Intake.new room config none [] grace network .new with
  | (built, .failed e) => (built.map .intake, .failed (.receiver e, none))
  | (built, .panicked p) => (built.map .intake, .panicked p)
  | (built, .returned n) =>
    let (m, effects, result) := n.start network
    let events := (built ++ effects).map Event.intake
    match result with
    | .ok () => (events ++ [Event.noted acceptThread acceptingRecord], .returned m)
    | .error e =>
      let (left, more, _) := stopped m network progress
      (events ++ more, .failed (.receiver e, some left))

/-- Bootstraps and starts the intake; also gives the telemetry afterwards. -/
def launch (room : Room) (slot : Telemetry.Slot) (loaded : Except LoadError Config)
    (network : Acceptor.Network) (progress : Progress) :
    Option Telemetry × List Event × Attempt Failure Collector :=
  match Bootstrap.run slot loaded with
  | (telemetry, reports, .error e) =>
      (telemetry, reports.map .reported, .failed (.bootstrap e, none))
  | (telemetry, reports, .ok config) =>
    let (events, result) := started room config network progress
    (telemetry, reports.map .reported ++ events, result)

/-- Takes what a connection does at a time given in milliseconds since 1970, and lets the workers
get on; `written id n` is the failure, if any, of the write number `n` on the connection `id`. -/
def next (n : Collector) (written : Nat → Nat → Option TransportError) (stamp : UInt64)
    (event : TrafficEvent) : Collector × List (Intake.Effect Envelope) :=
  let (taken, effects) := n.take written stamp Placeholder.sink event
  let (settled, more) :=
    taken.settle Placeholder.codec Placeholder.handler (fun _ _ => .value ()) Placeholder.sink
  (settled, effects ++ more)

/-- The frame that an effect puts on a connection, with the connection's number. -/
def frame? : Intake.Effect Envelope → Option (Nat × Frame) :=
  Intake.Effect.frame?

/-- Stops the intake after the wait for a signal, which ended with the number of one, or with
nothing to tell, or with an error. -/
def shutdown (n : Collector) (network : Acceptor.Network) (progress : Progress)
    (signal : Except SignalError (Option Nat)) :
    Collector × List Event × Except LaunchError ShutdownOutcome :=
  let (left, events, outcome) := stopped n network progress
  match signal with
  | .error e => (left, events, .error (.signal e))
  | .ok number =>
    (left, (number.map fun n => Event.logged (signalRecord n)).toList ++ events,
      if outcome = .interrupted then .error .interrupted else .ok outcome)

/-- A life that has ended: the telemetry, what has happened, the intake as it is left, if one was
built, and what the life has come to. -/
structure Life where
  telemetry : Option Telemetry
  events : List Event
  left : Option Collector
  result : Attempt LaunchError ShutdownOutcome

/-- A whole life; `serve` is what happens to the intake until the signal comes. -/
def life (room : Room) (slot : Telemetry.Slot) (loaded : Except LoadError Config)
    (network : Acceptor.Network) (progress : Progress)
    (serve : Collector → Collector × List (Intake.Effect Envelope))
    (signal : Except SignalError (Option Nat)) : Life :=
  match launch room slot loaded network progress with
  | (telemetry, events, .failed (e, left)) => ⟨telemetry, events, left, .failed e⟩
  | (telemetry, events, .panicked p) => ⟨telemetry, events, none, .panicked p⟩
  | (telemetry, events, .returned n) =>
    let (m, served) := serve n
    let (left, more, result) := shutdown m network progress signal
    ⟨telemetry, events ++ served.map .intake ++ more, some left, .ofExcept result⟩

/-- A whole life in a process in which nobody else writes the log. -/
def run (room : Room) (loaded : Except LoadError Config) (network : Acceptor.Network)
    (progress : Progress) (serve : Collector → Collector × List (Intake.Effect Envelope))
    (signal : Except SignalError (Option Nat)) :
    Option Telemetry × List Event × Attempt LaunchError ShutdownOutcome :=
  let ended := life room .free loaded network progress serve signal
  (ended.telemetry, ended.events, ended.result)

end AgentIntake.Service
