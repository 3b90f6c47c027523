import AgentIntake.Bootstrap.Error
import AgentIntake.Log.Record
import AgentIntake.Probe

/-!
# Health events

The stages of the collector's life as a reporter sees them, and the log record that the structured
reporter makes of each.
-/

namespace AgentIntake

/-- How a shutdown ended: every pool finished its work, or one was still busy when its time was up,
or a wait was cut short; or there was nothing to stop any more. -/
inductive ShutdownOutcome where
  | drained
  | timedOut
  | interrupted
  | alreadyStopped
  deriving DecidableEq, Inhabited

/-- The name of an outcome. -/
def ShutdownOutcome.text : ShutdownOutcome → String
  | drained => "Drained"
  | timedOut => "TimedOut"
  | interrupted => "Interrupted"
  | alreadyStopped => "AlreadyStopped"

instance : Diagnostic Probe.Failure where
  kind
    | .lookup .. => "Lookup"
    | .empty _ => "Empty"
  message := Probe.Failure.message
  causes := Probe.Failure.causes

/-- A stage of the collector's life.  `receiverStarting` stands before the acceptor is bound and
`receiverBound` after that. -/
inductive HealthEvent where
  | bootstrapStarting
  | bootstrapSucceeded (config : Config)
  | bootstrapFailed (error : BootstrapError)
  | receiverStarting (host : String) (port : UInt16)
  | receiverBound (host : String) (port : UInt16)
  | probeFailed (error : Probe.Failure)
  | receiverStopping
  | receiverStopped (outcome : ShutdownOutcome)

namespace HealthEvent

/-- The name of a stage. -/
def name : HealthEvent → String
  | bootstrapStarting => "bootstrap_starting"
  | bootstrapSucceeded _ => "bootstrap_succeeded"
  | bootstrapFailed _ => "bootstrap_failed"
  | receiverStarting .. => "receiver_starting"
  | receiverBound .. => "receiver_bound"
  | probeFailed _ => "probe_resolution_failed"
  | receiverStopping => "receiver_stopping"
  | receiverStopped _ => "receiver_stopped"

/-- What happened, in the words of the structured reporter. -/
def headline : HealthEvent → String
  | bootstrapStarting => "starting collector bootstrap"
  | bootstrapSucceeded _ => "collector bootstrap completed"
  | bootstrapFailed _ => "collector bootstrap failed"
  | receiverStarting .. => "starting tcp receiver"
  | receiverBound .. => "tcp receiver accepting connections"
  | probeFailed _ => "probe ignore list disabled"
  | receiverStopping => "stopping tcp receiver"
  | receiverStopped .drained => "tcp receiver stopped"
  | receiverStopped _ => "tcp receiver stopped before workers drained"

/-- How important a stage is. -/
def level : HealthEvent → Log.Level
  | bootstrapFailed _ => .error
  | probeFailed _ => .warn
  | receiverStopped outcome => if outcome = .drained then .info else .warn
  | _ => .info

/-- What belongs to a stage. -/
def details : HealthEvent → List (String × Log.FieldValue)
  | bootstrapStarting | receiverStopping => []
  | bootstrapSucceeded config =>
    [("listen_ip", .shown config.listenIp), ("listen_port", .whole config.listenPort.toNat),
      ("worker_threads", .whole config.workerThreads.toNat),
      ("worker_queue_size", .whole config.workerQueueSize.toNat),
      ("event_worker_threads", .whole config.eventWorkerThreads.toNat),
      ("log_format", .shown config.logFormat.title)]
  | bootstrapFailed error => [("error", .shown error.message)]
  | receiverStarting host port | receiverBound host port =>
    [("host", .text host), ("port", .whole port.toNat)]
  | probeFailed error => [("error", .shown error.message)]
  | receiverStopped outcome => [("outcome", .shown outcome.text)]

/-- The record that the structured reporter makes of a stage. -/
def record (event : HealthEvent) : Log.Record where
  level := event.level
  target := Log.targetOf "health"
  message := event.headline
  fields := ("event", .text event.name) :: event.details

end HealthEvent

end AgentIntake
