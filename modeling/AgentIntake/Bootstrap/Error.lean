import AgentIntake.Config.Load
import AgentIntake.Receiver.Error

/-!
# Errors of bootstrap and launch
-/

namespace AgentIntake

/-- Why telemetry was not set up: the log filter has no meaning, or the log of the process is in
other hands. -/
inductive TelemetryError where
  | filter (message : String)
  | subscriber (cause : String)
  deriving DecidableEq, Inhabited

/-- The wording. -/
def TelemetryError.message : TelemetryError → String
  | filter message => s!"invalid log filter: {message}"
  | subscriber cause => s!"failed to install telemetry subscriber: {cause}"

/-- Why bootstrap failed. -/
inductive BootstrapError where
  | configuration (error : LoadError)
  | invalid (error : Config.Invalid)
  | telemetry (error : TelemetryError)
  deriving Inhabited

namespace BootstrapError

/-- The wording. -/
def message : BootstrapError → String
  | configuration e => s!"failed to load configuration: {e.message}"
  | invalid e => s!"invalid configuration: {e.message}"
  | telemetry e => s!"failed to initialise telemetry: {e.message}"

instance : Diagnostic BootstrapError where
  kind
    | configuration _ => "Configuration"
    | invalid _ => "Invalid"
    | telemetry _ => "Telemetry"
  message := message
  causes
    | configuration e => [e.message]
    | invalid e => [e.message]
    | telemetry e => [e.message]

end BootstrapError

/-- Why the wait for a signal failed: the signal handlers could not be installed. -/
structure SignalError where
  cause : String
  deriving DecidableEq, Inhabited

instance : Diagnostic SignalError where
  kind _ := "Install"
  message e := s!"failed to install signal handlers: {e.cause}"
  causes e := [e.cause]

/-- Why the collector did not run to its end.  It is `interrupted` when the wait for its pools was
cut short. -/
inductive LaunchError where
  | bootstrap (error : BootstrapError)
  | receiver (error : ReceiverError)
  | signal (error : SignalError)
  | interrupted
  deriving Inhabited

namespace LaunchError

/-- The wording. -/
def message : LaunchError → String
  | bootstrap e => s!"collector bootstrap failed: {e.message}"
  | receiver e => s!"receiver failed: {e.message}"
  | signal e => "failed to await shutdown signal: " ++ Diagnostic.message e
  | interrupted => "shutdown interrupted before the executors drained"

instance : Diagnostic LaunchError where
  kind
    | bootstrap _ => "Bootstrap"
    | receiver _ => "Receiver"
    | signal _ => "Shutdown"
    | interrupted => "Interrupted"
  message := message
  causes
    | bootstrap e => Diagnostic.chain e
    | receiver e => Diagnostic.chain e
    | signal e => Diagnostic.chain e
    | interrupted => []

end LaunchError

end AgentIntake
