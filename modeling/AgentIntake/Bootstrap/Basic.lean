import AgentIntake.Health
import AgentIntake.Log.Filter

/-!
# Bootstrap

A configuration is loaded and checked, and then telemetry is installed for the whole process: the
filter and the format of the log.  Telemetry is installed once, by the first bootstrap that
succeeds; later ones leave it as it is and do not look at their own filter any more.  Where somebody
else has taken the log, none is installed, and bootstrap fails.
-/

namespace AgentIntake

/-- How a process writes its log. -/
structure Telemetry where
  filter : Log.Filter
  format : LogFormat

namespace Telemetry

/-- The telemetry of a configuration. -/
def ofConfig (config : Config) : Except TelemetryError Telemetry :=
  match Log.Filter.parse config.logFilter with
  | .ok filter => .ok ⟨filter, config.logFormat⟩
  | .error fault => .error (.filter fault.message)

/-- Who writes the log of a process: nobody yet, or the collector with the telemetry that an earlier
bootstrap has installed, or somebody else; the cause is what whoever wants to install telemetry is
told then. -/
inductive Slot where
  | free
  | taken (telemetry : Telemetry)
  | foreign (cause : String)

namespace Slot

/-- The slot of a process in which nobody else writes. -/
def of : Option Telemetry → Slot
  | some telemetry => taken telemetry
  | none => free

/-- The telemetry that is installed. -/
def telemetry? : Slot → Option Telemetry
  | taken telemetry => some telemetry
  | free | foreign _ => none

/-- The telemetry after that of a configuration is installed. -/
def install (slot : Slot) (config : Config) : Except TelemetryError Telemetry :=
  match slot with
  | taken telemetry => .ok telemetry
  | free => ofConfig config
  | foreign cause => (ofConfig config).bind fun _ => .error (.subscriber cause)

end Slot

end Telemetry

namespace Bootstrap

open Telemetry (Slot)

/-- What was reported, and the telemetry at that time. -/
abbrev Report := Option Telemetry × HealthEvent

/-- The configuration that was loaded, if it is valid, and the telemetry then. -/
def prepare (slot : Slot) (loaded : Except LoadError Config) :
    Except BootstrapError (Telemetry × Config) :=
  match loaded with
  | .error e => .error (.configuration e)
  | .ok config =>
    match config.invalid? with
    | some e => .error (.invalid e)
    | none =>
      match slot.install config with
      | .error e => .error (.telemetry e)
      | .ok telemetry => .ok (telemetry, config)

/-- A bootstrap: the telemetry afterwards, what was reported, and the configuration. -/
def run (slot : Slot) (loaded : Except LoadError Config) :
    Option Telemetry × List Report × Except BootstrapError Config :=
  let installed := slot.telemetry?
  match prepare slot loaded with
  | .error e =>
    (installed, [(installed, .bootstrapStarting), (installed, .bootstrapFailed e)], .error e)
  | .ok (telemetry, config) =>
    (some telemetry,
      [(installed, .bootstrapStarting), (some telemetry, .bootstrapSucceeded config)], .ok config)

/-- Bootstraps in order in one process. -/
def runAll (installed : Option Telemetry) :
    List (Except LoadError Config) →
      Option Telemetry × List (List Report × Except BootstrapError Config)
  | [] => (installed, [])
  | loaded :: rest =>
    let (telemetry, reports, result) := run (.of installed) loaded
    let (final, results) := runAll telemetry rest
    (final, (reports, result) :: results)

end Bootstrap

end AgentIntake
