import AgentIntake.Config.LogFormat
import AgentIntake.Text.Blank

/-!
# Configuration

A `Config` has a value for each of its nine settings.  A document gives some of them, which are its
`Settings`; what it does not give has its default.
-/

namespace AgentIntake

/-- The configuration of a collector: where to listen; how many workers dispatch messages, and how
many messages may wait for them; the same for signs of life, which are recorded at once if there are
no workers; the hosts from which health probes come; which log records are written, and how. -/
structure Config where
  listenIp : String
  listenPort : UInt16
  workerThreads : UInt64
  workerQueueSize : UInt64
  eventWorkerThreads : UInt64
  eventWorkerQueueSize : UInt64
  probeHosts : List String
  logFilter : String
  logFormat : LogFormat
  deriving DecidableEq

/-- The settings that a document gives. -/
structure Settings where
  listenIp : Option String
  listenPort : Option UInt16
  workerThreads : Option UInt64
  workerQueueSize : Option UInt64
  eventWorkerThreads : Option UInt64
  eventWorkerQueueSize : Option UInt64
  probeHosts : Option (List String)
  logFilter : Option String
  logFormat : Option LogFormat
  deriving DecidableEq

/-! ## 1.  Defaults -/

namespace Config

/-- The default of `listen_ip`. -/
def presetListenIp : String := "0.0.0.0"

/-- The default of `listen_port`. -/
def presetListenPort : UInt16 := 9994

/-- The default of `worker_threads`. -/
def presetWorkerThreads : UInt64 := 16

/-- The default of `worker_queue_size`. -/
def presetWorkerQueueSize : UInt64 := 1024

/-- The default of `event_worker_threads`. -/
def presetEventWorkerThreads : UInt64 := 4

/-- The default of `event_worker_queue_size`. -/
def presetEventWorkerQueueSize : UInt64 := 1024

/-- The default of `log_filter`. -/
def presetLogFilter : String := "info"

/-- The default of `log_format`. -/
def presetLogFormat : LogFormat := .json

/-- The configuration when nothing is set. -/
def default : Config where
  listenIp := presetListenIp
  listenPort := presetListenPort
  workerThreads := presetWorkerThreads
  workerQueueSize := presetWorkerQueueSize
  eventWorkerThreads := presetEventWorkerThreads
  eventWorkerQueueSize := presetEventWorkerQueueSize
  probeHosts := []
  logFilter := presetLogFilter
  logFormat := presetLogFormat

instance : Inhabited Config := ⟨default⟩

end Config

/-! ## 2.  Settings -/

namespace Settings

/-- No settings. -/
def none : Settings :=
  ⟨.none, .none, .none, .none, .none, .none, .none, .none, .none⟩

/-- The configuration in which what is not set has its default. -/
def config (s : Settings) : Config where
  listenIp := s.listenIp.getD Config.presetListenIp
  listenPort := s.listenPort.getD Config.presetListenPort
  workerThreads := s.workerThreads.getD Config.presetWorkerThreads
  workerQueueSize := s.workerQueueSize.getD Config.presetWorkerQueueSize
  eventWorkerThreads := s.eventWorkerThreads.getD Config.presetEventWorkerThreads
  eventWorkerQueueSize := s.eventWorkerQueueSize.getD Config.presetEventWorkerQueueSize
  probeHosts := s.probeHosts.getD []
  logFilter := s.logFilter.getD Config.presetLogFilter
  logFormat := s.logFormat.getD Config.presetLogFormat

end Settings

/-! ## 3.  Validity -/

namespace Config

/-- What is wrong with a configuration: a size is zero, or the address to listen at is blank. -/
inductive Invalid where
  | notPositive (setting : String)
  | blankListenIp
  deriving DecidableEq, Inhabited

/-- The wording. -/
def Invalid.message : Invalid → String
  | notPositive setting => s!"{setting} must be greater than zero"
  | blankListenIp => "listen_ip must not be blank"

/-- The first thing that is wrong, if there is one. -/
def invalid? (c : Config) : Option Invalid :=
  if (Blank.trim c.listenIp).isEmpty then some .blankListenIp
  else if c.workerThreads = 0 then some (.notPositive "worker_threads")
  else if c.workerQueueSize = 0 then some (.notPositive "worker_queue_size")
  else if 0 < c.eventWorkerThreads ∧ c.eventWorkerQueueSize = 0 then
    some (.notPositive "event_worker_queue_size")
  else none

end Config

end AgentIntake
