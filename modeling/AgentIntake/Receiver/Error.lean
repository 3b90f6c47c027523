import AgentIntake.Config.Basic
import AgentIntake.Pool.Error
import AgentIntake.Transport.Error

/-!
# Errors of the receiver
-/

namespace AgentIntake

instance : Diagnostic Config.Invalid where
  kind
    | .notPositive _ => "NotPositive"
    | .blankListenIp => "BlankListenIp"
  message := Config.Invalid.message
  causes _ := []

/-- Why a receiver was not built or not started. -/
inductive ReceiverError where
  | config (error : Config.Invalid)
  | pool (error : PoolError)
  | bind (error : TransportError)
  | alreadyStarted
  | stopped
  deriving DecidableEq, Inhabited

namespace ReceiverError

/-- The wording. -/
def message : ReceiverError → String
  | config e => s!"invalid receiver configuration: {e.message}"
  | pool e => s!"failed to build executor: {e.message}"
  | bind e => s!"failed to bind receiver: {e.message}"
  | alreadyStarted => "receiver already started"
  | stopped => "receiver has been stopped"

instance : Diagnostic ReceiverError where
  kind
    | config _ => "Config"
    | pool _ => "Pool"
    | bind _ => "Bind"
    | alreadyStarted => "AlreadyStarted"
    | stopped => "Stopped"
  message := message
  causes
    | config e => Diagnostic.chain e
    | pool e => Diagnostic.chain e
    | bind e => Diagnostic.chain e
    | alreadyStarted | stopped => []

end ReceiverError

end AgentIntake
