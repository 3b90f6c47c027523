import AgentIntake.Diagnostic

/-!
# Errors of worker pools
-/

namespace AgentIntake

/-- Why a pool was not built or did not take a task. -/
inductive PoolError where
  | noThreads (pool : String)
  | noCapacity (pool : String)
  | spawn (pool : String) (cause : String)
  | rejected (pool : String) (capacity : Nat)
  | shutdown (pool : String)
  deriving DecidableEq, Inhabited

namespace PoolError

/-- The task was not taken, as opposed to: the pool was not built. -/
def isRejection : PoolError → Bool
  | rejected .. | shutdown _ => true
  | noThreads _ | noCapacity _ | spawn .. => false

/-- The wording. -/
def message : PoolError → String
  | noThreads pool => s!"worker pool '{pool}' needs at least one thread"
  | noCapacity pool => s!"worker pool '{pool}' needs a queue capacity of at least one"
  | spawn pool cause => s!"failed to spawn worker thread for pool '{pool}': {cause}"
  | rejected pool capacity => s!"task rejected by '{pool}': queue full ({capacity} pending)"
  | shutdown pool => s!"task rejected by '{pool}': pool is shut down"

instance : Diagnostic PoolError where
  kind
    | noThreads _ => "NoThreads"
    | noCapacity _ => "NoCapacity"
    | spawn .. => "Spawn"
    | rejected .. => "Rejected"
    | shutdown _ => "Shutdown"
  message := message
  causes
    | spawn _ cause => [cause]
    | _ => []

end PoolError

end AgentIntake
