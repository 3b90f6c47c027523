import AgentIntake.Diagnostic

/-!
# Errors of lifecycle sinks
-/

namespace AgentIntake

/-- Why a sink did not record a sign of life: what lies behind it. -/
structure LifecycleError where
  cause : String
  deriving DecidableEq, Inhabited

instance : Diagnostic LifecycleError where
  kind _ := "LifecycleError"
  message e := s!"lifecycle update failed: {e.cause}"
  causes _ := []

end AgentIntake
