/-!
# Errors as they are reported

An error is a value that says what happened.  How it is told is a matter of its own: the name of its
kind, its wording, and the wordings of what lies behind it, nearest first.
-/

namespace AgentIntake

/-- A type of errors that can be told: the name of the kind of error, its wording, and the wordings
of what lies behind it, nearest first. -/
class Diagnostic (ε : Type) where
  kind : ε → String
  message : ε → String
  causes : ε → List String

/-- The wordings of an error that lies behind another, and of what lies behind it. -/
def Diagnostic.chain {ε : Type} [Diagnostic ε] (e : ε) : List String :=
  message e :: causes e

end AgentIntake
