/-!
# Collaborators that may fail

The collector drives code that is not its own: codecs, handlers, sinks, reply handles.  A call of it
returns a value, fails with an error or panics; and it may wait first for something outside, holding
up whoever called.
-/

namespace AgentIntake

/-- What a panic carries: a text or something else. -/
inductive PanicPayload where
  | text (s : String)
  | other
  deriving DecidableEq, Inhabited

/-- The wording of a panic. -/
def PanicPayload.message : PanicPayload → String
  | text s => s
  | other => "non-string panic payload"

/-- How a call ends: with a value, an error or a panic. -/
inductive Attempt (ε α : Type) where
  | returned (value : α)
  | failed (error : ε)
  | panicked (payload : PanicPayload)
  deriving Inhabited

namespace Attempt

variable {ε α β : Type}

/-- The attempt with another value. -/
def map (f : α → β) : Attempt ε α → Attempt ε β
  | returned a => returned (f a)
  | failed e => failed e
  | panicked p => panicked p

/-- An attempt without a panic. -/
def ofExcept : Except ε α → Attempt ε α
  | .ok a => returned a
  | .error e => failed e

end Attempt

/-- How a call ends, and whether it waits first for something outside. -/
structure Reaction (ε α : Type) where
  waits : Bool
  outcome : Attempt ε α
  deriving Inhabited

namespace Reaction

variable {ε α : Type}

/-- A call that returns at once. -/
def value (a : α) : Reaction ε α :=
  ⟨false, .returned a⟩

/-- A call that fails at once. -/
def failure (e : ε) : Reaction ε α :=
  ⟨false, .failed e⟩

end Reaction

end AgentIntake
