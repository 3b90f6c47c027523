import AgentIntake.Attempt

/-!
# Work

What a worker does with one task, in order: effects that others can see, and waits for something
outside.  A wait holds up everything after it.
-/

namespace AgentIntake

/-- One thing a worker does. -/
inductive WorkStep (ε : Type) where
  | effect (e : ε)
  | wait
  deriving DecidableEq

/-- What a worker does with one task. -/
abbrev Work (ε : Type) := List (WorkStep ε)

namespace Work

variable {ε δ α : Type}

/-- A single effect. -/
def one (e : ε) : Work ε :=
  [.effect e]

/-- The wait of a call, if it has one. -/
def waiting (r : Reaction δ α) : Work ε :=
  if r.waits then [.wait] else []

/-- The same work with other effects. -/
def map (f : ε → δ) (w : Work ε) : Work δ :=
  List.map (fun | .effect e => .effect (f e) | .wait => .wait) w

/-- All effects. -/
def effects : Work ε → List ε
  | [] => []
  | .effect e :: rest => e :: effects rest
  | .wait :: rest => effects rest

/-- The effects before the first wait. -/
def beforeWait : Work ε → List ε
  | [] => []
  | .effect e :: rest => e :: beforeWait rest
  | .wait :: _ => []

/-- The effects after the first wait, when nothing holds up the later ones. -/
def afterWait : Work ε → List ε
  | [] => []
  | .effect _ :: rest => afterWait rest
  | .wait :: rest => effects rest

/-- The work has a wait. -/
def hasWait : Work ε → Bool
  | [] => false
  | .effect _ :: rest => hasWait rest
  | .wait :: _ => true

theorem beforeWait_append_afterWait (w : Work ε) : w.beforeWait ++ w.afterWait = w.effects := by
  induction w with
  | nil => rfl
  | cons step rest ih =>
    cases step with
    | effect e => exact congrArg (e :: ·) ih
    | wait => rfl

@[simp] theorem effects_append (v w : Work ε) : effects (v ++ w) = effects v ++ effects w := by
  induction v with
  | nil => rfl
  | cons step rest ih =>
    cases step with
    | effect e => exact congrArg (e :: ·) ih
    | wait => exact ih

@[simp] theorem effects_waiting (r : Reaction δ α) : effects (waiting r : Work ε) = [] := by
  unfold waiting
  split <;> rfl

end Work

end AgentIntake
