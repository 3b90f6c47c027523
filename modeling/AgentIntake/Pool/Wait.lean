import AgentIntake.Pool.Basic

/-!
# Waiting for the workers of a pool

Whoever waits for the workers of a pool to leave looks how many are left: at once, when one has
left, and when the time is up.  The first look that finds none ends the wait, and so does the first
one that comes when the time is up.  A look that finds none counts even then.

Nothing is done to the pool by a wait.
-/

namespace AgentIntake

/-- How a wait for the workers of a pool ends: all have left, or the time is up and some are
left. -/
inductive DrainOutcome where
  | drained
  | timedOut
  deriving DecidableEq

namespace DrainOutcome

/-- The name of an outcome. -/
def text : DrainOutcome → String
  | drained => "Drained"
  | timedOut => "TimedOut"

/-- What a look comes to that finds `live` workers when the wait has gone on for `elapsed`: nothing,
as long as there is time. -/
def ofLook? (timeout elapsed live : Nat) : Option DrainOutcome :=
  if live = 0 then some .drained
  else if timeout < elapsed then some .timedOut
  else none

/-- A look ends a wait in one of two ways, or not at all. -/
theorem ofLook?_cases (timeout elapsed live : Nat) :
    live = 0 ∧ ofLook? timeout elapsed live = some .drained ∨
      live ≠ 0 ∧ timeout < elapsed ∧ ofLook? timeout elapsed live = some .timedOut ∨
        live ≠ 0 ∧ elapsed ≤ timeout ∧ ofLook? timeout elapsed live = none := by
  unfold ofLook?
  by_cases hl : live = 0
  · exact .inl ⟨hl, if_pos hl⟩
  · rw [if_neg hl]
    by_cases he : timeout < elapsed
    · exact .inr (.inl ⟨hl, he, if_pos he⟩)
    · exact .inr (.inr ⟨hl, Nat.le_of_not_lt he, if_neg he⟩)

/-- Whether a look finds a worker decides how it ends a wait. -/
theorem of_ofLook? {timeout elapsed live : Nat} {outcome : DrainOutcome}
    (h : ofLook? timeout elapsed live = some outcome) :
    (outcome = .drained ↔ live = 0) ∧
      (outcome = .timedOut ↔ live ≠ 0) ∧ (outcome = .timedOut → timeout < elapsed) := by
  rcases ofLook?_cases timeout elapsed live with ⟨hl, he⟩ | ⟨hl, ht, he⟩ | ⟨-, -, he⟩
  · cases he.symm.trans h
    simp [hl]
  · cases he.symm.trans h
    simp [hl, ht]
  · cases he.symm.trans h

end DrainOutcome

namespace Pool

variable {α : Type}

/-- Waits for the workers of a pool, with a look at each of these moments: the pool as it is then,
and for how long the wait has gone on.  Gives how the wait ends, and the pool; nothing if it goes
on. -/
def await? (timeout : Nat) : List (Pool α × Nat) → Option (DrainOutcome × Pool α)
  | [] => none
  | (p, elapsed) :: looks =>
    match DrainOutcome.ofLook? timeout elapsed p.live with
    | some outcome => some (outcome, p)
    | none => await? timeout looks

end Pool

end AgentIntake
